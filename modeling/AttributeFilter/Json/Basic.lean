/-
**JSON values.**

A decoded JSON value. A number is a whole number, from `-2 ^ 63` to `2 ^ 64 - 1`, or a double. The
members of an object keep the order in which their keys were first written.

* `Json.kind` — the word for what a value is, as messages use it.
* `insertMember` — a repeated key keeps its place and takes the later value.
-/

namespace AttributeFilter

/-- A number of a JSON text: whole where it was written without fraction and exponent and fits, a
double otherwise. -/
inductive JsonNumber
  | integer (value : Int)
  | float (value : Float)
deriving Repr

/-- A decoded JSON value. -/
inductive Json
  | null
  | boolean (value : Bool)
  | number (value : JsonNumber)
  | text (value : String)
  | array (items : List Json)
  | object (members : List (String × Json))
deriving Repr

namespace Json

/-- The word for what a value is. -/
def kind : Json → String
  | .null => "null"
  | .boolean _ => "boolean"
  | .number _ => "number"
  | .text _ => "string"
  | .array _ => "array"
  | .object _ => "object"

/-- The keys of a value, if it is an object. -/
def keys? : Json → Option (List String)
  | .object members => some (members.map Prod.fst)
  | _ => none

/-- Set a member: a known key keeps its place, a new one comes last. -/
def insertMember (key : String) (value : Json) : List (String × Json) → List (String × Json)
  | [] => [(key, value)]
  | (known, older) :: rest =>
    if known = key then (known, value) :: rest else (known, older) :: insertMember key value rest

/-- The members in order of first mention, each with the value written last. -/
def mergeMembers (members : List (String × Json)) : List (String × Json) :=
  members.foldl (fun known member => insertMember member.1 member.2 known) []

end Json

end AttributeFilter
