/-
**JSON texts as written.**

A `JsonForm` is the tree that a text spells: repeated keys are still there, numbers and quoted texts
are known by their parts. Reading a text takes two steps:

* `JsonForm.ofText?` checks the grammar alone. It takes one token at a time and keeps the containers
  that are still open on a stack.
* `JsonForm.json?` decodes the tree: it refuses numbers beyond all doubles, surrogates without a
  partner and more than 127 containers inside each other, and merges repeated keys.
-/

import AttributeFilter.Json.Numeral
import AttributeFilter.Json.Token
import AttributeFilter.Json.Escape

namespace AttributeFilter

/-- A JSON text as written. Quoted texts are the code points and surrogates that they spell. -/
inductive JsonForm
  | null
  | boolean (value : Bool)
  | number (numeral : Numeral)
  | text (codes : List Nat)
  | array (items : List JsonForm)
  | object (members : List (List Nat × JsonForm))

namespace JsonForm

/-! ### Assembling the tree -/

/-- A container that is still open: its finished parts, latest first, and for an object the key
whose value is being read. -/
inductive Frame
  | array (items : List JsonForm)
  | object (members : List (List Nat × JsonForm)) (key : List Nat)

/-- What has been read, and with it what may come next. -/
inductive Assembly
  | value (frames : List Frame)
  | firstItem (frames : List Frame)
  | firstKey (frames : List Frame)
  | nextKey (members : List (List Nat × JsonForm)) (frames : List Frame)
  | colon (members : List (List Nat × JsonForm)) (key : List Nat) (frames : List Frame)
  | complete (form : JsonForm) (frames : List Frame)

/-- The value that a single token spells. -/
def ofToken? : JsonToken → Option JsonForm
  | .word letters =>
    match String.ofList letters with
    | "null" => some .null
    | "true" => some (.boolean true)
    | "false" => some (.boolean false)
    | _ => none
  | .number written => (Numeral.ofChars? written).map .number
  | .text written => (JsonEscape.codes? written).map .text
  | _ => none

namespace Assembly

/-- Take the first token of a value. -/
def beginValue (frames : List Frame) : JsonToken → Option Assembly
  | .openArray => some (.firstItem frames)
  | .openObject => some (.firstKey frames)
  | token => (ofToken? token).map (.complete · frames)

/-- Take the key of a member. -/
def beginMember (members : List (List Nat × JsonForm)) (frames : List Frame) :
    JsonToken → Option Assembly
  | .text written => (JsonEscape.codes? written).map (.colon members · frames)
  | _ => none

/-- Take the token after a value: another part follows, or the container ends. -/
def afterValue (form : JsonForm) : List Frame → JsonToken → Option Assembly
  | .array items :: frames, .comma => some (.value (.array (form :: items) :: frames))
  | .array items :: frames, .closeArray =>
    some (.complete (.array (form :: items).reverse) frames)
  | .object members key :: frames, .comma => some (.nextKey ((key, form) :: members) frames)
  | .object members key :: frames, .closeObject =>
    some (.complete (.object ((key, form) :: members).reverse) frames)
  | _, _ => none

/-- Take the next token. -/
def step : Assembly → JsonToken → Option Assembly
  | .value frames, token => beginValue frames token
  | .firstItem frames, .closeArray => some (.complete (.array []) frames)
  | .firstItem frames, token => beginValue (.array [] :: frames) token
  | .firstKey frames, .closeObject => some (.complete (.object []) frames)
  | .firstKey frames, token => beginMember [] frames token
  | .nextKey members frames, token => beginMember members frames token
  | .colon members key frames, .colon => some (.value (.object members key :: frames))
  | .colon _ _ _, _ => none
  | .complete form frames, token => afterValue form frames token

/-- The tree, once nothing is open any more. -/
def finish? : Assembly → Option JsonForm
  | .complete form [] => some form
  | _ => none

end Assembly

/-- The tree that a text spells. -/
def ofText? (text : String) : Option JsonForm := do
  let tokens ← JsonToken.ofText? text.toList
  let assembly ← tokens.foldlM Assembly.step (.value [])
  assembly.finish?

/-! ### Decoding the tree -/

/-- The text that codes spell. -/
def textOf? (codes : List Nat) : Option String := (JsonEscape.chars? codes).map String.ofList

mutual

/-- The number of containers inside each other. -/
def depth : JsonForm → Nat
  | .array items => itemsDepth items + 1
  | .object members => membersDepth members + 1
  | _ => 0

/-- The depth of the deepest item. -/
def itemsDepth : List JsonForm → Nat
  | [] => 0
  | item :: rest => max item.depth (itemsDepth rest)

/-- The depth of the deepest member. -/
def membersDepth : List (List Nat × JsonForm) → Nat
  | [] => 0
  | (_, form) :: rest => max form.depth (membersDepth rest)

end

mutual

/-- The value of a tree of any depth. -/
def value? : JsonForm → Option Json
  | .null => some .null
  | .boolean value => some (.boolean value)
  | .number numeral => numeral.number?.map .number
  | .text codes => (textOf? codes).map .text
  | .array items => (itemValues? items).map .array
  | .object members => (memberValues? members).map fun list => .object (Json.mergeMembers list)

/-- The values of all items. -/
def itemValues? : List JsonForm → Option (List Json)
  | [] => some []
  | item :: rest => do return (← item.value?) :: (← itemValues? rest)

/-- The keys and values of all members. -/
def memberValues? : List (List Nat × JsonForm) → Option (List (String × Json))
  | [] => some []
  | (key, form) :: rest => do
    return (← textOf? key, ← form.value?) :: (← memberValues? rest)

end

/-- How many containers may be inside each other. -/
def maxDepth : Nat := 127

/-- The value of a tree, if it is not too deep. -/
def json? (form : JsonForm) : Option Json :=
  if form.depth ≤ maxDepth then form.value? else none

end JsonForm

end AttributeFilter
