/-
**Filter criteria.**

A criterion compares a column with an operand by a named operator. Neither the column nor the
operator is checked here: a criterion is a request, and composing it into a scope decides about it.

* `Operand.texts` — the values to compare with, in the text form in which they are bound.
* `Criteria.size` — how many criteria a request has, the skipped entries left out.
-/

import AttributeFilter.Decimal.Layout

namespace AttributeFilter

/-- One value to compare with. -/
inductive Scalar
  | text (value : String)
  | integer (value : Int64)
  | float (value : Float)
  | boolean (value : Bool)
deriving Repr

/-- The text form of a value. -/
def Scalar.render : Scalar → String
  | .text value => value
  | .integer value => toString value.toInt
  | .float value => numberText value
  | .boolean true => "true"
  | .boolean false => "false"

/-- What a column is compared with: a single value, or a list of alternatives. -/
inductive Operand
  | single (value : Scalar)
  | list (values : List Scalar)
deriving Repr

instance : Inhabited Operand := ⟨.list []⟩

namespace Operand

/-- The values in text form. -/
def texts : Operand → List String
  | .single value => [value.render]
  | .list values => values.map Scalar.render

/-- The text of an operand that is a single text. -/
def text? : Operand → Option String
  | .single (.text value) => some value
  | _ => none

/-- Whether there is no value at all. -/
def isEmpty : Operand → Bool
  | .single _ => false
  | .list values => values.isEmpty

end Operand

/-- A request to compare a column with an operand by a named operator. -/
structure Criterion where
  column : String
  operator : String
  operand : Operand
deriving Repr

/-- What a record type is to be filtered by: nothing, one criterion, or a list that has to hold as a
whole and whose empty entries are skipped. -/
inductive Criteria
  | unrestricted
  | one (criterion : Criterion)
  | many (list : List (Option Criterion))
deriving Repr

namespace Criteria

/-- The number of criteria that apply. -/
def size : Criteria → Nat
  | .unrestricted => 0
  | .one _ => 1
  | .many list => list.countP Option.isSome

/-- Whether no criterion applies. -/
def isEmpty (criteria : Criteria) : Bool := criteria.size == 0

/-- One criterion, if there is any. -/
def ofOption : Option Criterion → Criteria
  | none => .unrestricted
  | some criterion => .one criterion

/-- A list of criteria without skipped entries. -/
def ofList (list : List Criterion) : Criteria := .many (list.map some)

end Criteria

end AttributeFilter
