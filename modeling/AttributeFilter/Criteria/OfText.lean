/-
**Criteria from JSON texts.**

A text is measured before it is read, and the criteria are counted after it. Whether the columns may
be filtered by is not asked here.
-/

import AttributeFilter.Config.Settings
import AttributeFilter.Criteria.OfJson
import AttributeFilter.Error
import AttributeFilter.Json.Embedded

namespace AttributeFilter

namespace Criteria

/-- A JSON value as criteria, with its failure among those of filtering. -/
def decode (value : Json) : Except FilterError Criteria :=
  match Criteria.ofJson value with
  | .ok criteria => .ok criteria
  | .error fault => .error (.invalidCriteriaShape fault)

/-- Refuse more criteria than the settings allow. -/
def requireCount (settings : Settings) (criteria : Criteria) : Except FilterError Unit :=
  if settings.maxCriteria < criteria.size then
    .error (.tooManyCriteria criteria.size settings.maxCriteria)
  else .ok ()

/-- Read criteria from a text. -/
def parse (text : String) (settings : Settings) : Except FilterError Criteria :=
  if settings.maxJsonBytes < text.utf8ByteSize then
    .error (.criteriaTooLarge settings.maxJsonBytes)
  else
    match Json.ofText? text with
    | none => .error .invalidJson
    | some value => do
      let criteria ← decode value
      requireCount settings criteria
      return criteria

end Criteria

/-! ### Texts of one criterion, operand or scalar

These are taken as they are written: no text is embedded in them. -/

namespace Criterion

/-- The members of a criterion whose keys are known, decoded. Other members only have to be
well-formed: their values are not decoded. -/
def knownMembers? : List (List Nat × JsonForm) → Option (List (String × Json))
  | [] => some []
  | (codes, form) :: rest => do
    let key ← JsonForm.textOf? codes
    let others ← knownMembers? rest
    if key = "column" ∨ key = "operator" ∨ key = "value" then
      return (key, ← form.value?) :: others
    else
      return others

/-- A criterion written as a list that may leave out the operand. -/
def ofShortElements : List Json → Except ShapeFault Criterion
  | [.text column, .text operator] => .ok ⟨column, operator, .list []⟩
  | [.text column, .text operator, value] => do
    return ⟨column, operator, ← memberOperand value⟩
  | elements => .error (.wrongLength elements.length)

/-- Read a criterion from a text of its own: an object, or a list of column, operator and optionally
an operand. -/
def ofText? (text : String) : Option Criterion := do
  match ← JsonForm.ofText? text with
  | .object members => (ofMembers (← knownMembers? members)).toOption
  | form =>
    match ← form.json? with
    | .array items => (ofShortElements items).toOption
    | _ => none

end Criterion

/-- Read a scalar from a text of its own. -/
def Scalar.ofText? (text : String) : Option Scalar := do
  let form ← JsonForm.ofText? text
  Scalar.ofJson? (← form.json?)

/-- Read an operand from a text of its own. -/
def Operand.ofText? (text : String) : Option Operand := do
  let form ← JsonForm.ofText? text
  Operand.ofJson? (← form.json?)

end AttributeFilter
