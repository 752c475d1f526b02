/-
**Criteria from JSON values.**

A value is read as criteria in one of these shapes:

* null or an empty list — no restriction;
* a list of column, operator and operand, or an object with these members — one criterion;
* a list of such criteria, in which null and the empty list are skipped.

What a list begins with decides between a criterion and a list of criteria. An operand is a scalar
or a list of scalars; in the list form null stands for no values, in the object form a missing
member does.
-/

import AttributeFilter.Criteria.Basic
import AttributeFilter.Criteria.ShapeFault

namespace AttributeFilter

/-! ### Operands -/

/-- A whole number as a scalar: a double where it exceeds 64 bits with sign. -/
def Scalar.ofInteger (value : Int) : Scalar :=
  if Int64.minValue.toInt ≤ value ∧ value ≤ Int64.maxValue.toInt then
    .integer (Int64.ofInt value)
  else .float (Float.ofInt value)

/-- A JSON value as a scalar. -/
def Scalar.ofJson? : Json → Option Scalar
  | .text value => some (.text value)
  | .number (.integer value) => some (.ofInteger value)
  | .number (.float value) => some (.float value)
  | .boolean value => some (.boolean value)
  | _ => none

/-- A list of JSON values as scalars. -/
def Scalar.listOfJson? : List Json → Option (List Scalar)
  | [] => some []
  | item :: rest =>
    match Scalar.ofJson? item, Scalar.listOfJson? rest with
    | some value, some values => some (value :: values)
    | _, _ => none

/-- A JSON value as an operand: a scalar, or a list of scalars. -/
def Operand.ofJson? : Json → Option Operand
  | .array items => (Scalar.listOfJson? items).map .list
  | value => (Scalar.ofJson? value).map .single

/-! ### One criterion -/

namespace Criterion

/-- The operand of a criterion written as a list. -/
def operandOfElement : Json → Except ShapeFault Operand
  | .null => .ok (.list [])
  | value =>
    match Operand.ofJson? value with
    | some operand => .ok operand
    | none => .error .operandNotScalars

/-- A criterion written as a list. -/
def ofElements : List Json → Except ShapeFault Criterion
  | [column, operator, operand] =>
    match column, operator with
    | .text columnName, .text operatorName => do
      return ⟨columnName, operatorName, ← operandOfElement operand⟩
    | .text _, _ => .error .operatorNotText
    | _, _ => .error .columnNotText
  | elements => .error (.wrongLength elements.length)

/-- The members of a criterion that have been read. -/
structure Draft where
  column : Option String
  operator : Option String
  operand : Option Operand

/-- The text of a member that must be one. -/
def memberText : Json → Except ShapeFault String
  | .text value => .ok value
  | other => .error (.memberNotText other.described)

/-- The operand of a member. -/
def memberOperand (value : Json) : Except ShapeFault Operand :=
  match Operand.ofJson? value with
  | some operand => .ok operand
  | none => .error .memberNotScalars

/-- Refuse a member that has been read before. -/
def requireNew {α : Type} (key : String) : Option α → Except ShapeFault Unit
  | none => .ok ()
  | some _ => .error (.repeatedMember key)

/-- Read one member. Other keys than the three known ones are passed over. -/
def Draft.add (draft : Draft) (key : String) (value : Json) : Except ShapeFault Draft :=
  if key = "column" then do
    requireNew key draft.column
    return { draft with column := some (← memberText value) }
  else if key = "operator" then do
    requireNew key draft.operator
    return { draft with operator := some (← memberText value) }
  else if key = "value" then do
    requireNew key draft.operand
    return { draft with operand := some (← memberOperand value) }
  else
    return draft

/-- The criterion, once all members have been read. -/
def Draft.finish (draft : Draft) : Except ShapeFault Criterion :=
  match draft.column, draft.operator with
  | some column, some operator => .ok ⟨column, operator, draft.operand.getD (.list [])⟩
  | none, _ => .error (.missingMember "column")
  | some _, none => .error (.missingMember "operator")

/-- Read the members in order. -/
def Draft.addAll (draft : Draft) : List (String × Json) → Except ShapeFault Draft
  | [] => .ok draft
  | (key, value) :: rest => do
    let longer ← draft.add key value
    longer.addAll rest

/-- A criterion written as an object. -/
def ofMembers (members : List (String × Json)) : Except ShapeFault Criterion := do
  let draft ← Draft.addAll ⟨none, none, none⟩ members
  draft.finish

end Criterion

/-! ### Criteria -/

namespace Criteria

/-- An entry of a list of criteria. -/
def entryOfJson (index : Nat) : Json → Except ShapeFault (Option Criterion)
  | .null => .ok none
  | .array [] => .ok none
  | .array elements => do return some (← Criterion.ofElements elements)
  | .object members => do return some (← Criterion.ofMembers members)
  | other => .error (.flatEntry index other.kind)

/-- The entries of a list of criteria, the first of them at the given index. -/
def entriesOfJson (index : Nat) : List Json → Except ShapeFault (List (Option Criterion))
  | [] => .ok []
  | item :: rest => do
    let entry ← entryOfJson index item
    let others ← entriesOfJson (index + 1) rest
    return entry :: others

/-- A JSON value as criteria. -/
def ofJson : Json → Except ShapeFault Criteria
  | .null => .ok .unrestricted
  | .object members => do return .one (← Criterion.ofMembers members)
  | .array [] => .ok .unrestricted
  | .array (first :: rest) =>
    match first with
    | .text _ => do return .one (← Criterion.ofElements (first :: rest))
    | .array _ | .object _ | .null => do return .many (← entriesOfJson 0 (first :: rest))
    | other => .error (.badStart other.kind)
  | other => .error (.notCriteria other.kind)

end Criteria

end AttributeFilter
