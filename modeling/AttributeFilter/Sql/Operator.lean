/-
**The operator table.**

An operator has a name, the SQL comparison it becomes, and for patterns the form that a value takes
in it. `Operator.table` lists the operators; `containsAllOf` is the one name that stands beside the
table, because it joins its clauses differently.
-/

import AttributeFilter.Text.Basic

namespace AttributeFilter

/-- A row of the operator table. The value takes the place of the first pair of empty braces in the
value form. -/
structure Operator where
  name : String
  comparison : String
  valueForm : Option String
deriving Repr, DecidableEq

namespace Operator

/-- The form that a value takes in the comparison. -/
def format (operator : Operator) (value : List Char) : List Char :=
  match operator.valueForm with
  | some form => fillFirst value form.toList
  | none => value

/-- Whether the comparison is a pattern match. -/
def isPattern (operator : Operator) : Bool :=
  "LIKE".toList.isSuffixOf operator.comparison.toList

/-- The operators, in the order in which they are listed. -/
def table : List Operator := [
  ⟨"contains", "LIKE", some "%\x7b\x7d%"⟩,
  ⟨"does_not_contain", "NOT LIKE", some "%\x7b\x7d%"⟩,
  ⟨"starts_with", "LIKE", some "\x7b\x7d%"⟩,
  ⟨"does_not_start_with", "NOT LIKE", some "\x7b\x7d%"⟩,
  ⟨"ends_with", "LIKE", some "%\x7b\x7d"⟩,
  ⟨"does_not_end_with", "NOT LIKE", some "%\x7b\x7d"⟩,
  ⟨"is", "=", none⟩,
  ⟨"is_not", "<>", none⟩]

/-- The operator of a name. Names are compared exactly. -/
def find? (name : String) : Option Operator :=
  table.find? fun operator => operator.name == name

/-- The name of the operator that asks for every one of several tokens. -/
def containsAllOf : String := "contains_all_of"

end Operator

end AttributeFilter
