/-
**Named scopes.**

Every operator name stands for a way of building a scope from a column and an operand: the rows of
the operator table, and the operator that asks for all tokens.
-/

import AttributeFilter.Sql.Scope
import AttributeFilter.Text.Quoted

namespace AttributeFilter

/-- A way of building a scope from a column and an operand. -/
inductive NamedScope
  | comparing (operator : Operator)
  | containingAll
deriving Repr, DecidableEq

namespace NamedScope

/-- The operator name that the scope goes by. -/
def name : NamedScope → String
  | .comparing operator => operator.name
  | .containingAll => Operator.containsAllOf

/-- The named scope of an operator name. -/
def find? (name : String) : Option NamedScope :=
  match Operator.find? name with
  | some operator => some (.comparing operator)
  | none => if name = Operator.containsAllOf then some .containingAll else none

/-- All operator names, those of the table first. -/
def names : List String := Operator.table.map Operator.name ++ [Operator.containsAllOf]

/-- Build the scope. -/
def build (scope : NamedScope) (column : String) (operand : Operand) (options : CompileOptions) :
    Except FilterError Scope :=
  let condition :=
    match scope with
    | .comparing operator => Condition.compile column operator operand options
    | .containingAll => Condition.compileAllOf column operand options
  condition.map Scope.ofCondition

/-- The text that shows a named scope for inspection. -/
def description (scope : NamedScope) : String :=
  "NamedScope \x7b name: " ++ quoted scope.name ++ " \x7d"

end NamedScope

end AttributeFilter
