/-
**Scopes.**

A scope is the conjunction of the conditions it has collected; the scope without conditions
restricts nothing and is the identity of composition.

* `Scope.whereClause?` — the conjunction as SQL. A condition of several clauses stands in
  parentheses, so that its OR never reaches across an AND.
* `Scope.toSql?` — the same with the marks of a backend, numbered from a given index.
-/

import AttributeFilter.Sql.Backend
import AttributeFilter.Sql.Condition

namespace AttributeFilter

/-- A restriction of the records that a query sees. -/
structure Scope where
  conditions : List Condition
deriving Repr, DecidableEq

namespace Scope

/-! ### Building scopes -/

/-- The scope that restricts nothing. -/
def unrestricted : Scope := ⟨[]⟩

/-- The scope of one condition. -/
def ofCondition (condition : Condition) : Scope := ⟨[condition]⟩

/-- The conjunction of two scopes. -/
def compose (first second : Scope) : Scope := ⟨first.conditions ++ second.conditions⟩

/-- Whether the scope restricts nothing. -/
def isUnrestricted (scope : Scope) : Bool := scope.conditions.isEmpty

/-- The values in the order of their marks. -/
def boundValues (scope : Scope) : List String := scope.conditions.flatMap Condition.boundValues

@[simp] theorem compose_unrestricted (scope : Scope) : scope.compose unrestricted = scope := by
  simp [compose, unrestricted]

@[simp] theorem unrestricted_compose (scope : Scope) : unrestricted.compose scope = scope := by
  simp [compose, unrestricted]

theorem compose_assoc (first second third : Scope) :
    (first.compose second).compose third = first.compose (second.compose third) := by
  simp [compose]

theorem boundValues_compose (first second : Scope) :
    (first.compose second).boundValues = first.boundValues ++ second.boundValues := by
  simp [compose, boundValues]

/-! ### Writing scopes -/

/-- A condition as a part of a conjunction. -/
def conjunct (condition : Condition) : String :=
  if condition.isCompound then "(" ++ condition.expression ++ ")" else condition.expression

/-- The conjunction of conditions as SQL. -/
def conjunction (conditions : List Condition) : String :=
  joinWith " AND " (conditions.map conjunct)

/-- The scope as SQL with a `?` for every value, unless it restricts nothing. -/
def whereClause? (scope : Scope) : Option String :=
  if scope.isUnrestricted then none else some (conjunction scope.conditions)

/-- Replace every `?` by the mark of a backend, numbered from the given index. -/
def numberMarks (backend : Backend) (index : Nat) : List Char → List Char
  | [] => []
  | c :: rest =>
    if c = '?' then (backend.placeholder index).toList ++ numberMarks backend (index + 1) rest
    else c :: numberMarks backend index rest

/-- The scope as SQL of a backend, its values numbered from the given index. -/
def toSqlFrom? (scope : Scope) (backend : Backend) (firstIndex : Nat) : Option String :=
  scope.whereClause?.map fun clause =>
    String.ofList (numberMarks backend firstIndex clause.toList)

/-- The scope as SQL of a backend, its values numbered from one. -/
def toSql? (scope : Scope) (backend : Backend) : Option String := scope.toSqlFrom? backend 1

end Scope

end AttributeFilter
