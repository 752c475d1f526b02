/-
**Filtering record types.**

`Registry.filterBy` turns criteria into a scope. Every criterion passes the guard, finds its
operator and is compiled; the scopes are composed in order, and the first failure is the answer.

The whitelist of the guard speaks of real columns only. A name that is no column of the record type
passes; a column passes where it was declared filterable. Only plain identifiers pass at all, and
case is ignored, so that no spelling of a column slips by.
-/

import AttributeFilter.Criteria.OfText
import AttributeFilter.Registry.Basic
import AttributeFilter.Registry.NamedScope

namespace AttributeFilter

namespace Registry

/-! ### The guard -/

/-- Whether an attribute is on the whitelist in force for a record type. -/
def isWhitelisted (registry : Registry) (name column : String) : Bool :=
  match registry.filterable? name with
  | none => false
  | some set => set.contains column

/-- Refuse to filter a record type by a column outside its whitelist. -/
def guardAccess (registry : Registry) (name column : String) : Except FilterError Unit :=
  if !isIdentifier column then .error (.invalidColumn column)
  else if !registry.hasColumn name column then .ok ()
  else if registry.isWhitelisted name column then .ok ()
  else .error (.illegalAttributeAccess column)

/-! ### Scopes of criteria -/

/-- The scope of one criterion. -/
def scopeOf (registry : Registry) (name : String) (criterion : Criterion) :
    Except FilterError Scope := do
  registry.guardAccess name criterion.column
  match NamedScope.find? criterion.operator with
  | none => .error (.unknownOperator criterion.operator)
  | some scope => scope.build criterion.column criterion.operand registry.settings.compileOptions

/-- Restrict a scope further by the criteria of a list, one after the other. Empty entries are
skipped. -/
def restrictBy (registry : Registry) (name : String) (scope : Scope) :
    List (Option Criterion) → Except FilterError Scope
  | [] => .ok scope
  | none :: rest => registry.restrictBy name scope rest
  | some criterion :: rest => do
    let next ← registry.scopeOf name criterion
    registry.restrictBy name (scope.compose next) rest

/-- The scope that restricts a record type by criteria. -/
def filterBy (registry : Registry) (name : String) (criteria : Criteria) :
    Except FilterError Scope :=
  if registry.knows name then do
    Criteria.requireCount registry.settings criteria
    match criteria with
    | .unrestricted => return Scope.unrestricted
    | .one criterion => registry.scopeOf name criterion
    | .many list => registry.restrictBy name Scope.unrestricted list
  else .error (.unknownRecordType name)

/-- The scope that restricts a record type by criteria read from a text. -/
def filterByText (registry : Registry) (name text : String) : Except FilterError Scope := do
  let criteria ← Criteria.parse text registry.settings
  registry.filterBy name criteria

end Registry

end AttributeFilter
