/-
**When filtering succeeds.**

Criteria are answered one by one: each passes the guard, names an operator and is compiled by it,
and the scope has the conditions in the order of the criteria.

* `Criteria.entries` — the criteria that a request asks for.
* `Criterion.Compiles` — a condition is what a criterion is compiled to.
* `Registry.filterBy_eq` — within the limit, filtering answers them one by one.
* `Registry.filterBy_eq_ok_iff` — filtering succeeds exactly with the scope of such conditions.
* `Answers` — the scopes that are composed from the answers of registries, with the criteria that
  they stand for.
-/

import AttributeFilter.Proofs.Registry.NamedScope
import AttributeFilter.Registry.Filter
import Mathlib.Data.List.Forall2

namespace AttributeFilter

/-! ### The criteria of a request -/

namespace Criteria

/-- The criteria that a request asks for, in order: those of its entries that are not empty. -/
def entries : Criteria → List Criterion
  | .unrestricted => []
  | .one criterion => [criterion]
  | .many list => list.filterMap id

/-- **As many criteria apply as a request asks for.** -/
theorem size_eq (criteria : Criteria) : criteria.size = criteria.entries.length := by
  cases criteria with
  | unrestricted => rfl
  | one criterion => rfl
  | many list => exact List.length_filterMap_eq_countP.symm

end Criteria

/-- The condition is what the criterion is compiled to. -/
def Criterion.Compiles (criterion : Criterion) (options : CompileOptions) (condition : Condition) :
    Prop :=
  ∃ scope, NamedScope.find? criterion.operator = some scope ∧
    isIdentifier criterion.column = true ∧
    scope.Compiles criterion.column criterion.operand options condition

namespace Registry

variable {registry : Registry} {name : String}

/-! ### The guard -/

/-- **The guard lets through** the plain identifiers that are no column or are on the whitelist. -/
theorem guardAccess_eq_ok_iff {column : String} :
    registry.guardAccess name column = .ok () ↔
      isIdentifier column = true ∧
        (registry.hasColumn name column = true → registry.isWhitelisted name column = true) := by
  unfold guardAccess
  cases isIdentifier column <;> cases registry.hasColumn name column <;>
    cases registry.isWhitelisted name column <;> simp

/-! ### One criterion -/

/-- What becomes of a criterion that has passed the guard. -/
theorem scopeOf_of_guardAccess {criterion : Criterion}
    (passed : registry.guardAccess name criterion.column = .ok ()) :
    registry.scopeOf name criterion =
      match NamedScope.find? criterion.operator with
      | none => .error (.unknownOperator criterion.operator)
      | some scope =>
        (scope.condition criterion.column criterion.operand registry.settings.compileOptions).map
          Scope.ofCondition := by
  have plain := (guardAccess_eq_ok_iff.mp passed).1
  rw [scopeOf, passed]
  cases NamedScope.find? criterion.operator with
  | none => rfl
  | some scope =>
    show scope.build _ _ _ = _
    rw [NamedScope.build_eq, if_pos plain]

/-- What becomes of a criterion that the guard refuses. -/
theorem scopeOf_of_refused {criterion : Criterion} {error : FilterError}
    (refused : registry.guardAccess name criterion.column = .error error) :
    registry.scopeOf name criterion = .error error := by
  rw [scopeOf, refused]
  rfl

/-- **One criterion is answered** by its condition, if the guard lets its column through. -/
theorem scopeOf_eq_ok_iff {criterion : Criterion} {scope : Scope} :
    registry.scopeOf name criterion = .ok scope ↔
      registry.guardAccess name criterion.column = .ok () ∧
        ∃ condition, criterion.Compiles registry.settings.compileOptions condition ∧
          scope = Scope.ofCondition condition := by
  cases guarded : registry.guardAccess name criterion.column with
  | error error => simp [scopeOf_of_refused guarded]
  | ok passed =>
    rw [scopeOf_of_guardAccess guarded]
    have plain := (guardAccess_eq_ok_iff.mp guarded).1
    cases found : NamedScope.find? criterion.operator with
    | none => simp [Criterion.Compiles, found]
    | some named =>
      cases compiled : named.condition criterion.column criterion.operand
          registry.settings.compileOptions with
      | error error =>
        simp [Criterion.Compiles, found, plain, Except.map, ← NamedScope.condition_eq_ok_iff,
          compiled]
      | ok condition =>
        simp [Criterion.Compiles, found, plain, Except.map, ← NamedScope.condition_eq_ok_iff,
          compiled, eq_comm]

/-! ### Several criteria -/

/-- The conjunction of the scopes of criteria. -/
def scopeOfAll (registry : Registry) (name : String) : List Criterion → Except FilterError Scope
  | [] => .ok Scope.unrestricted
  | criterion :: rest => do
    let first ← registry.scopeOf name criterion
    let others ← registry.scopeOfAll name rest
    return first.compose others

/-- **A list restricts a scope further by the conjunction of its criteria.** -/
theorem restrictBy_eq (list : List (Option Criterion)) (scope : Scope) :
    registry.restrictBy name scope list =
      (registry.scopeOfAll name (list.filterMap id)).map scope.compose := by
  induction list generalizing scope with
  | nil => exact congrArg Except.ok scope.compose_unrestricted.symm
  | cons entry rest ih =>
    cases entry with
    | none => exact ih scope
    | some criterion =>
      show _ = (registry.scopeOfAll name (criterion :: rest.filterMap id)).map scope.compose
      rw [restrictBy, scopeOfAll]
      cases registry.scopeOf name criterion with
      | error error => rfl
      | ok next =>
        show registry.restrictBy name (scope.compose next) rest = _
        rw [ih]
        cases registry.scopeOfAll name (rest.filterMap id) with
        | error error => rfl
        | ok others => exact congrArg Except.ok (Scope.compose_assoc scope next others)

/-- **Several criteria are answered** one by one and in order. -/
theorem scopeOfAll_eq_ok_iff {criteria : List Criterion} {scope : Scope} :
    registry.scopeOfAll name criteria = .ok scope ↔
      List.Forall₂ (fun criterion condition =>
        registry.guardAccess name criterion.column = .ok () ∧
          criterion.Compiles registry.settings.compileOptions condition)
        criteria scope.conditions := by
  induction criteria generalizing scope with
  | nil =>
    rcases scope with ⟨conditions⟩
    cases conditions <;> simp [scopeOfAll, Scope.unrestricted]
  | cons criterion rest ih =>
    rw [scopeOfAll, List.forall₂_cons_left_iff]
    constructor
    · intro answered
      cases first : registry.scopeOf name criterion with
      | error error => simp [first, bind, Except.bind] at answered
      | ok head =>
        cases others : registry.scopeOfAll name rest with
        | error error => simp [first, others, bind, Except.bind] at answered
        | ok tail =>
          obtain ⟨passed, condition, compiles, rfl⟩ := scopeOf_eq_ok_iff.mp first
          simp only [first, others, bind, Except.bind, pure, Except.pure,
            Except.ok.injEq] at answered
          exact ⟨condition, tail.conditions, ⟨passed, compiles⟩, ih.mp others, answered ▸ rfl⟩
    · rintro ⟨condition, tail, ⟨passed, compiles⟩, others, shape⟩
      have first := scopeOf_eq_ok_iff.mpr ⟨passed, condition, compiles, rfl⟩
      have answered := (@ih ⟨tail⟩).mpr others
      rcases scope with ⟨conditions⟩
      subst shape
      rw [first, answered]
      rfl

/-- A name that is not known is refused. -/
theorem filterBy_of_unknown (unknown : registry.knows name = false) (criteria : Criteria) :
    registry.filterBy name criteria = .error (.unknownRecordType name) := by
  rw [filterBy.eq_def, if_neg (Bool.eq_false_iff.mp unknown)]

section

variable (known : registry.knows name = true) {criteria : Criteria}

include known

/-- Criteria beyond the limit are refused with their number. -/
theorem filterBy_of_lt_size (many : registry.settings.maxCriteria < criteria.size) :
    registry.filterBy name criteria =
      .error (.tooManyCriteria criteria.size registry.settings.maxCriteria) := by
  rw [filterBy.eq_def, if_pos known, Criteria.requireCount, if_pos many]
  rfl

/-- **Criteria within the limit are answered one by one.** -/
theorem filterBy_of_size_le (within : criteria.size ≤ registry.settings.maxCriteria) :
    registry.filterBy name criteria = registry.scopeOfAll name criteria.entries := by
  rw [filterBy.eq_def, if_pos known, Criteria.requireCount, if_neg (Nat.not_lt_of_le within)]
  cases criteria with
  | unrestricted => rfl
  | one criterion =>
    show registry.scopeOf name criterion = registry.scopeOfAll name [criterion]
    rw [scopeOfAll, scopeOfAll]
    cases registry.scopeOf name criterion with
    | error error => rfl
    | ok scope => exact congrArg Except.ok scope.compose_unrestricted.symm
  | many list =>
    show registry.restrictBy name Scope.unrestricted list = _
    rw [restrictBy_eq, Criteria.entries]
    cases registry.scopeOfAll name (list.filterMap id) with
    | error error => rfl
    | ok scope => exact congrArg Except.ok scope.unrestricted_compose

end

/-- **Filtering reads the criteria that a request asks for**, whatever entries stand between them. -/
theorem filterBy_eq (registry : Registry) (name : String) (criteria : Criteria) :
    registry.filterBy name criteria =
      if registry.knows name then
        if criteria.entries.length ≤ registry.settings.maxCriteria then
          registry.scopeOfAll name criteria.entries
        else
          .error (.tooManyCriteria criteria.entries.length registry.settings.maxCriteria)
      else .error (.unknownRecordType name) := by
  rw [← Criteria.size_eq]
  cases known : registry.knows name with
  | false => exact filterBy_of_unknown known criteria
  | true =>
    rw [if_pos rfl]
    by_cases within : criteria.size ≤ registry.settings.maxCriteria
    · rw [if_pos within, filterBy_of_size_le known within]
    · rw [if_neg within, filterBy_of_lt_size known (Nat.lt_of_not_le within)]

/-- **Filtering succeeds** for a known record type and criteria within the limit, each of which is
answered. -/
theorem filterBy_eq_ok_iff {criteria : Criteria} {scope : Scope} :
    registry.filterBy name criteria = .ok scope ↔
      registry.knows name = true ∧ criteria.size ≤ registry.settings.maxCriteria ∧
        List.Forall₂ (fun criterion condition =>
          registry.guardAccess name criterion.column = .ok () ∧
            criterion.Compiles registry.settings.compileOptions condition)
          criteria.entries scope.conditions := by
  rw [filterBy_eq, Criteria.size_eq, ← scopeOfAll_eq_ok_iff]
  cases registry.knows name with
  | false => simp
  | true =>
    by_cases within : criteria.entries.length ≤ registry.settings.maxCriteria <;> simp [within]

/-- **Answers depend on the guard alone**, next to the settings. -/
theorem filterBy_congr {other : Registry} (settings : other.settings = registry.settings)
    (known : other.knows name = registry.knows name)
    (guards : ∀ column, other.guardAccess name column = registry.guardAccess name column)
    (criteria : Criteria) : other.filterBy name criteria = registry.filterBy name criteria := by
  have each (criterion : Criterion) :
      other.scopeOf name criterion = registry.scopeOf name criterion := by
    rw [scopeOf, scopeOf, guards, settings]
  have all (list : List Criterion) :
      other.scopeOfAll name list = registry.scopeOfAll name list := by
    induction list with
    | nil => rfl
    | cons criterion rest ih => rw [scopeOfAll, scopeOfAll, each, ih]
  rw [filterBy_eq, filterBy_eq, known, settings, all]

end Registry

/-! ### Composed scopes -/

/-- A criterion and the options under which it is compiled. -/
structure Request where
  options : CompileOptions
  criterion : Criterion

/-- The criteria that a registry is asked for, in order. -/
def Registry.requests (registry : Registry) (criteria : Criteria) : List Request :=
  criteria.entries.map (Request.mk registry.settings.compileOptions)

/-- The scope is composed from answers of registries; the requests are the criteria that were
asked, in order. -/
inductive Answers : Scope → List Request → Prop
  | unrestricted : Answers Scope.unrestricted []
  | filtered {registry : Registry} {name : String} {criteria : Criteria} {scope : Scope} :
      registry.filterBy name criteria = .ok scope → Answers scope (registry.requests criteria)
  | compose {first second : Scope} {requests others : List Request} :
      Answers first requests → Answers second others →
        Answers (first.compose second) (requests ++ others)

/-- **A composed scope has the condition of every request**, in order. -/
theorem Answers.compiles {scope : Scope} {requests : List Request}
    (answers : Answers scope requests) :
    List.Forall₂ (fun request condition => request.criterion.Compiles request.options condition)
      requests scope.conditions := by
  induction answers with
  | unrestricted => exact .nil
  | filtered answered =>
    rw [Registry.requests, List.forall₂_map_left_iff]
    exact (Registry.filterBy_eq_ok_iff.mp answered).2.2.imp fun _ _ both => both.2
  | compose _ _ first second => exact List.rel_append first second

end AttributeFilter
