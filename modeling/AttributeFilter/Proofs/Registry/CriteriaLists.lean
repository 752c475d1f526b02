/-
**Lists of criteria.**

A list of criteria may be cut in two: its answer is that of the first part and that of the second
part together. So a list is answered as its criteria are one by one, and entries that are skipped
are as good as absent, also to the limit on the number of criteria.

* `composeAnswers` — two answers together: the first failure, or the conjunction of the scopes.
* `Registry.scopeOfAll_append` — criteria are answered in two parts.
* `Registry.filterBy_eq_foldlM` — and hence one by one.
* **`Registry.filterBy_lists`** — what cutting, merging and padding do to a list of criteria.
-/

import AttributeFilter.Proofs.Registry.Answer
import AttributeFilter.Proofs.Registry.Call

namespace AttributeFilter

/-- Two answers together: the failure of the first, else that of the second, else the conjunction of
both scopes. -/
def composeAnswers : Except FilterError Scope → Except FilterError Scope → Except FilterError Scope
  | .error error, _ => .error error
  | .ok _, .error error => .error error
  | .ok first, .ok second => .ok (first.compose second)

@[simp] theorem composeAnswers_unrestricted (answer : Except FilterError Scope) :
    composeAnswers answer (.ok Scope.unrestricted) = answer := by
  cases answer with
  | error error => rfl
  | ok scope => rw [composeAnswers, Scope.compose_unrestricted]

@[simp] theorem unrestricted_composeAnswers (answer : Except FilterError Scope) :
    composeAnswers (.ok Scope.unrestricted) answer = answer := by
  cases answer with
  | error error => rfl
  | ok scope => rw [composeAnswers, Scope.unrestricted_compose]

/-- Which failure is first, and the order of the conditions, do not depend on the grouping. -/
theorem composeAnswers_assoc (first second third : Except FilterError Scope) :
    composeAnswers (composeAnswers first second) third =
      composeAnswers first (composeAnswers second third) := by
  cases first with
  | error error => rfl
  | ok scope =>
    cases second with
    | error error => rfl
    | ok other =>
      cases third with
      | error error => rfl
      | ok last => simp only [composeAnswers, Scope.compose_assoc]

namespace Criteria

theorem entries_many_append (first second : List (Option Criterion)) :
    (many (first ++ second)).entries = (many first).entries ++ (many second).entries :=
  List.filterMap_append

theorem size_many_append (first second : List (Option Criterion)) :
    (many (first ++ second)).size = (many first).size + (many second).size := by
  rw [size_eq, entries_many_append, List.length_append, ← size_eq, ← size_eq]

/-- A skipped entry is as good as absent. -/
theorem entries_many_none (first second : List (Option Criterion)) :
    (many (first ++ none :: second)).entries = (many (first ++ second)).entries := by
  rw [entries_many_append, entries_many_append]
  rfl

theorem entries_many_eq_nil {list : List (Option Criterion)}
    (skipped : ∀ entry ∈ list, entry = none) : (many list).entries = [] :=
  List.filterMap_eq_nil_iff.mpr skipped

end Criteria

namespace Registry

variable {registry : Registry} {name : String}

/-- The answer to several criteria begins with the first one. -/
theorem scopeOfAll_cons (criterion : Criterion) (rest : List Criterion) :
    registry.scopeOfAll name (criterion :: rest) =
      composeAnswers (registry.scopeOf name criterion) (registry.scopeOfAll name rest) := by
  rw [scopeOfAll]
  cases registry.scopeOf name criterion with
  | error error => rfl
  | ok scope => cases registry.scopeOfAll name rest <;> rfl

/-- **Criteria are answered in two parts.** -/
theorem scopeOfAll_append (first second : List Criterion) :
    registry.scopeOfAll name (first ++ second) =
      composeAnswers (registry.scopeOfAll name first) (registry.scopeOfAll name second) := by
  induction first with
  | nil => rw [List.nil_append, scopeOfAll, unrestricted_composeAnswers]
  | cons criterion rest ih =>
    rw [List.cons_append, scopeOfAll_cons, scopeOfAll_cons, ih, composeAnswers_assoc]

/-- Scopes that are added to a scope one after the other are added together. -/
theorem foldlM_scopeOf (criteria : List Criterion) (start : Scope) :
    criteria.foldlM (fun scope criterion => (registry.scopeOf name criterion).map scope.compose)
        start =
      composeAnswers (.ok start) (registry.scopeOfAll name criteria) := by
  induction criteria generalizing start with
  | nil => exact (composeAnswers_unrestricted (.ok start)).symm
  | cons criterion rest ih =>
    rw [List.foldlM_cons, scopeOfAll_cons, ← composeAnswers_assoc]
    cases registry.scopeOf name criterion with
    | error error => rfl
    | ok scope => exact ih (start.compose scope)

/-- The answer depends on the criteria that apply. -/
theorem filterBy_congr_entries {criteria others : Criteria}
    (same : criteria.entries = others.entries) :
    registry.filterBy name criteria = registry.filterBy name others := by
  rw [filterBy_eq, filterBy_eq, same]

section

variable (known : registry.knows name = true)

include known

/-- A single criterion is answered by its scope. -/
theorem filterBy_one (allowed : 1 ≤ registry.settings.maxCriteria) (criterion : Criterion) :
    registry.filterBy name (.one criterion) = registry.scopeOf name criterion := by
  have within : (Criteria.one criterion).size ≤ registry.settings.maxCriteria := allowed
  rw [filterBy_of_size_le known within, Criteria.entries, scopeOfAll_cons, scopeOfAll,
    composeAnswers_unrestricted]

/-- **A list is answered as its criteria are**: one scope after the other is added to the scope so
far, until one fails. -/
theorem filterBy_eq_foldlM {criteria : Criteria}
    (within : criteria.size ≤ registry.settings.maxCriteria) :
    registry.filterBy name criteria =
      criteria.entries.foldlM (fun scope criterion =>
        (registry.filterBy name (.one criterion)).map scope.compose) Scope.unrestricted := by
  rw [filterBy_of_size_le known within]
  rw [Criteria.size_eq] at within
  cases entries : criteria.entries with
  | nil => rfl
  | cons criterion rest =>
    -- With a criterion in the list, the limit lets each of them be asked for alone.
    have allowed : 1 ≤ registry.settings.maxCriteria := by
      rw [entries, List.length_cons] at within
      exact Nat.le_trans (Nat.le_add_left 1 _) within
    have single : (fun criterion => registry.filterBy name (.one criterion)) =
        registry.scopeOf name := by
      funext criterion
      exact filterBy_one known allowed criterion
    calc registry.scopeOfAll name (criterion :: rest)
        = composeAnswers (.ok Scope.unrestricted) (registry.scopeOfAll name (criterion :: rest)) :=
          (unrestricted_composeAnswers _).symm
      _ = (criterion :: rest).foldlM (fun scope criterion =>
            (registry.scopeOf name criterion).map scope.compose) Scope.unrestricted :=
          (foldlM_scopeOf _ _).symm
      _ = _ := by rw [← single]

end

/-- **What is done to a list of criteria is done to its answer.** The answer to two lists in one is
those to both together, and the answer to a list is those to its criteria one by one; skipped
entries change nothing, and without others nothing is restricted. So a scope has a condition for
every criterion, and restricts nothing only where there is none. -/
theorem filterBy_lists (known : registry.knows name = true) :
    (∀ first second : List (Option Criterion),
      (Criteria.many first).size + (Criteria.many second).size ≤ registry.settings.maxCriteria →
        registry.filterBy name (.many (first ++ second)) =
          composeAnswers (registry.filterBy name (.many first))
            (registry.filterBy name (.many second))) ∧
    (∀ list : List (Option Criterion), (∀ entry ∈ list, entry = none) →
      registry.filterBy name (.many list) = .ok Scope.unrestricted) ∧
    (∀ criterion : Criterion,
      registry.filterBy name (.many [some criterion]) = registry.filterBy name (.one criterion) ∧
      (1 ≤ registry.settings.maxCriteria →
        registry.filterBy name (.one criterion) = registry.scopeOf name criterion)) ∧
    (∀ first second : List (Option Criterion),
      registry.filterBy name (.many (first ++ none :: second)) =
        registry.filterBy name (.many (first ++ second))) ∧
    (∀ criteria : Criteria, criteria.size ≤ registry.settings.maxCriteria →
      registry.filterBy name criteria =
        criteria.entries.foldlM (fun scope criterion =>
          (registry.filterBy name (.one criterion)).map scope.compose) Scope.unrestricted) ∧
    ∀ (criteria : Criteria) scope, registry.filterBy name criteria = .ok scope →
      scope.conditions.length = criteria.size ∧
        (scope.isUnrestricted = true → criteria.isEmpty = true) := by
  refine ⟨?_, ?_, fun criterion => ⟨filterBy_congr_entries rfl, fun allowed =>
    filterBy_one known allowed criterion⟩, ?_, fun _ => filterBy_eq_foldlM known, ?_⟩
  · intro first second within
    have whole := Nat.le_trans (Nat.le_of_eq (Criteria.size_many_append first second)) within
    rw [filterBy_of_size_le known whole, Criteria.entries_many_append, scopeOfAll_append,
      filterBy_of_size_le known (Nat.le_of_add_right_le within),
      filterBy_of_size_le known (Nat.le_of_add_left_le within)]
  · intro list skipped
    have nothing := Criteria.entries_many_eq_nil skipped
    have within : (Criteria.many list).size ≤ registry.settings.maxCriteria := by
      rw [Criteria.size_eq, nothing]
      exact Nat.zero_le _
    rw [filterBy_of_size_le known within, nothing, scopeOfAll]
  · exact fun first second => filterBy_congr_entries (Criteria.entries_many_none first second)
  · intro criteria scope answered
    have count : scope.conditions.length = criteria.size :=
      (criteria.size_eq.trans (filterBy_eq_ok_iff.mp answered).2.2.length_eq).symm
    refine ⟨count, fun nothing => ?_⟩
    rw [Scope.isUnrestricted, List.isEmpty_iff] at nothing
    rw [Criteria.isEmpty, ← count, nothing]
    rfl

/-- Two criteria at most, and two columns of which one is whitelisted. -/
def twoAtMost : Registry :=
  (empty { Settings.default with maxCriteria := 2 }).run
    [.register "Person" ["name", "ssn"] none, .declare "Person" ["name"]]

/-- A criterion that is answered, between entries that are skipped, -/
def byName : List (Option Criterion) := [none, some ⟨"name", "is", .single (.text "Jo")⟩, none]

/-- and one that the guard refuses. -/
def byNumber : List (Option Criterion) := [some ⟨"ssn", "contains_all_of", .list []⟩, none]

theorem filterBy_lists_twoAtMost :
    twoAtMost.knows "Person" = true ∧
    ((Criteria.many byName).size + (Criteria.many byNumber).size ≤
        twoAtMost.settings.maxCriteria ∧
      twoAtMost.filterBy "Person" (.many (byName ++ byNumber)) =
        composeAnswers (twoAtMost.filterBy "Person" (.many byName))
          (twoAtMost.filterBy "Person" (.many byNumber)) ∧
      twoAtMost.filterBy "Person" (.many (byName ++ byNumber)) =
        .error (.illegalAttributeAccess "ssn")) ∧
    ((∀ entry ∈ List.replicate 3 (none : Option Criterion), entry = none) ∧
      twoAtMost.filterBy "Person" (.many (List.replicate 3 none)) = .ok Scope.unrestricted) ∧
    1 ≤ twoAtMost.settings.maxCriteria ∧
    (twoAtMost.filterBy "Person" (.many byName) = .ok ⟨[⟨"lower(name) = ?", ["jo"]⟩]⟩ ∧
      1 = (Criteria.many byName).size) := by
  have known : twoAtMost.knows "Person" = true := by decide +kernel
  obtain ⟨cut, skip, -, -, -, count⟩ := filterBy_lists known
  have within : (Criteria.many byName).size + (Criteria.many byNumber).size ≤
      twoAtMost.settings.maxCriteria := by decide +kernel
  have skipped : ∀ entry ∈ List.replicate 3 (none : Option Criterion), entry = none :=
    fun _ => List.eq_of_mem_replicate
  have answered : twoAtMost.filterBy "Person" (.many byName) =
      .ok ⟨[⟨"lower(name) = ?", ["jo"]⟩]⟩ := by decide +kernel
  have refused : twoAtMost.filterBy "Person" (.many (byName ++ byNumber)) =
      .error (.illegalAttributeAccess "ssn") := by decide +kernel
  exact ⟨known, ⟨within, cut byName byNumber within, refused⟩, ⟨skipped, skip _ skipped⟩,
    by decide, answered, (count _ _ answered).1⟩

end Registry

end AttributeFilter
