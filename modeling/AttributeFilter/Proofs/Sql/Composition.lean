/-
**Conjunctions are written part by part.**

A scope is written as a whole: its conditions are joined to one text, and the marks of the text are
numbered from its beginning to its end. All the same, the conjunction of two scopes is written as
the one, an AND and the other, if the numbers of the second go on from those of the first. So it
makes no difference in which order the scopes of a chain were composed, nor which of them restrict
nothing.

* `Scope.numberMarks_append` — numbering goes on from part to part.
* `Scope.conjunction_append` — conditions are joined in two parts.
* `Scope.toSqlFrom?_compose` — the conjunction of two scopes that restrict something.
* `Chain` — scopes composed with one another, in whatever brackets.
* **`Scope.writing_composes`** — what is written and bound for compositions, and for chains of them.
-/

import AttributeFilter.Sql.Scope

namespace AttributeFilter

/-- Parts are joined in two halves, if there is something to join in both. -/
theorem joinWith_append (separator : String) {first second : List String} (some : first ≠ [])
    (more : second ≠ []) :
    joinWith separator (first ++ second) =
      joinWith separator first ++ separator ++ joinWith separator second := by
  induction first with
  | nil => exact absurd rfl some
  | cons part rest ih =>
    cases rest with
    | nil =>
      obtain ⟨next, others, rfl⟩ := List.exists_cons_of_ne_nil more
      rfl
    | cons next rest =>
      have later := ih (List.cons_ne_nil next rest)
      simp only [List.cons_append, joinWith] at later ⊢
      rw [later]
      simp only [String.append_assoc]

namespace Scope

/-! ### Two parts of a text -/

/-- **Numbering goes on from part to part**: the second begins behind the marks of the first. -/
theorem numberMarks_append (backend : Backend) (index : Nat) (first second : List Char) :
    numberMarks backend index (first ++ second) =
      numberMarks backend index first ++
        numberMarks backend (index + first.count '?') second := by
  induction first generalizing index with
  | nil => rfl
  | cons c rest ih =>
    rw [List.cons_append, numberMarks, numberMarks]
    by_cases mark : c = '?'
    · rw [if_pos mark, if_pos mark, ih, mark, List.count_cons_self, List.append_assoc,
        Nat.add_right_comm, Nat.add_assoc]
    · rw [if_neg mark, if_neg mark, ih, List.count_cons_of_ne mark, List.cons_append]

/-- **Conditions are joined in two parts.** -/
theorem conjunction_append {first second : List Condition} (some : first ≠ [])
    (more : second ≠ []) :
    conjunction (first ++ second) = conjunction first ++ " AND " ++ conjunction second := by
  rw [conjunction, List.map_append]
  exact joinWith_append " AND " (mt List.map_eq_nil_iff.mp some) (mt List.map_eq_nil_iff.mp more)

/-! ### The text of a scope -/

section

variable (scope : Scope)

theorem isUnrestricted_iff : scope.isUnrestricted = true ↔ scope.conditions = [] :=
  List.isEmpty_iff

theorem isUnrestricted_eq_false_iff : scope.isUnrestricted = false ↔ scope.conditions ≠ [] := by
  rw [ne_eq, ← isUnrestricted_iff, Bool.not_eq_true]

theorem eq_unrestricted_of_isUnrestricted {scope : Scope} (nothing : scope.isUnrestricted = true) :
    scope = unrestricted := by
  rcases scope with ⟨conditions⟩
  rw [unrestricted, Scope.mk.injEq]
  exact (isUnrestricted_iff _).mp nothing

theorem whereClause?_eq_none_iff : scope.whereClause? = none ↔ scope.conditions = [] := by
  rw [← isUnrestricted_iff, whereClause?]
  split <;> simp_all

theorem toSqlFrom?_eq_none_iff (backend : Backend) (index : Nat) :
    scope.toSqlFrom? backend index = none ↔ scope.conditions = [] := by
  rw [toSqlFrom?, Option.map_eq_none_iff, whereClause?_eq_none_iff]

/-- The text of a scope that restricts something is the conjunction of its conditions. -/
theorem whereClause?_eq_some_iff {clause : String} :
    scope.whereClause? = some clause ↔
      scope.conditions ≠ [] ∧ clause = conjunction scope.conditions := by
  rw [← isUnrestricted_eq_false_iff, whereClause?]
  cases scope.isUnrestricted <;> simp [eq_comm]

variable {scope}

theorem whereClause?_of_restricted (restricted : scope.isUnrestricted = false) :
    scope.whereClause? = some (conjunction scope.conditions) :=
  scope.whereClause?_eq_some_iff.mpr ⟨scope.isUnrestricted_eq_false_iff.mp restricted, rfl⟩

theorem toSqlFrom?_of_restricted (restricted : scope.isUnrestricted = false) (backend : Backend)
    (index : Nat) :
    scope.toSqlFrom? backend index =
      some (String.ofList (numberMarks backend index (conjunction scope.conditions).toList)) := by
  rw [toSqlFrom?, whereClause?_of_restricted restricted]
  rfl

end

/-- **The conjunction of two scopes** is written as the one, an AND, and the other with its numbers
going on. -/
theorem toSqlFrom?_compose {first second : Scope} (restricted : first.isUnrestricted = false)
    (restricted' : second.isUnrestricted = false) (backend : Backend) (index : Nat) :
    ∃ clause before after, first.whereClause? = some clause ∧
      first.toSqlFrom? backend index = some before ∧
      second.toSqlFrom? backend (index + clause.toList.count '?') = some after ∧
      (first.compose second).toSqlFrom? backend index = some (before ++ " AND " ++ after) := by
  refine ⟨_, _, _, whereClause?_of_restricted restricted, toSqlFrom?_of_restricted restricted _ _,
    toSqlFrom?_of_restricted restricted' _ _, ?_⟩
  have some := (isUnrestricted_eq_false_iff first).mp restricted
  have more := (isUnrestricted_eq_false_iff second).mp restricted'
  have both : (first.compose second).isUnrestricted = false :=
    (isUnrestricted_eq_false_iff _).mpr (List.append_ne_nil_of_left_ne_nil some _)
  -- The separator has no mark, so the numbers behind it are those of the first text alone.
  have separator (number : Nat) : numberMarks backend number " AND ".toList = " AND ".toList := rfl
  have unmarked : " AND ".toList.count '?' = 0 := rfl
  rw [toSqlFrom?_of_restricted both, compose, conjunction_append some more]
  simp only [String.toList_append, numberMarks_append, separator, unmarked, List.count_append,
    String.ofList_append, String.ofList_toList, Nat.add_zero]

end Scope

/-! ### Chains -/

/-- Scopes that are composed with one another, in whatever brackets. -/
inductive Chain
  | link (scope : Scope)
  | compose (first second : Chain)
deriving Repr, DecidableEq

namespace Chain

/-- The scope that a chain comes to. -/
def result : Chain → Scope
  | .link scope => scope
  | .compose first second => first.result.compose second.result

/-- The scopes of a chain, in order. -/
def links : Chain → List Scope
  | .link scope => [scope]
  | .compose first second => first.links ++ second.links

/-- The scopes of a chain that restrict something, in order. -/
def restrictions (chain : Chain) : List Scope :=
  chain.links.filter fun scope => !scope.isUnrestricted

/-- **A chain comes to the conditions of what restricts something in it.** -/
theorem conditions_result (chain : Chain) :
    chain.result.conditions = chain.restrictions.flatMap Scope.conditions := by
  induction chain with
  | link scope =>
    cases restricted : scope.isUnrestricted with
    | true => simp [result, restrictions, links, restricted, scope.isUnrestricted_iff.mp restricted]
    | false => simp [result, restrictions, links, restricted]
  | compose first second ih ih' =>
    rw [restrictions] at ih ih' ⊢
    rw [links, List.filter_append, List.flatMap_append, ← ih, ← ih']
    rfl

/-- So neither the brackets nor what restricts nothing make a difference. -/
theorem result_eq_of_restrictions {first second : Chain}
    (same : first.restrictions = second.restrictions) : first.result = second.result := by
  have conditions : first.result.conditions = second.result.conditions := by
    rw [first.conditions_result, second.conditions_result, same]
  exact congrArg Scope.mk conditions

end Chain

/-- **What is written and bound for a composition.** Of two scopes that restrict something, the
first, an AND, and the second with its numbers going on behind the marks of the first; where one
restricts nothing, the other alone. The bound values of both are put together. For a chain of
compositions neither the brackets nor scopes that restrict nothing make a difference. -/
theorem Scope.writing_composes (first second : Scope) (backend : Backend) (index : Nat) :
    (first.isUnrestricted = false → second.isUnrestricted = false →
      ∃ clause before after, first.whereClause? = some clause ∧
        first.toSqlFrom? backend index = some before ∧
        second.toSqlFrom? backend (index + clause.toList.count '?') = some after ∧
        (first.compose second).toSqlFrom? backend index = some (before ++ " AND " ++ after)) ∧
    (first.isUnrestricted = true →
      (first.compose second).toSqlFrom? backend index = second.toSqlFrom? backend index) ∧
    (second.isUnrestricted = true →
      (first.compose second).toSqlFrom? backend index = first.toSqlFrom? backend index) ∧
    (first.compose second).boundValues = first.boundValues ++ second.boundValues ∧
    ∀ chain other : Chain, chain.restrictions = other.restrictions →
      chain.result.toSqlFrom? backend index = other.result.toSqlFrom? backend index ∧
        chain.result.boundValues = other.result.boundValues := by
  refine ⟨fun restricted restricted' => toSqlFrom?_compose restricted restricted' backend index,
    fun nothing => ?_, fun nothing => ?_, boundValues_compose first second,
    fun chain other same => ?_⟩
  · rw [eq_unrestricted_of_isUnrestricted nothing, unrestricted_compose]
  · rw [eq_unrestricted_of_isUnrestricted nothing, compose_unrestricted]
  · rw [Chain.result_eq_of_restrictions same]
    exact ⟨rfl, rfl⟩

/-- Two conditions with marks at their ends and next to each other, -/
def markedScope : Scope := ⟨[⟨"a = ??", ["1"]⟩, ⟨"?2 OR b", []⟩]⟩

/-- and one that is nothing but a mark. -/
def markScope : Scope := ⟨[⟨"?", ["2", "3"]⟩]⟩

/-- Both composed, with a scope that restricts nothing in front of them, -/
def paddedChain : Chain :=
  .compose (.link .unrestricted) (.compose (.link markedScope) (.link markScope))

/-- or between them. -/
def rebracketedChain : Chain :=
  .compose (.compose (.link markedScope) (.link .unrestricted)) (.link markScope)

theorem Scope.writing_composes_marked :
    (markedScope.isUnrestricted = false ∧ markScope.isUnrestricted = false ∧
      (markedScope.compose markScope).toSqlFrom? .postgres 9 =
        some ("a = $9$10 AND ($112 OR b)" ++ " AND " ++ "$12")) ∧
    (unrestricted.isUnrestricted = true ∧
      (unrestricted.compose markScope).toSqlFrom? .postgres 9 =
        markScope.toSqlFrom? .postgres 9) ∧
    (paddedChain.restrictions = rebracketedChain.restrictions ∧
      paddedChain.result.toSqlFrom? .postgres 9 =
        rebracketedChain.result.toSqlFrom? .postgres 9) := by
  have text : markedScope.whereClause? = some "a = ?? AND (?2 OR b)" := by decide +kernel
  have before : markedScope.toSqlFrom? .postgres 9 = some "a = $9$10 AND ($112 OR b)" := by
    decide +kernel
  have after : markScope.toSqlFrom? .postgres (9 + "a = ?? AND (?2 OR b)".toList.count '?') =
      some "$12" := by decide +kernel
  obtain ⟨both, -, -, -, chains⟩ := writing_composes markedScope markScope .postgres 9
  obtain ⟨clause, one, two, written, first, second, whole⟩ := both rfl rfl
  obtain rfl := Option.some.inj (text.symm.trans written)
  obtain rfl := Option.some.inj (before.symm.trans first)
  obtain rfl := Option.some.inj (after.symm.trans second)
  refine ⟨⟨rfl, rfl, whole⟩, ⟨rfl, ?_⟩, rfl, (chains _ _ rfl).1⟩
  exact (writing_composes unrestricted markScope .postgres 9).2.1 rfl

end AttributeFilter
