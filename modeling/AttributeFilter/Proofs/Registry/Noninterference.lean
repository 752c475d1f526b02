/-
**Values never reach the SQL text.**

Two lists of criteria are alike if they differ in nothing but the values that they compare with: one
by one they name the same column and the same operator and bind as many texts. Alike criteria are
answered alike, by any registry. Either both are refused with the same error, or both answers have
the same SQL text, for every backend and with marks numbered from anywhere, and bind as many values.

Grouping and numbering are both decided by searching the text of a condition, so it is the text as a
whole that has to agree, and it does from the condition of a single criterion onwards.

* `Criterion.Alike` — the criteria differ in their values alone.
* `Agree` — the answers agree up to a relation between their results.
* `NamedScope.condition_agree` — the text of a condition is decided by the number of bound texts.
* **`Registry.filterBy_noninterference`** — alike criteria are answered alike.
-/

import AttributeFilter.Proofs.Registry.Answer

namespace AttributeFilter

/-! ### Criteria that differ in their values alone -/

/-- The number of texts that a criterion binds: one for every word of a single text if all tokens
are asked for, and otherwise one for every value. -/
def Criterion.boundCount (criterion : Criterion) : Nat :=
  match criterion.operand with
  | .list values => values.length
  | .single (.text text) =>
    if criterion.operator = Operator.containsAllOf then (words text.toList).length else 1
  | .single _ => 1

/-- The criteria differ in their values alone. -/
structure Criterion.Alike (first second : Criterion) : Prop where
  column : first.column = second.column
  operator : first.operator = second.operator
  boundCount : first.boundCount = second.boundCount

/-- No row of the operator table asks for all tokens. -/
theorem Operator.name_ne_containsAllOf {operator : Operator} (listed : operator ∈ table) :
    operator.name ≠ containsAllOf := by
  have outside : ∀ operator ∈ table, operator.name ≠ containsAllOf := by decide
  exact outside operator listed

/-- The texts that are bound are counted without a look at the values. -/
theorem Criterion.length_texts {criterion : Criterion} {scope : NamedScope}
    (found : NamedScope.find? criterion.operator = some scope) :
    (scope.texts criterion.operand).length = criterion.boundCount := by
  cases scope with
  | comparing operator =>
    have named : operator.name = criterion.operator := NamedScope.name_of_find? found
    have other : criterion.operator ≠ Operator.containsAllOf :=
      named ▸ Operator.name_ne_containsAllOf (NamedScope.listed_of_find? found)
    rw [boundCount, NamedScope.texts]
    cases criterion.operand with
    | list values => simp [Operand.texts]
    | single value => cases value <;> simp [Operand.texts, other]
  | containingAll =>
    have named : criterion.operator = Operator.containsAllOf :=
      (NamedScope.name_of_find? found).symm
    rw [boundCount, NamedScope.texts]
    cases criterion.operand with
    | list values => simp [Condition.tokens, Operand.text?, Operand.texts]
    | single value =>
      cases value <;> simp [Condition.tokens, Operand.text?, Operand.texts, named]

/-! ### Answers that agree -/

/-- The answers agree: both are the same failure, or both succeed with related results. -/
inductive Agree {Result : Type} (related : Result → Result → Prop) :
    Except FilterError Result → Except FilterError Result → Prop
  | failed (error : FilterError) : Agree related (.error error) (.error error)
  | answered {first second : Result} : related first second →
      Agree related (.ok first) (.ok second)

namespace Agree

variable {Result Other : Type} {related : Result → Result → Prop} {onward : Other → Other → Prop}
  {first second : Except FilterError Result}

theorem map (agree : Agree related first second) {next : Result → Other}
    (respects : ∀ left right, related left right → onward (next left) (next right)) :
    Agree onward (first.map next) (second.map next) := by
  cases agree with
  | failed error => exact .failed error
  | answered same => exact .answered (respects _ _ same)

/-- Agreement goes on through whatever is done next with the results. -/
theorem bind (agree : Agree related first second) {left right : Result → Except FilterError Other}
    (next : ∀ one other, related one other → Agree onward (left one) (right other)) :
    Agree onward (first >>= left) (second >>= right) := by
  cases agree with
  | failed error => exact .failed error
  | answered same => exact next _ _ same

end Agree

/-! ### Conditions and scopes with the same text -/

/-- The conditions have the same text and bind as many values. -/
structure Condition.SameText (first second : Condition) : Prop where
  expression : first.expression = second.expression
  bound : first.boundValues.length = second.boundValues.length

/-- Whether a condition stands in parentheses is decided by its text. -/
theorem Condition.SameText.conjunct_eq {first second : Condition} (same : first.SameText second) :
    Scope.conjunct first = Scope.conjunct second := by
  rcases first with ⟨text, values⟩
  rcases second with ⟨text', values'⟩
  obtain rfl : text = text' := same.expression
  rfl

/-- The scopes have conditions of the same text, one by one. -/
def Scope.SameText (first second : Scope) : Prop :=
  List.Forall₂ Condition.SameText first.conditions second.conditions

namespace Scope.SameText

variable {first second : Scope}

theorem compose {others rest : Scope} (same : first.SameText second)
    (onward : others.SameText rest) : (first.compose others).SameText (second.compose rest) :=
  List.rel_append same onward

theorem whereClause?_eq (same : first.SameText second) :
    first.whereClause? = second.whereClause? := by
  have conjuncts : first.conditions.map conjunct = second.conditions.map conjunct := by
    have equal := List.Forall₂.imp (fun _ _ => Condition.SameText.conjunct_eq) same
    rwa [← List.forall₂_eq_eq_eq, List.forall₂_map_left_iff, List.forall₂_map_right_iff]
  have restricted : first.isUnrestricted = second.isUnrestricted := by
    have lengths := congrArg List.isEmpty conjuncts
    rwa [List.isEmpty_map, List.isEmpty_map] at lengths
  rw [whereClause?, whereClause?, restricted, conjunction, conjunction, conjuncts]

/-- The marks are numbered in the text alone. -/
theorem toSqlFrom?_eq (same : first.SameText second) (backend : Backend) (index : Nat) :
    first.toSqlFrom? backend index = second.toSqlFrom? backend index := by
  rw [toSqlFrom?, toSqlFrom?, same.whereClause?_eq]

theorem length_boundValues (same : first.SameText second) :
    first.boundValues.length = second.boundValues.length := by
  have lengths : first.conditions.map (·.boundValues.length) =
      second.conditions.map (·.boundValues.length) := by
    have equal := List.Forall₂.imp (fun _ _ => Condition.SameText.bound) same
    rwa [← List.forall₂_eq_eq_eq, List.forall₂_map_left_iff, List.forall₂_map_right_iff]
  rw [boundValues, boundValues, List.length_flatMap, List.length_flatMap, lengths]

end Scope.SameText

/-! ### Alike criteria are answered alike -/

/-- **The text of a condition is decided by the number of bound texts**, and so is its refusal. -/
theorem NamedScope.condition_agree (scope : NamedScope) (column : String)
    {operand other : Operand} (options : CompileOptions)
    (counts : (scope.texts operand).length = (scope.texts other).length) :
    Agree Condition.SameText (scope.condition column operand options)
      (scope.condition column other options) := by
  unfold NamedScope.condition
  cases here : scope.texts operand with
  | nil =>
    rw [here, List.length_nil, eq_comm, List.length_eq_zero_iff] at counts
    rw [counts]
    cases policy : options.emptyPolicy with
    | reject =>
      simp only [Condition.ofNoValues, policy]
      exact .failed _
    | matchNone =>
      simp only [Condition.ofNoValues, policy]
      exact .answered ⟨rfl, rfl⟩
  | cons text rest =>
    cases there : scope.texts other with
    | nil => simp [here, there] at counts
    | cons text' rest' =>
      rw [here, there] at counts
      refine .answered ⟨?_, ?_⟩
      · simp only [Condition.ofClauses, List.length_map, counts]
      · simpa only [Condition.ofClauses, List.length_map] using counts

namespace Registry

variable (registry : Registry) (name : String)

/-- **Alike criteria are answered alike**, one by one. The guard sees the column alone. -/
theorem scopeOf_agree {first second : Criterion} (alike : first.Alike second) :
    Agree Scope.SameText (registry.scopeOf name first) (registry.scopeOf name second) := by
  have columns := alike.column
  have operators := alike.operator
  cases guarded : registry.guardAccess name first.column with
  | error error =>
    rw [scopeOf_of_refused guarded, scopeOf_of_refused (columns ▸ guarded)]
    exact .failed error
  | ok passed =>
    -- From here on only the operands differ.
    rw [scopeOf_of_guardAccess guarded, scopeOf_of_guardAccess (columns ▸ guarded), ← columns,
      ← operators]
    cases found : NamedScope.find? first.operator with
    | none => exact .failed _
    | some scope =>
      have counts : (scope.texts first.operand).length = (scope.texts second.operand).length := by
        rw [Criterion.length_texts found, Criterion.length_texts (operators ▸ found),
          alike.boundCount]
      exact (scope.condition_agree first.column _ counts).map fun _ _ same =>
        .cons same .nil

theorem scopeOfAll_agree {first second : List Criterion}
    (alike : List.Forall₂ Criterion.Alike first second) :
    Agree Scope.SameText (registry.scopeOfAll name first) (registry.scopeOfAll name second) := by
  induction alike with
  | nil => exact .answered .nil
  | cons head rest ih =>
    rw [scopeOfAll, scopeOfAll]
    refine (registry.scopeOf_agree name head).bind fun _ _ same => ?_
    exact ih.bind fun _ _ onward => .answered (same.compose onward)

/-- The limit on criteria counts them, and alike lists are equally long. -/
theorem filterBy_agree {first second : Criteria}
    (alike : List.Forall₂ Criterion.Alike first.entries second.entries) :
    Agree Scope.SameText (registry.filterBy name first) (registry.filterBy name second) := by
  rw [filterBy_eq, filterBy_eq, alike.length_eq]
  cases registry.knows name with
  | false => exact .failed _
  | true =>
    by_cases within : second.entries.length ≤ registry.settings.maxCriteria
    · rw [if_pos within, if_pos within]
      exact registry.scopeOfAll_agree name alike
    · rw [if_neg within, if_neg within]
      exact .failed _

/-- **Values never reach the SQL text.** Criteria that differ in their values alone are refused with
the same error, or they are answered with the same SQL text, whatever the backend and the number of
the first mark, and with as many bound values. -/
theorem filterBy_noninterference {first second : Criteria}
    (alike : List.Forall₂ Criterion.Alike first.entries second.entries) :
    (∃ error, registry.filterBy name first = .error error ∧
      registry.filterBy name second = .error error) ∨
    ∃ scope other, registry.filterBy name first = .ok scope ∧
      registry.filterBy name second = .ok other ∧
      scope.whereClause? = other.whereClause? ∧
      (∀ backend index, scope.toSqlFrom? backend index = other.toSqlFrom? backend index) ∧
      scope.boundValues.length = other.boundValues.length := by
  have agree := registry.filterBy_agree name alike
  generalize registry.filterBy name first = answer, registry.filterBy name second = other at agree ⊢
  cases agree with
  | failed error => exact .inl ⟨error, rfl, rfl⟩
  | @answered scope other same =>
    exact .inr ⟨scope, other, rfl, rfl, same.whereClause?_eq, same.toSqlFrom?_eq,
      same.length_boundValues⟩

/-- Articles with a title and tags, which may be filtered by both. -/
def articles : Registry :=
  ⟨⟨50, 64 * 1024, .reject, true⟩, [RecordType.ofColumns "Article" ["title", "tags"] none],
    [("Article", AttributeSet.ofList ["title", "tags"])]⟩

/-- Two tags and two titles that look harmless, -/
def harmless : Criteria :=
  .many [some ⟨"tags", "contains_all_of", .single (.text "red blue")⟩,
    some ⟨"title", "is", .list [.text "Sea", .integer 7]⟩]

/-- and as many that are written like a part of the text. -/
def hostile : Criteria :=
  .many [some ⟨"tags", "contains_all_of", .single (.text "?\t$1\x7b\x7d")⟩, none,
    some ⟨"title", "is", .list [.text "' OR 1=1 AND (", .boolean true]⟩]

/-- The answer to the latter keeps the values apart from the text. -/
def hostileScope : Scope :=
  ⟨[⟨"tags LIKE ? ESCAPE '\\' AND tags LIKE ? ESCAPE '\\'", ["%?%", "%$1\x7b\x7d%"]⟩,
    ⟨"lower(title) = ? OR lower(title) = ?", ["' or 1=1 and (", "true"]⟩]⟩

theorem filterBy_noninterference_articles :
    articles.filterBy "Article" hostile = .ok hostileScope ∧
    List.Forall₂ Criterion.Alike harmless.entries hostile.entries ∧
    ((∃ error, articles.filterBy "Article" harmless = .error error ∧
      articles.filterBy "Article" hostile = .error error) ∨
    ∃ scope other, articles.filterBy "Article" harmless = .ok scope ∧
      articles.filterBy "Article" hostile = .ok other ∧
      scope.whereClause? = other.whereClause? ∧
      (∀ backend index, scope.toSqlFrom? backend index = other.toSqlFrom? backend index) ∧
      scope.boundValues.length = other.boundValues.length) := by
  have alike : List.Forall₂ Criterion.Alike harmless.entries hostile.entries :=
    .cons ⟨rfl, rfl, by decide +kernel⟩ (.cons ⟨rfl, rfl, rfl⟩ .nil)
  exact ⟨by decide +kernel, alike, articles.filterBy_noninterference "Article" alike⟩

end Registry

end AttributeFilter
