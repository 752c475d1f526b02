/-
**Readings of what is written.**

A compiled condition is a clause repeated with a separator between neighbours, and a conjunction of
conditions puts the compound ones in parentheses. Whether a condition is compound is asked of its
text: the two separators are looked for in it.

* `isCompound_ofClauses` — the search is exact. A single clause holds no separator, whatever its
  column is called, and two clauses hold the one between them.
* `NamedScope.text_reading` — the repeated clause has a reading.
* **`NamedScope.text_factor`** — a conjunct has a reading as one factor, so that nothing inside it
  reaches across the AND next to it.
-/

import AttributeFilter.Proofs.Registry.NamedScope

namespace AttributeFilter

/-! ### Searching and joining -/

/-- A part that begins with a blank is not found in a word without blanks. -/
theorem occursIn_append_of_no_blank (part : List Char) {word : List Char}
    (unbroken : ' ' ∉ word) (rest : List Char) :
    occursIn (' ' :: part) (word ++ rest) = occursIn (' ' :: part) rest := by
  induction word with
  | nil => rfl
  | cons c word ih =>
    have different : (' ' == c) = false := beq_false_of_ne (List.ne_of_not_mem_cons unbroken)
    rw [List.cons_append, occursIn, List.isPrefixOf_cons_cons, different, Bool.false_and,
      Bool.false_or]
    exact ih (List.not_mem_of_not_mem_cons unbroken)

/-- A part is found wherever it stands. -/
theorem occursIn_append_self (part before after : List Char) :
    occursIn part (before ++ (part ++ after)) = true := by
  induction before with
  | nil =>
    have found : part.isPrefixOf (part ++ after) = true :=
      List.isPrefixOf_iff_prefix.mpr (List.prefix_append part after)
    cases whole : part ++ after with
    | nil =>
      rw [List.append_eq_nil_iff] at whole
      simp [occursIn, whole]
    | cons c rest =>
      rw [whole] at found
      simp [occursIn, found]
  | cons c before ih => simp [occursIn, ih]

theorem toList_joinWith (separator : String) (parts : List String) :
    (joinWith separator parts).toList =
      separator.toList.intercalate (parts.map String.toList) := by
  induction parts with
  | nil => rfl
  | cons part rest ih =>
    cases rest with
    | nil => simp [joinWith]
    | cons next rest =>
      rw [joinWith, String.toList_append, String.toList_append, ih]
      simp [List.intercalate_cons_cons]

/-! ### Readings of several parts -/

/-- The disjunction of a first conjunction and others. -/
def Disjunction.any (first : Conjunction) : List Conjunction → Disjunction
  | [] => .last first
  | next :: rest => .or first (any next rest)

/-- The conjunction of a first factor and others. -/
def Conjunction.all (first : Factor) : List Factor → Conjunction
  | [] => .last first
  | next :: rest => .and first (all next rest)

theorem Disjunction.text_any (first : Conjunction) (rest : List Conjunction) :
    (any first rest).text = " OR ".toList.intercalate ((first :: rest).map Conjunction.text) := by
  induction rest generalizing first with
  | nil => simp [any, Disjunction.text]
  | cons next rest ih => simp [any, Disjunction.text, ih, List.intercalate_cons_cons]

theorem Conjunction.text_all (first : Factor) (rest : List Factor) :
    (all first rest).text = " AND ".toList.intercalate ((first :: rest).map Factor.text) := by
  induction rest generalizing first with
  | nil => simp [all, Conjunction.text]
  | cons next rest ih => simp [all, Conjunction.text, ih, List.intercalate_cons_cons]

/-! ### A clause holds no separator -/

/-- What follows the column of a clause holds no separator. -/
theorem comparison_no_separator {comparison : String}
    (known : comparison ∈ Operator.table.map Operator.comparison) (escaped : Bool) :
    ∀ separator ∈ [" OR ", " AND "], occursIn separator.toList
      (' ' :: (comparison.toList ++ (" ?".toList ++ Clause.ending escaped))) = false := by
  revert comparison escaped
  decide

theorem no_blank_of_isIdentifier {column : String} (plain : isIdentifier column = true) :
    ' ' ∉ column.toList := by
  intro member
  exact absurd (continues_of_isIdentifier plain ' ' member) (by decide)

/-- **No separator is found in a clause**, even if its column is spelled like one. -/
theorem Clause.no_separator {clause : Clause} (valid : clause.Valid) :
    ∀ separator ∈ [" OR ", " AND "], occursIn separator.toList clause.text = false := by
  have skip (word tail : List Char) (unbroken : ' ' ∉ word)
      (absent : ∀ separator ∈ [" OR ", " AND "], occursIn separator.toList tail = false) :
      ∀ separator ∈ [" OR ", " AND "], occursIn separator.toList (word ++ tail) = false := by
    simp only [List.mem_cons, List.not_mem_nil, or_false, forall_eq_or_imp, forall_eq] at absent ⊢
    exact ⟨(occursIn_append_of_no_blank _ unbroken tail).trans absent.1,
      (occursIn_append_of_no_blank _ unbroken tail).trans absent.2⟩
  cases clause with
  | compares column comparison escaped =>
    exact skip _ _ (by decide) (skip _ _ (no_blank_of_isIdentifier valid.1)
      (skip [')'] _ (by decide) (comparison_no_separator valid.2 escaped)))
  | contains column escaped =>
    exact skip _ _ (no_blank_of_isIdentifier valid) (by cases escaped <;> decide)
  | never => decide

/-! ### The repeated clause -/

/-- The reading of a clause that is repeated `others` times after its first occurrence. -/
def NamedScope.reading (factor : Factor) (others : Nat) : NamedScope → Disjunction
  | .comparing _ => .any (.last factor) (List.replicate others (.last factor))
  | .containingAll => .last (.all factor (List.replicate others factor))

/-- The factor of such a clause: a single occurrence stands by itself, several are grouped. -/
def NamedScope.factor (scope : NamedScope) (factor : Factor) (others : Nat) : Factor :=
  if others = 0 then factor else .group (scope.reading factor others)

section

variable (scope : NamedScope) {clause : Clause} (valid : clause.Valid) (first : String)
  (rest : List String)

/-- **A repeated clause is read as it is meant**: as alternatives under a table operator, as joint
demands under the operator for all tokens. -/
theorem NamedScope.text_reading :
    (scope.reading (.clause clause valid) rest.length).text =
      (Condition.ofClauses (String.ofList clause.text) scope.separator
        (first :: rest)).expression.toList := by
  rw [Condition.ofClauses, List.length_cons, toList_joinWith, List.map_replicate,
    String.toList_ofList, List.replicate_succ]
  cases scope with
  | comparing operator =>
    rw [reading, Disjunction.text_any, List.map_cons, List.map_replicate]
    rfl
  | containingAll =>
    rw [reading, Disjunction.text, Conjunction.text_all, List.map_cons, List.map_replicate]
    rfl

include valid in
/-- **The search for separators is exact**: it tells several clauses from one. -/
theorem isCompound_ofClauses :
    (Condition.ofClauses (String.ofList clause.text) scope.separator (first :: rest)).isCompound =
      !rest.isEmpty := by
  cases rest with
  | nil =>
    have noOr := Clause.no_separator valid " OR " (by simp)
    have noAnd := Clause.no_separator valid " AND " (by simp)
    have single : (Condition.ofClauses (String.ofList clause.text) scope.separator
        [first]).expression.toList = clause.text := by simp [Condition.ofClauses, joinWith]
    rw [Condition.isCompound, single, noOr, noAnd]
    rfl
  | cons next rest =>
    have found : occursIn scope.separator.toList
        (Condition.ofClauses (String.ofList clause.text) scope.separator
          (first :: next :: rest)).expression.toList = true := by
      simp only [Condition.ofClauses, List.length_cons, List.replicate_succ, joinWith,
        String.toList_append, List.append_assoc]
      exact occursIn_append_self _ _ _
    cases scope with
    | comparing operator => exact Bool.or_eq_true_iff.mpr (.inl found)
    | containingAll => exact Bool.or_eq_true_iff.mpr (.inr found)

/-- **A conjunct is read as one factor.** -/
theorem NamedScope.text_factor :
    (scope.factor (.clause clause valid) rest.length).text =
      (Scope.conjunct (Condition.ofClauses (String.ofList clause.text) scope.separator
        (first :: rest))).toList := by
  rw [Scope.conjunct, isCompound_ofClauses scope valid first rest]
  cases rest with
  | nil => simp [factor, Factor.text, Condition.ofClauses, joinWith]
  | cons next rest =>
    have grouped : (next :: rest).length ≠ 0 := by simp
    rw [factor, if_neg grouped, Factor.text, text_reading scope valid first (next :: rest)]
    simp

end

end AttributeFilter
