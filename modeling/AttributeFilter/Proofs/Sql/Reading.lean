/-
**Readings of a condition.**

The SQL that is written for conditions has a small grammar, in which AND binds tighter than OR:

```
disjunction  =  conjunction { " OR " conjunction }
conjunction  =  factor { " AND " factor }
factor       =  "(" disjunction ")"  |  clause
clause       =  "lower(" column ") " comparison " ?" [ escape ]
             |  column " LIKE ?" [ escape ]
             |  "1=0"
```

A column is a plain identifier, a comparison is one of the operator table. A reading of a text is a
derivation of it in this grammar: a tree of the types below whose `text` it is.

* **`Disjunction.text_injective`** — a text has at most one reading.
* `Disjunction.eval` — what a reading says when it is known of every clause with a mark whether it
  holds. The marks are numbered from left to right.
* `Disjunction.columns` — the columns that a reading names.
-/

import AttributeFilter.Sql.Condition

namespace AttributeFilter

/-! ### Clauses -/

/-- A comparison of a column with one value, or the clause that holds of no record. -/
inductive Clause
  | compares (column comparison : String) (escaped : Bool)
  | contains (column : String) (escaped : Bool)
  | never
deriving Repr, DecidableEq

namespace Clause

/-- The column is a plain identifier, the comparison one of the operator table. -/
def Valid : Clause → Prop
  | .compares column comparison _ =>
    isIdentifier column = true ∧ comparison ∈ Operator.table.map Operator.comparison
  | .contains column _ => isIdentifier column = true
  | .never => True

/-- What follows the mark of a clause. -/
def ending (escaped : Bool) : List Char := if escaped then Condition.escapeClause.toList else []

/-- The text of a clause. -/
def text : Clause → List Char
  | .compares column comparison escaped =>
    "lower(".toList ++ (column.toList ++ (") ".toList ++
      (comparison.toList ++ (" ?".toList ++ ending escaped))))
  | .contains column escaped => column.toList ++ (" LIKE ?".toList ++ ending escaped)
  | .never => "1=0".toList

-- Stated by hand, since the equations made from the definition compute the literals in it.
theorem text_compares (column comparison : String) (escaped : Bool) :
    (Clause.compares column comparison escaped).text =
      "lower(".toList ++ (column.toList ++ (") ".toList ++
        (comparison.toList ++ (" ?".toList ++ ending escaped)))) := rfl

theorem text_contains (column : String) (escaped : Bool) :
    (Clause.contains column escaped).text =
      column.toList ++ (" LIKE ?".toList ++ ending escaped) := rfl

theorem text_never : never.text = "1=0".toList := rfl

/-- The number of marks in a clause. -/
def marks : Clause → Nat
  | .never => 0
  | _ => 1

/-- The columns that a clause names. -/
def columns : Clause → List String
  | .compares column _ _ => [column]
  | .contains column _ => [column]
  | .never => []

/-- Whether a clause holds, given what holds of clauses with a mark. -/
def eval (truth : Nat → Clause → Bool) (index : Nat) : Clause → Bool
  | .never => false
  | clause => truth index clause

end Clause

/-! ### Readings -/

mutual

/-- Conjunctions with OR between neighbours. -/
inductive Disjunction
  | last (term : Conjunction)
  | or (term : Conjunction) (rest : Disjunction)

/-- Factors with AND between neighbours. -/
inductive Conjunction
  | last (factor : Factor)
  | and (factor : Factor) (rest : Conjunction)

/-- A clause, or a disjunction in parentheses. -/
inductive Factor
  | clause (clause : Clause) (valid : clause.Valid)
  | group (inner : Disjunction)

end

mutual

/-- The text of a disjunction. -/
def Disjunction.text : Disjunction → List Char
  | .last term => term.text
  | .or term rest => term.text ++ (" OR ".toList ++ rest.text)

/-- The text of a conjunction. -/
def Conjunction.text : Conjunction → List Char
  | .last factor => factor.text
  | .and factor rest => factor.text ++ (" AND ".toList ++ rest.text)

/-- The text of a factor. -/
def Factor.text : Factor → List Char
  | .clause clause _ => clause.text
  | .group inner => '(' :: (inner.text ++ [')'])

end

mutual

/-- The number of marks in a disjunction. -/
def Disjunction.marks : Disjunction → Nat
  | .last term => term.marks
  | .or term rest => term.marks + rest.marks

/-- The number of marks in a conjunction. -/
def Conjunction.marks : Conjunction → Nat
  | .last factor => factor.marks
  | .and factor rest => factor.marks + rest.marks

/-- The number of marks in a factor. -/
def Factor.marks : Factor → Nat
  | .clause clause _ => clause.marks
  | .group inner => inner.marks

end

mutual

/-- The columns that a disjunction names. -/
def Disjunction.columns : Disjunction → List String
  | .last term => term.columns
  | .or term rest => term.columns ++ rest.columns

/-- The columns that a conjunction names. -/
def Conjunction.columns : Conjunction → List String
  | .last factor => factor.columns
  | .and factor rest => factor.columns ++ rest.columns

/-- The columns that a factor names. -/
def Factor.columns : Factor → List String
  | .clause clause _ => clause.columns
  | .group inner => inner.columns

end

mutual

/-- Whether a disjunction holds whose first mark has the given index. -/
def Disjunction.eval (truth : Nat → Clause → Bool) (index : Nat) : Disjunction → Bool
  | .last term => term.eval truth index
  | .or term rest => term.eval truth index || rest.eval truth (index + term.marks)

/-- Whether a conjunction holds whose first mark has the given index. -/
def Conjunction.eval (truth : Nat → Clause → Bool) (index : Nat) : Conjunction → Bool
  | .last factor => factor.eval truth index
  | .and factor rest => factor.eval truth index && rest.eval truth (index + factor.marks)

/-- Whether a factor holds whose first mark has the given index. -/
def Factor.eval (truth : Nat → Clause → Bool) (index : Nat) : Factor → Bool
  | .clause clause _ => clause.eval truth index
  | .group inner => inner.eval truth index

end

/-! ### What may follow

A reading ends where it can go on no further, so each kind of reading is followed by the end of the
text or by one of the separators of the kinds around it. -/

/-- What may follow a disjunction. -/
inductive EndsDisjunction : List Char → Prop
  | nil : EndsDisjunction []
  | close (more : List Char) : EndsDisjunction (')' :: more)

/-- What may follow a conjunction. -/
inductive EndsConjunction : List Char → Prop
  | ends {rest : List Char} : EndsDisjunction rest → EndsConjunction rest
  | or (more : List Char) : EndsConjunction (" OR ".toList ++ more)

/-- What may follow a factor. -/
inductive EndsFactor : List Char → Prop
  | ends {rest : List Char} : EndsConjunction rest → EndsFactor rest
  | and (more : List Char) : EndsFactor (" AND ".toList ++ more)

theorem EndsDisjunction.not_or (more : List Char) : ¬ EndsDisjunction (" OR ".toList ++ more) := by
  intro ends
  cases ends

theorem EndsConjunction.not_and (more : List Char) :
    ¬ EndsConjunction (" AND ".toList ++ more) := by
  intro ends
  generalize shape : " AND ".toList ++ more = rest at ends
  cases ends with
  | ends inner => cases inner <;> simp at shape
  | or more' => simp at shape

theorem EndsFactor.not_escape (more : List Char) :
    ¬ EndsFactor (Condition.escapeClause.toList ++ more) := by
  intro ends
  generalize shape : Condition.escapeClause.toList ++ more = rest at ends
  cases ends with
  | ends inner =>
    cases inner with
    | ends inner => cases inner <;> simp [Condition.escapeClause] at shape
    | or more' => simp [Condition.escapeClause] at shape
  | and more' => simp [Condition.escapeClause] at shape

/-! ### The boundaries of a clause -/

/-- A run of characters of one kind and the first character of another kind are found again in a
text that begins with them. -/
theorem append_cons_inj (kind : Char → Bool) {run run' rest rest' : List Char} {stop stop' : Char}
    (same : run ++ stop :: rest = run' ++ stop' :: rest')
    (inside : ∀ c ∈ run, kind c = true) (outside : kind stop = false)
    (inside' : ∀ c ∈ run', kind c = true) (outside' : kind stop' = false) :
    run = run' ∧ stop = stop' ∧ rest = rest' := by
  have first : (run ++ stop :: rest).takeWhile kind = run := by
    rw [List.takeWhile_append_of_pos inside, List.takeWhile_cons_of_neg (by simp [outside]),
      List.append_nil]
  have second : (run' ++ stop' :: rest').takeWhile kind = run' := by
    rw [List.takeWhile_append_of_pos inside', List.takeWhile_cons_of_neg (by simp [outside']),
      List.append_nil]
  have runs : run = run' := by rw [← first, same, second]
  subst runs
  obtain ⟨stops, rests⟩ := List.cons.inj (List.append_cancel_left same)
  exact ⟨rfl, stops, rests⟩

/-- The characters of an identifier may follow in one. -/
theorem continues_of_isIdentifier {column : String} (plain : isIdentifier column = true) :
    ∀ c ∈ column.toList, continuesIdentifier c = true := by
  unfold isIdentifier at plain
  cases shape : column.toList with
  | nil => simp
  | cons c rest =>
    rw [shape] at plain
    simp only [isIdentifierText, Bool.and_eq_true, List.all_eq_true] at plain
    intro d member
    rcases List.mem_cons.mp member with rfl | later
    · have begins := plain.1
      simp only [beginsIdentifier, continuesIdentifier, Char.isAlphanum, Bool.or_eq_true]
        at begins ⊢
      exact begins.imp_left Or.inl
    · exact plain.2 d later

/-- No comparison of the table has a mark of its own. -/
theorem no_mark_of_comparison {comparison : String}
    (known : comparison ∈ Operator.table.map Operator.comparison) :
    ∀ c ∈ comparison.toList ++ [' '], (c != '?') = true := by
  have unmarked : ∀ comparison ∈ Operator.table.map Operator.comparison,
      (comparison.toList ++ [' ']).all (· != '?') = true := by decide
  exact List.all_eq_true.mp (unmarked comparison known)

theorem Clause.ending_append_inj {escaped escaped' : Bool} {rest rest' : List Char}
    (ends : EndsFactor rest) (ends' : EndsFactor rest')
    (same : ending escaped ++ rest = ending escaped' ++ rest') :
    escaped = escaped' ∧ rest = rest' := by
  cases escaped with
  | false =>
    cases escaped' with
    | false => exact ⟨rfl, same⟩
    | true =>
      have follows : EndsFactor (Condition.escapeClause.toList ++ rest') := same ▸ ends
      exact absurd follows (EndsFactor.not_escape _)
  | true =>
    cases escaped' with
    | false =>
      have follows : EndsFactor (Condition.escapeClause.toList ++ rest) := same ▸ ends'
      exact absurd follows (EndsFactor.not_escape _)
    | true => exact ⟨rfl, List.append_cancel_left same⟩

namespace Clause

/-- The first character of a clause that is in no identifier tells the three kinds apart. -/
def stop : Clause → Char
  | .compares .. => '('
  | .contains .. => ' '
  | .never => '='

/-- A clause begins with a word, and the character after the word is its stop. -/
theorem text_opening {clause : Clause} (valid : clause.Valid) :
    ∃ word tail, clause.text = word ++ clause.stop :: tail ∧ word ≠ [] ∧
      ∀ c ∈ word, continuesIdentifier c = true := by
  cases clause with
  | compares column comparison escaped =>
    exact ⟨"lower".toList, _, rfl, by simp, List.all_eq_true.mp rfl⟩
  | contains column escaped =>
    refine ⟨column.toList, _, rfl, ?_, continues_of_isIdentifier valid⟩
    intro empty
    have plain : isIdentifier column = true := valid
    rw [isIdentifier, empty] at plain
    exact Bool.false_ne_true plain
  | never => exact ⟨['1'], _, rfl, by simp, List.all_eq_true.mp rfl⟩

theorem stop_not_continues (clause : Clause) : continuesIdentifier clause.stop = false := by
  cases clause <;> rfl

/-- Texts that begin with clauses agree only where the clauses are of one kind. -/
theorem stop_eq {first second : Clause} {rest rest' : List Char} (valid : first.Valid)
    (valid' : second.Valid) (same : first.text ++ rest = second.text ++ rest') :
    first.stop = second.stop := by
  obtain ⟨word, tail, split, -, inside⟩ := text_opening valid
  obtain ⟨word', tail', split', -, inside'⟩ := text_opening valid'
  rw [split, split', List.append_assoc, List.append_assoc, List.cons_append,
    List.cons_append] at same
  exact (append_cons_inj continuesIdentifier same inside first.stop_not_continues inside'
    second.stop_not_continues).2.1

/-- A clause begins with no parenthesis. -/
theorem text_ne_group {clause : Clause} (valid : clause.Valid) {rest rest' : List Char} :
    clause.text ++ rest ≠ '(' :: rest' := by
  intro same
  obtain ⟨word, tail, split, nonempty, inside⟩ := text_opening valid
  rw [split, List.append_assoc, List.cons_append, ← List.nil_append ('(' :: rest')] at same
  exact nonempty (append_cons_inj continuesIdentifier same inside clause.stop_not_continues
    (by simp) rfl).1

/-- **A clause is found again in a text that begins with it**, and so is what follows it. -/
theorem text_append_inj {first second : Clause} {rest rest' : List Char} (valid : first.Valid)
    (valid' : second.Valid) (ends : EndsFactor rest) (ends' : EndsFactor rest')
    (same : first.text ++ rest = second.text ++ rest') : first = second ∧ rest = rest' := by
  have kinds := stop_eq valid valid' same
  cases first with
  | compares column comparison escaped =>
    cases second with
    | compares column' comparison' escaped' =>
      simp only [text_compares, List.append_assoc] at same
      obtain ⟨columns, -, afterColumn⟩ := append_cons_inj continuesIdentifier
        (List.append_cancel_left same) (continues_of_isIdentifier valid.1) rfl
        (continues_of_isIdentifier valid'.1) rfl
      have atMark : (comparison.toList ++ [' ']) ++ '?' :: (ending escaped ++ rest) =
          (comparison'.toList ++ [' ']) ++ '?' :: (ending escaped' ++ rest') := by
        simpa using (List.cons.inj afterColumn).2
      obtain ⟨comparisons, -, endings⟩ := append_cons_inj (· != '?') atMark
        (no_mark_of_comparison valid.2) rfl (no_mark_of_comparison valid'.2) rfl
      obtain ⟨rfl, rests⟩ := ending_append_inj ends ends' endings
      rw [String.toList_inj.mp columns,
        String.toList_inj.mp (List.append_cancel_right comparisons)]
      exact ⟨rfl, rests⟩
    | contains => simp [stop] at kinds
    | never => simp [stop] at kinds
  | contains column escaped =>
    cases second with
    | compares => simp [stop] at kinds
    | contains column' escaped' =>
      simp only [text_contains, List.append_assoc] at same
      obtain ⟨columns, -, afterColumn⟩ := append_cons_inj continuesIdentifier same
        (continues_of_isIdentifier valid) rfl (continues_of_isIdentifier valid') rfl
      have endings : ending escaped ++ rest = ending escaped' ++ rest' := by
        simpa using afterColumn
      obtain ⟨rfl, rests⟩ := ending_append_inj ends ends' endings
      rw [String.toList_inj.mp columns]
      exact ⟨rfl, rests⟩
    | never => simp [stop] at kinds
  | never =>
    cases second with
    | compares => simp [stop] at kinds
    | contains => simp [stop] at kinds
    | never => exact ⟨rfl, List.append_cancel_left same⟩

end Clause

/-! ### A text has one reading -/

mutual

/-- A disjunction is found again in a text that begins with it. -/
theorem Disjunction.text_append_inj {rest rest' : List Char} (ends : EndsDisjunction rest)
    (ends' : EndsDisjunction rest') :
    ∀ first second : Disjunction, first.text ++ rest = second.text ++ rest' →
      first = second ∧ rest = rest'
  | .last term, .last term', same => by
    obtain ⟨rfl, rests⟩ := Conjunction.text_append_inj (.ends ends) (.ends ends') term term' same
    exact ⟨rfl, rests⟩
  -- One reading ends where the other goes on with OR, and nothing that may follow begins so.
  | .last term, .or term' others', same => by
    simp only [Disjunction.text, List.append_assoc] at same
    have tails := (Conjunction.text_append_inj (.ends ends) (.or _) term term' same).2
    exact absurd (tails ▸ ends) (EndsDisjunction.not_or _)
  | .or term others, .last term', same => by
    simp only [Disjunction.text, List.append_assoc] at same
    have tails := (Conjunction.text_append_inj (.or _) (.ends ends') term term' same).2
    exact absurd (tails ▸ ends') (EndsDisjunction.not_or _)
  | .or term others, .or term' others', same => by
    simp only [Disjunction.text, List.append_assoc] at same
    obtain ⟨rfl, tails⟩ := Conjunction.text_append_inj (.or _) (.or _) term term' same
    obtain ⟨rfl, rests⟩ := Disjunction.text_append_inj ends ends' others others'
      (List.append_cancel_left tails)
    exact ⟨rfl, rests⟩

/-- A conjunction is found again in a text that begins with it. -/
theorem Conjunction.text_append_inj {rest rest' : List Char} (ends : EndsConjunction rest)
    (ends' : EndsConjunction rest') :
    ∀ first second : Conjunction, first.text ++ rest = second.text ++ rest' →
      first = second ∧ rest = rest'
  | .last factor, .last factor', same => by
    obtain ⟨rfl, rests⟩ := Factor.text_append_inj (.ends ends) (.ends ends') factor factor' same
    exact ⟨rfl, rests⟩
  | .last factor, .and factor' others', same => by
    simp only [Conjunction.text, List.append_assoc] at same
    have tails := (Factor.text_append_inj (.ends ends) (.and _) factor factor' same).2
    exact absurd (tails ▸ ends) (EndsConjunction.not_and _)
  | .and factor others, .last factor', same => by
    simp only [Conjunction.text, List.append_assoc] at same
    have tails := (Factor.text_append_inj (.and _) (.ends ends') factor factor' same).2
    exact absurd (tails ▸ ends') (EndsConjunction.not_and _)
  | .and factor others, .and factor' others', same => by
    simp only [Conjunction.text, List.append_assoc] at same
    obtain ⟨rfl, tails⟩ := Factor.text_append_inj (.and _) (.and _) factor factor' same
    obtain ⟨rfl, rests⟩ := Conjunction.text_append_inj ends ends' others others'
      (List.append_cancel_left tails)
    exact ⟨rfl, rests⟩

/-- A factor is found again in a text that begins with it: a parenthesis begins no clause. -/
theorem Factor.text_append_inj {rest rest' : List Char} (ends : EndsFactor rest)
    (ends' : EndsFactor rest') :
    ∀ first second : Factor, first.text ++ rest = second.text ++ rest' →
      first = second ∧ rest = rest'
  | .clause clause valid, .clause clause' valid', same => by
    obtain ⟨rfl, rests⟩ := Clause.text_append_inj valid valid' ends ends' same
    exact ⟨rfl, rests⟩
  | .clause clause valid, .group inner', same => absurd same (Clause.text_ne_group valid)
  | .group inner, .clause clause' valid', same => absurd same.symm (Clause.text_ne_group valid')
  | .group inner, .group inner', same => by
    simp only [Factor.text, List.cons_append, List.append_assoc, List.cons.injEq, true_and] at same
    obtain ⟨rfl, rests⟩ := Disjunction.text_append_inj (.close _) (.close _) inner inner' same
    exact ⟨rfl, (List.cons.inj rests).2⟩

end

/-- **A text has at most one reading.** -/
theorem Disjunction.text_injective : Function.Injective Disjunction.text := by
  intro first second same
  refine (Disjunction.text_append_inj .nil .nil first second ?_).1
  rw [List.append_nil, List.append_nil]
  exact same

end AttributeFilter
