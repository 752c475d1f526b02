/-
**Numbered marks.**

For a backend that numbers its values, every mark of a text becomes a dollar sign with a number. The
numbered text can be taken apart again if the text has no dollar sign of its own and no digit stands
right behind a mark, where it would run into the number.

* `dollarMarks` — the dollar signs of a text, each with the digits behind it.
* `eraseNumbers` — the text with a `?` in their place.
* **`dollarMarks_numberMarks`**, **`eraseNumbers_numberMarks`** — the numbers that were written are
  found in their order, and without them the text is what it was.
* **`Disjunction.isNumberable_append`** — the text of a reading can be numbered, and it has as many
  marks as the reading.
-/

import AttributeFilter.Proofs.Sql.Reading
import AttributeFilter.Sql.Scope
import Mathlib.Data.List.Basic

namespace AttributeFilter

/-! ### Reading numbered marks -/

/-- The dollar signs of a text, each with all the digits behind it. -/
def dollarMarks : List Char → List (List Char)
  | [] => []
  | c :: rest =>
    if c = '$' then (c :: rest.takeWhile Char.isDigit) :: dollarMarks rest else dollarMarks rest

/-- The text with a `?` for every dollar sign and the digits behind it; whether such digits may go
on is given for its beginning. -/
def eraseNumbers (behind : Bool) : List Char → List Char
  | [] => []
  | c :: rest =>
    if c = '$' then '?' :: eraseNumbers true rest
    else if behind && c.isDigit then eraseNumbers true rest
    else c :: eraseNumbers false rest

/-! ### Texts that can be numbered -/

/-- Whether a text begins with a digit. -/
def beginsDigit : List Char → Bool
  | [] => false
  | c :: _ => c.isDigit

/-- Whether a text has no dollar sign and no digit right behind a mark. -/
def isNumberable : List Char → Bool
  | [] => true
  | c :: rest => c != '$' && (c != '?' || !beginsDigit rest) && isNumberable rest

theorem isNumberable_cons_iff {c : Char} {rest : List Char} :
    isNumberable (c :: rest) = true ↔
      c ≠ '$' ∧ (c = '?' → beginsDigit rest = false) ∧ isNumberable rest = true := by
  rw [isNumberable, Bool.and_eq_true, Bool.and_eq_true, Bool.or_eq_true, bne_iff_ne, bne_iff_ne,
    Bool.not_eq_true', and_assoc, ← imp_iff_not_or]

/-- Whether a text has neither marks nor dollar signs. -/
def isUnmarked (text : List Char) : Bool := text.all fun c => c != '$' && c != '?'

/-- A run of characters without marks and dollar signs changes nothing. -/
theorem isNumberable_append_of_isUnmarked {word : List Char} (unmarked : isUnmarked word = true)
    (rest : List Char) : isNumberable (word ++ rest) = isNumberable rest := by
  induction word with
  | nil => rfl
  | cons c word ih =>
    simp only [isUnmarked, List.all_cons, Bool.and_eq_true, bne_iff_ne, ne_eq] at unmarked
    obtain ⟨⟨noDollar, noMark⟩, others⟩ := unmarked
    simp [isNumberable, noDollar, noMark, ih others]

theorem count_of_isUnmarked {word : List Char} (unmarked : isUnmarked word = true) :
    word.count '?' = 0 := by
  rw [List.count_eq_zero]
  intro member
  exact absurd (List.all_eq_true.mp unmarked '?' member) (by decide)

/-! ### Numbering the marks -/

theorem isDigit_toString {number : Nat} : ∀ c ∈ (toString number).toList, c.isDigit = true := by
  intro c member
  rw [Nat.toString_eq_repr, Nat.toList_repr] at member
  exact Nat.isDigit_of_mem_toDigits (by decide) (by decide) member

theorem toList_placeholder_postgres (number : Nat) :
    (Backend.placeholder .postgres number).toList = '$' :: (toString number).toList := by
  rw [Backend.placeholder, String.toList_append]
  rfl

section

variable {digits : List Char} (all : ∀ c ∈ digits, c.isDigit = true)

include all

theorem not_mem_of_isDigit {sign : Char} (other : sign.isDigit = false) : sign ∉ digits := by
  intro member
  exact Bool.false_ne_true (other.symm.trans (all sign member))

theorem dollarMarks_append_of_isDigit (rest : List Char) :
    dollarMarks (digits ++ rest) = dollarMarks rest := by
  induction digits with
  | nil => rfl
  | cons c digits ih =>
    have noDollar : c ≠ '$' := by
      rintro rfl
      exact not_mem_of_isDigit all rfl List.mem_cons_self
    rw [List.cons_append, dollarMarks, if_neg noDollar,
      ih fun d member => all d (List.mem_cons_of_mem c member)]

variable {rest : List Char} (stop : beginsDigit rest = false)

include stop

theorem takeWhile_digits : (digits ++ rest).takeWhile Char.isDigit = digits := by
  rw [List.takeWhile_append_of_pos all]
  cases rest with
  | nil => simp
  | cons c rest =>
    rw [List.takeWhile_cons_of_neg (by simpa [beginsDigit] using stop), List.append_nil]

theorem eraseNumbers_digits : eraseNumbers true (digits ++ rest) = eraseNumbers false rest := by
  induction digits with
  | nil =>
    cases rest with
    | nil => rfl
    | cons c rest =>
      have noDigit : c.isDigit = false := stop
      simp [eraseNumbers, noDigit]
  | cons c digits ih =>
    have noDollar : c ≠ '$' := by
      rintro rfl
      exact not_mem_of_isDigit all rfl List.mem_cons_self
    have digit : c.isDigit = true := all c List.mem_cons_self
    rw [List.cons_append, eraseNumbers, if_neg noDollar, digit, Bool.true_and, if_pos rfl,
      ih fun d member => all d (List.mem_cons_of_mem c member)]

end

namespace Scope

/-- A backend that keeps the marks keeps the text. -/
theorem numberMarks_sqlite (index : Nat) (text : List Char) :
    numberMarks .sqlite index text = text := by
  induction text generalizing index with
  | nil => rfl
  | cons c rest ih =>
    rw [numberMarks]
    split
    · rename_i mark
      rw [mark, ih, Backend.placeholder]
      rfl
    · rw [ih]

theorem numberMarks_postgres_mark (index : Nat) (rest : List Char) :
    numberMarks .postgres index ('?' :: rest) =
      '$' :: ((toString index).toList ++ numberMarks .postgres (index + 1) rest) := by
  rw [numberMarks, if_pos rfl, toList_placeholder_postgres, List.cons_append]

theorem numberMarks_cons {c : Char} (noMark : c ≠ '?') (backend : Backend) (index : Nat)
    (rest : List Char) :
    numberMarks backend index (c :: rest) = c :: numberMarks backend index rest := by
  rw [numberMarks, if_neg noMark]

/-- Numbering puts no digit in front of a text. -/
theorem beginsDigit_numberMarks (index : Nat) (text : List Char) :
    beginsDigit (numberMarks .postgres index text) = beginsDigit text := by
  cases text with
  | nil => rfl
  | cons c rest =>
    by_cases mark : c = '?'
    · rw [mark, numberMarks_postgres_mark]
      rfl
    · rw [numberMarks_cons mark]
      rfl

/-- No mark is left without a number. -/
theorem not_mem_numberMarks (index : Nat) (text : List Char) :
    '?' ∉ numberMarks .postgres index text := by
  induction text generalizing index with
  | nil => exact List.not_mem_nil
  | cons c rest ih =>
    by_cases mark : c = '?'
    · rw [mark, numberMarks_postgres_mark, List.mem_cons, List.mem_append]
      rintro (dollar | digit | later)
      · exact absurd dollar (by decide)
      · exact not_mem_of_isDigit isDigit_toString rfl digit
      · exact ih (index + 1) later
    · rw [numberMarks_cons mark, List.mem_cons]
      rintro (here | later)
      · exact mark here.symm
      · exact ih index later

/-- **The numbers are found again**, counted up from the given index. -/
theorem dollarMarks_numberMarks {text : List Char} (numberable : isNumberable text = true)
    (index : Nat) :
    dollarMarks (numberMarks .postgres index text) =
      (List.range' index (text.count '?')).map fun number => '$' :: (toString number).toList := by
  induction text generalizing index with
  | nil => rfl
  | cons c rest ih =>
    obtain ⟨noDollar, behind, onward⟩ := isNumberable_cons_iff.mp numberable
    by_cases mark : c = '?'
    · have stop : beginsDigit (numberMarks .postgres (index + 1) rest) = false := by
        rw [beginsDigit_numberMarks]
        exact behind mark
      rw [mark, numberMarks_postgres_mark, dollarMarks, if_pos rfl,
        takeWhile_digits isDigit_toString stop, dollarMarks_append_of_isDigit isDigit_toString,
        ih onward, List.count_cons_self, List.range'_succ, List.map_cons]
    · rw [numberMarks_cons mark, dollarMarks, if_neg noDollar, ih onward,
        List.count_cons_of_ne mark]

/-- **Without the numbers the text is what it was.** -/
theorem eraseNumbers_numberMarks {text : List Char} (numberable : isNumberable text = true)
    (index : Nat) : eraseNumbers false (numberMarks .postgres index text) = text := by
  induction text generalizing index with
  | nil => rfl
  | cons c rest ih =>
    obtain ⟨noDollar, behind, onward⟩ := isNumberable_cons_iff.mp numberable
    by_cases mark : c = '?'
    · have stop : beginsDigit (numberMarks .postgres (index + 1) rest) = false := by
        rw [beginsDigit_numberMarks]
        exact behind mark
      rw [mark, numberMarks_postgres_mark, eraseNumbers, if_pos rfl,
        eraseNumbers_digits isDigit_toString stop, ih onward]
    · rw [numberMarks_cons mark, eraseNumbers, if_neg noDollar, Bool.false_and,
        if_neg Bool.false_ne_true, ih onward]

end Scope

/-! ### The text of a reading -/

namespace Clause

/-- An identifier is spelled without marks and dollar signs. -/
theorem isUnmarked_of_isIdentifier {column : String} (plain : isIdentifier column = true) :
    isUnmarked column.toList = true := by
  refine List.all_eq_true.mpr fun c member => ?_
  have continues := continues_of_isIdentifier plain c member
  rw [Bool.and_eq_true, bne_iff_ne, bne_iff_ne]
  constructor
  · rintro rfl
    exact absurd continues (by decide)
  · rintro rfl
    exact absurd continues (by decide)

theorem isUnmarked_of_comparison {comparison : String}
    (known : comparison ∈ Operator.table.map Operator.comparison) :
    isUnmarked comparison.toList = true := by
  revert comparison
  decide

/-- Behind the mark of a clause comes its ending or what follows the clause. -/
theorem isNumberable_mark (escaped : Bool) {rest : List Char}
    (numberable : isNumberable rest = true) (stop : beginsDigit rest = false) :
    isNumberable (" ?".toList ++ (ending escaped ++ rest)) = true := by
  cases escaped with
  | false => simp [ending, isNumberable, numberable, stop]
  | true =>
    have behind : beginsDigit (ending true ++ rest) = false := rfl
    have onward : isNumberable (ending true ++ rest) = true := by
      rw [isNumberable_append_of_isUnmarked rfl, numberable]
    simp [isNumberable, behind, onward]

theorem count_mark (escaped : Bool) : (" ?".toList ++ ending escaped).count '?' = 1 := by
  cases escaped <;> rfl

theorem isNumberable_append {clause : Clause} (valid : clause.Valid) {rest : List Char}
    (numberable : isNumberable rest = true) (stop : beginsDigit rest = false) :
    isNumberable (clause.text ++ rest) = true := by
  cases clause with
  | compares column comparison escaped =>
    rw [text_compares]
    simp only [List.append_assoc]
    rw [isNumberable_append_of_isUnmarked rfl,
      isNumberable_append_of_isUnmarked (isUnmarked_of_isIdentifier valid.1),
      isNumberable_append_of_isUnmarked rfl,
      isNumberable_append_of_isUnmarked (isUnmarked_of_comparison valid.2),
      isNumberable_mark escaped numberable stop]
  | contains column escaped =>
    have split : " LIKE ?".toList = " LIKE".toList ++ " ?".toList := rfl
    rw [text_contains, split]
    simp only [List.append_assoc]
    rw [isNumberable_append_of_isUnmarked (isUnmarked_of_isIdentifier valid),
      isNumberable_append_of_isUnmarked rfl, isNumberable_mark escaped numberable stop]
  | never => rw [text_never, isNumberable_append_of_isUnmarked rfl, numberable]

theorem count_text {clause : Clause} (valid : clause.Valid) :
    clause.text.count '?' = clause.marks := by
  cases clause with
  | compares column comparison escaped =>
    rw [text_compares, List.count_append, List.count_append, List.count_append, List.count_append,
      count_of_isUnmarked rfl, count_of_isUnmarked (isUnmarked_of_isIdentifier valid.1),
      count_of_isUnmarked rfl, count_of_isUnmarked (isUnmarked_of_comparison valid.2), count_mark]
    rfl
  | contains column escaped =>
    have split : " LIKE ?".toList = " LIKE".toList ++ " ?".toList := rfl
    rw [text_contains, split, List.append_assoc, List.count_append, List.count_append,
      count_of_isUnmarked (isUnmarked_of_isIdentifier valid), count_of_isUnmarked rfl, count_mark]
    rfl
  | never => rfl

end Clause

mutual

/-- The text of a disjunction can be numbered, whatever follows it but a digit. -/
theorem Disjunction.isNumberable_append {rest : List Char} (numberable : isNumberable rest = true)
    (stop : beginsDigit rest = false) :
    ∀ disjunction : Disjunction, isNumberable (disjunction.text ++ rest) = true
  | .last term => Conjunction.isNumberable_append numberable stop term
  | .or term others => by
    have onward := Disjunction.isNumberable_append numberable stop others
    rw [Disjunction.text, List.append_assoc, List.append_assoc]
    exact Conjunction.isNumberable_append
      ((isNumberable_append_of_isUnmarked rfl _).trans onward) rfl term

/-- The text of a conjunction can be numbered. -/
theorem Conjunction.isNumberable_append {rest : List Char} (numberable : isNumberable rest = true)
    (stop : beginsDigit rest = false) :
    ∀ conjunction : Conjunction, isNumberable (conjunction.text ++ rest) = true
  | .last factor => Factor.isNumberable_append numberable stop factor
  | .and factor others => by
    have onward := Conjunction.isNumberable_append numberable stop others
    rw [Conjunction.text, List.append_assoc, List.append_assoc]
    exact Factor.isNumberable_append
      ((isNumberable_append_of_isUnmarked rfl _).trans onward) rfl factor

/-- The text of a factor can be numbered. -/
theorem Factor.isNumberable_append {rest : List Char} (numberable : isNumberable rest = true)
    (stop : beginsDigit rest = false) :
    ∀ factor : Factor, isNumberable (factor.text ++ rest) = true
  | .clause _ valid => Clause.isNumberable_append valid numberable stop
  | .group inner => by
    have closed : isNumberable (')' :: rest) = true := by simp [isNumberable, numberable]
    have onward := Disjunction.isNumberable_append closed rfl inner
    simpa [Factor.text, isNumberable] using onward

end

mutual

/-- The text of a disjunction has its marks. -/
theorem Disjunction.count_text :
    ∀ disjunction : Disjunction, disjunction.text.count '?' = disjunction.marks
  | .last term => Conjunction.count_text term
  | .or term others => by
    have separator : " OR ".toList.count '?' = 0 := rfl
    rw [Disjunction.text, List.count_append, List.count_append, separator,
      Conjunction.count_text term, Disjunction.count_text others, Disjunction.marks, Nat.zero_add]

/-- The text of a conjunction has its marks. -/
theorem Conjunction.count_text :
    ∀ conjunction : Conjunction, conjunction.text.count '?' = conjunction.marks
  | .last factor => Factor.count_text factor
  | .and factor others => by
    have separator : " AND ".toList.count '?' = 0 := rfl
    rw [Conjunction.text, List.count_append, List.count_append, separator,
      Factor.count_text factor, Conjunction.count_text others, Conjunction.marks, Nat.zero_add]

/-- The text of a factor has its marks. -/
theorem Factor.count_text : ∀ factor : Factor, factor.text.count '?' = factor.marks
  | .clause _ valid => Clause.count_text valid
  | .group inner => by
    rw [Factor.text, List.count_cons_of_ne (by decide), List.count_append,
      Disjunction.count_text inner, List.count_singleton, if_neg (by decide), Nat.add_zero,
      Factor.marks]

end

end AttributeFilter
