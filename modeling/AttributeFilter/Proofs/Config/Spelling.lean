/-
**What a text of the configuration spells.**

Counts, policies and truth values are given by a single word, with any blanks around it. A count is
written in digits, with or without a plus sign, and has to fit; the others go by fixed names, in
whatever case.

* `SpellsCount` — the digits of a count.
* `countOfText_eq_ok_iff` — a text is a count where its only word spells one.
* `Spells` — the only word of a text is one of the given names.
* `EmptyPolicy.ofWord?_plainWord_eq_some_iff`, `booleanOfText?_eq_some_iff` — which names there are.
-/

import AttributeFilter.Config.Word
import AttributeFilter.Proofs.Text.AsciiCase
import AttributeFilter.Proofs.Text.Words

namespace AttributeFilter

/-! ### Counts -/

/-- The word spells the count: decimal digits, with at most one plus sign in front of them, whose
value fits into 64 bits. -/
def SpellsCount (word : List Char) (count : Nat) : Prop :=
  ∃ digits, (word = digits ∨ word = '+' :: digits) ∧ digits ≠ [] ∧
    (∀ c ∈ digits, c.isDigit = true) ∧ count = Nat.ofDigitChars 10 digits 0 ∧ count < UInt64.size

/-- Further digits make a number no smaller. -/
theorem le_ofDigitChars (digits : List Char) (value : Nat) :
    value ≤ Nat.ofDigitChars 10 digits value := by
  induction digits generalizing value with
  | nil => exact Nat.le_refl value
  | cons c rest ih =>
    have grows : value ≤ 10 * value + (c.toNat - '0'.toNat) := by omega
    exact Nat.le_trans grows (ih _)

/-- **Digits are read to their value**, if it fits: where a part of it is too large, so is the
whole. -/
theorem countOfDigits_eq_ok_iff {digits : List Char} {value count : Nat} (fits : value ≤ maxCount) :
    countOfDigits value digits = .ok count ↔
      (∀ c ∈ digits, c.isDigit = true) ∧ count = Nat.ofDigitChars 10 digits value ∧
        count ≤ maxCount := by
  induction digits generalizing value with
  | nil =>
    rw [countOfDigits, Except.ok.injEq, Nat.ofDigitChars_nil]
    constructor
    · rintro rfl
      exact ⟨List.forall_mem_nil _, rfl, fits⟩
    · rintro ⟨-, rfl, -⟩
      rfl
  | cons c rest ih =>
    rw [countOfDigits, List.forall_mem_cons, Nat.ofDigitChars_cons, Nat.mul_comm 10 value]
    by_cases digit : c.isDigit = true
    · rw [if_pos digit, and_iff_right digit]
      dsimp only
      split
      · next fitsOn => exact ih fitsOn
      · next tooLarge =>
        refine iff_of_false (fun read => nomatch read) ?_
        rintro ⟨-, rfl, small⟩
        exact tooLarge (Nat.le_trans (le_ofDigitChars rest _) small)
    · rw [if_neg digit]
      exact iff_of_false (fun read => nomatch read) fun spelled => digit spelled.1.1

/-- **A count is read from the word that spells it.** -/
theorem countOfChars_eq_ok_iff {word : List Char} {count : Nat} :
    countOfChars word = .ok count ↔ SpellsCount word count := by
  have small : count ≤ maxCount ↔ count < UInt64.size := by
    rw [maxCount, UInt64.size]
    omega
  unfold countOfChars
  split
  · refine iff_of_false (fun read => nomatch read) ?_
    rintro ⟨digits, rfl | signed, some, -⟩
    · exact some rfl
    · exact nomatch signed
  · refine iff_of_false (fun read => nomatch read) ?_
    rintro ⟨digits, rfl | signed, some, all, -⟩
    · exact absurd (all '+' List.mem_cons_self) (by decide)
    · exact some (List.cons.inj signed).2.symm
  · next digits some =>
    rw [countOfDigits_eq_ok_iff (Nat.zero_le _), small]
    constructor
    · rintro ⟨all, value, fits⟩
      exact ⟨digits, .inr rfl, some, all, value, fits⟩
    · rintro ⟨other, rfl | signed, -, all, value, fits⟩
      · exact absurd (all '+' List.mem_cons_self) (by decide)
      · obtain rfl := (List.cons.inj signed).2
        exact ⟨all, value, fits⟩
  · next some noSign unsigned =>
    rw [countOfDigits_eq_ok_iff (Nat.zero_le _), small]
    constructor
    · rintro ⟨all, value, fits⟩
      exact ⟨word, .inl rfl, some, all, value, fits⟩
    · rintro ⟨digits, rfl | rfl, -, all, value, fits⟩
      · exact ⟨all, value, fits⟩
      · exact absurd rfl (unsigned digits)

/-- A printed character of ASCII is no blank. -/
theorem isBlank_eq_false_of_le {c : Char} (low : 0x21 ≤ c.toNat) (high : c.toNat ≤ 0x7E) :
    isBlank c = false := by
  rw [isBlank, Bool.eq_false_iff]
  intro blank
  obtain ⟨range, listed, after, before⟩ := (CharTable.contains_iff _ c).mp blank
  have apart : ∀ range ∈ blankTable, range.2 < 0x21 ∨ 0x7E < range.1 := by decide
  rcases apart range listed with below | above <;> omega

theorem SpellsCount.isWord {word : List Char} {count : Nat} (spells : SpellsCount word count) :
    IsWord word := by
  obtain ⟨digits, shape, some, all, -⟩ := spells
  have visible (c : Char) (inside : c ∈ digits) : isBlank c = false := by
    obtain ⟨low, high⟩ := Char.isDigit_iff_toNat.mp (all c inside)
    exact isBlank_eq_false_of_le (Nat.le_trans (by decide) low) (Nat.le_trans high (by decide))
  rcases shape with rfl | rfl
  · exact ⟨some, visible⟩
  · exact ⟨List.cons_ne_nil _ _, List.forall_mem_cons.mpr ⟨by decide, visible⟩⟩

/-- **A text is a count** where its only word spells one. -/
theorem countOfText_eq_ok_iff {text : String} {count : Nat} :
    countOfText text = .ok count ↔
      ∃ word, words text.toList = [word] ∧ SpellsCount word count := by
  rw [countOfText, countOfChars_eq_ok_iff]
  constructor
  · intro spells
    exact ⟨_, (trimBlanks_eq_iff spells.isWord).mp rfl, spells⟩
  · rintro ⟨word, only, spells⟩
    rwa [(trimBlanks_eq_iff spells.isWord).mpr only]

/-! ### Names -/

/-- The only word of the text is one of the names, in whatever case. -/
def Spells (text : String) (names : List String) : Prop :=
  ∃ word, words text.toList = [word] ∧ foldCase (String.ofList word) ∈ names

/-- Lower-casing keeps blanks apart from what is printed. -/
theorem isBlank_toLower (c : Char) : isBlank c.toLower = isBlank c := by
  rcases toLower_cases c with ⟨low, high, lowered⟩ | same
  · have capital : isBlank c = false := isBlank_eq_false_of_le (by omega) (by omega)
    have small : isBlank c.toLower = false := isBlank_eq_false_of_le (by omega) (by omega)
    rw [capital, small]
  · rw [same]

theorem isWord_map_toLower {word : List Char} : IsWord (word.map Char.toLower) ↔ IsWord word := by
  simp [IsWord, isBlank_toLower]

/-- **A text without its blanks and in lower case** is one of the names where the text spells
one. -/
theorem plainWord_mem_iff {names : List String} (each : ∀ name ∈ names, IsWord name.toList)
    (text : String) : plainWord text ∈ names ↔ Spells text names := by
  have folded : (foldCase (trim text)).toList = (trimBlanks text.toList).map Char.toLower := by
    rw [toList_foldCase, trim, String.toList_ofList]
  constructor
  · intro listed
    have isWord : IsWord (trimBlanks text.toList) := by
      rw [← isWord_map_toLower, ← folded]
      exact each _ listed
    exact ⟨_, (trimBlanks_eq_iff isWord).mp rfl, listed⟩
  · rintro ⟨word, only, listed⟩
    have isWord : IsWord word := isWord_of_mem_words (only ▸ List.mem_singleton_self word)
    rwa [plainWord, trim, (trimBlanks_eq_iff isWord).mpr only]

/-- The names of a policy in plain text. -/
def EmptyPolicy.names : EmptyPolicy → List String
  | .reject => ["reject"]
  | .matchNone => ["match_none", "match-none"]

/-- The names of a truth value in plain text. -/
def booleanNames : Bool → List String
  | true => ["1", "true", "yes", "on"]
  | false => ["0", "false", "no", "off"]

/-- **A policy is read from a text** that spells one of its names. -/
theorem EmptyPolicy.ofWord?_plainWord_eq_some_iff {text : String} {policy : EmptyPolicy} :
    EmptyPolicy.ofWord? (plainWord text) = some policy ↔ Spells text policy.names := by
  have each : ∀ name ∈ policy.names, IsWord name.toList := by cases policy <;> decide
  rw [← plainWord_mem_iff each]
  cases policy <;> grind [EmptyPolicy.ofWord?, EmptyPolicy.names]

/-- **A truth value is read from a text** that spells one of its names. -/
theorem booleanOfText?_eq_some_iff {text : String} {value : Bool} :
    booleanOfText? text = some value ↔ Spells text (booleanNames value) := by
  have each : ∀ name ∈ booleanNames value, IsWord name.toList := by cases value <;> decide
  rw [← plainWord_mem_iff each]
  cases value <;> grind [booleanOfText?, booleanNames]

end AttributeFilter
