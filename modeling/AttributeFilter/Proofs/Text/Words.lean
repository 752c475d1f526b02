/-
**The words of a text.**

A text is its words in order, with blanks around them. Where the words are given, the blanks between
them may be any and any number; where the text is given, no other words can be found in it.

* `IsWord`, `SpacedOut` — a word, and words that are set out in a text with blanks around them.
* `words_append_of_blank`, `words_append_of_isWord` — what is read first, up to the end of a word.
* **`words_eq_iff`** — the words of a text are those that are set out in it.
* `trimBlanks_eq_iff` — trimming leaves a single word exactly where the text has no other.
-/

import AttributeFilter.Text.Blank

namespace AttributeFilter

/-! ### Words and blanks -/

/-- A word is not empty and has no blanks. -/
def IsWord (word : List Char) : Prop := word ≠ [] ∧ ∀ c ∈ word, isBlank c = false

instance (word : List Char) : Decidable (IsWord word) :=
  have : Decidable (∀ c ∈ word, isBlank c = false) := List.decidableBAll _ word
  inferInstanceAs (Decidable (_ ∧ _))

/-- There is nothing but blanks. -/
def AllBlank (gap : List Char) : Prop := ∀ c ∈ gap, isBlank c = true

/-- The words are set out in the text in this order: each after any blanks, and with a blank or the
end of the text behind it. -/
inductive SpacedOut : List (List Char) → List Char → Prop
  | blank {gap : List Char} : AllBlank gap → SpacedOut [] gap
  | word {before word rest : List Char} {others : List (List Char)} :
      AllBlank before → endsWord rest = true → SpacedOut others rest →
        SpacedOut (word :: others) (before ++ word ++ rest)

/-- Blanks in front of a text change nothing. -/
theorem SpacedOut.behind {found : List (List Char)} {text : List Char}
    (spaced : SpacedOut found text) {gap : List Char} (blank : AllBlank gap) :
    SpacedOut found (gap ++ text) := by
  cases spaced with
  | blank all => exact .blank (List.forall_mem_append.mpr ⟨blank, all⟩)
  | word before ends onward =>
    rw [← List.append_assoc, ← List.append_assoc]
    exact .word (List.forall_mem_append.mpr ⟨blank, before⟩) ends onward

/-- A visible character in front of a word belongs to it. -/
theorem SpacedOut.grow {found : List (List Char)} {text : List Char} (spaced : SpacedOut found text)
    (goesOn : endsWord text = false) (c : Char) : SpacedOut (growWord c found) (c :: text) := by
  cases spaced with
  | blank all =>
    cases text with
    | nil => cases goesOn
    | cons d rest => exact absurd (all d List.mem_cons_self) (Bool.eq_false_iff.mp goesOn)
  | @word before word rest others blank ends onward =>
    cases before with
    | nil => exact @SpacedOut.word [] (c :: word) _ _ blank ends onward
    | cons d before => exact absurd (blank d List.mem_cons_self) (Bool.eq_false_iff.mp goesOn)

/-! ### Reading the words of a text -/

/-- Blanks in front of a text are passed over. -/
theorem words_append_of_blank {gap : List Char} (blank : AllBlank gap) (text : List Char) :
    words (gap ++ text) = words text := by
  induction gap with
  | nil => rfl
  | cons c gap ih =>
    obtain ⟨here, onward⟩ := List.forall_mem_cons.mp blank
    rw [List.cons_append, words, if_pos here, ih onward]

/-- **A word is read to its end.** -/
theorem words_append_of_isWord {word : List Char} (isWord : IsWord word) {rest : List Char}
    (ends : endsWord rest = true) : words (word ++ rest) = word :: words rest := by
  obtain ⟨nonempty, visible⟩ := isWord
  induction word with
  | nil => exact absurd rfl nonempty
  | cons c word ih =>
    obtain ⟨here, onward⟩ := List.forall_mem_cons.mp visible
    rw [List.cons_append, words, if_neg (Bool.eq_false_iff.mp here)]
    cases word with
    | nil => rw [List.nil_append, if_pos ends]
    | cons d word =>
      have goesOn : endsWord (d :: word ++ rest) = false := onward d List.mem_cons_self
      rw [if_neg (Bool.eq_false_iff.mp goesOn), ih (List.cons_ne_nil _ _) onward]
      rfl

/-- What is set out in a text are its words. -/
theorem words_of_spacedOut {found : List (List Char)} {text : List Char}
    (each : ∀ word ∈ found, IsWord word) (spaced : SpacedOut found text) : words text = found := by
  induction spaced with
  | blank all => exact words_eq_nil_iff.mpr all
  | word before ends _ ih =>
    obtain ⟨here, onward⟩ := List.forall_mem_cons.mp each
    rw [List.append_assoc, words_append_of_blank before, words_append_of_isWord here ends,
      ih onward]

/-! ### Every text is its words -/

theorem isWord_of_mem_words {text word : List Char} (member : word ∈ words text) : IsWord word := by
  refine ⟨ne_nil_of_mem_words member, fun c inside => ?_⟩
  have shown : c ∈ text.filter fun c => !isBlank c :=
    flatten_words text ▸ List.mem_flatten_of_mem member inside
  simpa using (List.mem_filter.mp shown).2

/-- **The words of a text are set out in it.** -/
theorem spacedOut_words (text : List Char) : SpacedOut (words text) text := by
  induction text with
  | nil => exact .blank fun c inside => nomatch inside
  | cons c rest ih =>
    have nothing : AllBlank [] := fun c inside => nomatch inside
    rw [words]
    cases blank : isBlank c with
    | true =>
      have gap : AllBlank [c] := List.forall_mem_singleton.mpr blank
      exact ih.behind gap
    | false =>
      cases ends : endsWord rest with
      | true => exact @SpacedOut.word [] [c] rest _ nothing ends ih
      | false => exact ih.grow ends c

/-- **The words of a text** are those that are set out in it. -/
theorem words_eq_iff {text : List Char} {found : List (List Char)} :
    words text = found ↔ (∀ word ∈ found, IsWord word) ∧ SpacedOut found text := by
  constructor
  · rintro rfl
    exact ⟨fun word => isWord_of_mem_words, spacedOut_words text⟩
  · rintro ⟨each, spaced⟩
    exact words_of_spacedOut each spaced

/-! ### Trimming -/

/-- Trimming takes away blanks only. -/
theorem exists_trimBlanks (text : List Char) :
    ∃ before after, AllBlank before ∧ AllBlank after ∧
      text = before ++ trimBlanks text ++ after := by
  have blank (part : List Char) : AllBlank (part.takeWhile isBlank) :=
    List.all_eq_true.mp List.all_takeWhile
  let tail := text.dropWhile isBlank
  refine ⟨text.takeWhile isBlank, (tail.reverse.takeWhile isBlank).reverse, blank text,
    fun c inside => blank _ c (List.mem_reverse.mp inside), ?_⟩
  rw [trimBlanks, List.append_assoc, ← List.reverse_append, List.takeWhile_append_dropWhile,
    List.reverse_reverse, List.takeWhile_append_dropWhile]

theorem dropWhile_append_of_isWord {gap word : List Char} (blank : AllBlank gap)
    (isWord : IsWord word) (rest : List Char) :
    (gap ++ (word ++ rest)).dropWhile isBlank = word ++ rest := by
  obtain ⟨nonempty, visible⟩ := isWord
  rw [List.dropWhile_append_of_pos blank]
  cases word with
  | nil => exact absurd rfl nonempty
  | cons c word => simp [visible c List.mem_cons_self]

theorem IsWord.reverse {word : List Char} (isWord : IsWord word) : IsWord word.reverse :=
  ⟨mt List.reverse_eq_nil_iff.mp isWord.1, fun c inside => isWord.2 c (List.mem_reverse.mp inside)⟩

/-- **Trimming leaves a single word** exactly where the text has that word and no other. -/
theorem trimBlanks_eq_iff {text word : List Char} (isWord : IsWord word) :
    trimBlanks text = word ↔ words text = [word] := by
  have each : ∀ other ∈ [word], IsWord other := List.forall_mem_singleton.mpr isWord
  rw [words_eq_iff, and_iff_right each]
  constructor
  · rintro rfl
    obtain ⟨before, after, blankBefore, blankAfter, whole⟩ := exists_trimBlanks text
    have ends : endsWord after = true := by
      cases after with
      | nil => rfl
      | cons c after => exact blankAfter c List.mem_cons_self
    have spaced : SpacedOut [trimBlanks text] (before ++ trimBlanks text ++ after) :=
      .word blankBefore ends (.blank blankAfter)
    rwa [← whole] at spaced
  · intro spaced
    cases spaced with
    | word before ends onward =>
      cases onward with
      | blank after =>
        have behind := dropWhile_append_of_isWord
          (fun c inside => after c (List.mem_reverse.mp inside)) isWord.reverse []
        rw [trimBlanks, List.append_assoc, dropWhile_append_of_isWord before isWord,
          List.reverse_append, ← List.append_nil word.reverse, behind, List.append_nil,
          List.reverse_reverse]

end AttributeFilter
