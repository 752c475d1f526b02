/-
**Blank characters, trimming and words.**

* `isBlank c` — the character is a separator: the Unicode property White_Space.
* `trim` — a text without the blanks at its two ends.
* `words` — the maximal runs of characters that are not blank, in order.
* **`flatten_words`** — the words are together exactly the characters that are not blank.
-/

import AttributeFilter.Text.Basic

namespace AttributeFilter

/-! ### Blank characters -/

/-- The code points of the characters that separate words. -/
def blankTable : CharTable := [
  (0x9, 0xD), (0x20, 0x20), (0x85, 0x85), (0xA0, 0xA0), (0x1680, 0x1680),
  (0x2000, 0x200A), (0x2028, 0x2029), (0x202F, 0x202F), (0x205F, 0x205F), (0x3000, 0x3000)]

/-- Whether a character separates words. -/
def isBlank (c : Char) : Bool := blankTable.contains c

/-! ### Trimming -/

/-- The characters without the blanks at the two ends. -/
def trimBlanks (text : List Char) : List Char :=
  ((text.dropWhile isBlank).reverse.dropWhile isBlank).reverse

/-- A text without the blanks at its two ends. -/
def trim (text : String) : String := String.ofList (trimBlanks text.toList)

/-! ### Words -/

/-- Whether a word ends in front of this text. -/
def endsWord : List Char → Bool
  | [] => true
  | c :: _ => isBlank c

/-- Put a character in front of the first word. -/
def growWord (c : Char) : List (List Char) → List (List Char)
  | [] => [[c]]
  | word :: others => (c :: word) :: others

/-- The maximal runs of characters that are not blank, in order. -/
def words : List Char → List (List Char)
  | [] => []
  | c :: rest =>
    if isBlank c then words rest
    else if endsWord rest then [c] :: words rest
    else growWord c (words rest)

theorem flatten_growWord (c : Char) (found : List (List Char)) :
    (growWord c found).flatten = c :: found.flatten := by
  cases found <;> rfl

/-- **The words are together exactly the characters that are not blank.** -/
theorem flatten_words (text : List Char) :
    (words text).flatten = text.filter fun c => !isBlank c := by
  induction text with
  | nil => rfl
  | cons c rest ih =>
    unfold words
    by_cases blank : isBlank c
    · simp [blank, ih]
    · by_cases last : endsWord rest
      · simp [blank, last, ih]
      · simp [blank, last, flatten_growWord, ih]

/-- No word is empty. -/
theorem ne_nil_of_mem_words {text word : List Char} (member : word ∈ words text) : word ≠ [] := by
  induction text generalizing word with
  | nil => cases member
  | cons c rest ih =>
    unfold words at member
    split at member
    · exact ih member
    · split at member
      · rcases List.mem_cons.mp member with rfl | older
        · exact List.cons_ne_nil _ _
        · exact ih older
      · cases found : words rest with
        | nil =>
          rw [found] at member
          rcases List.mem_singleton.mp member with rfl
          exact List.cons_ne_nil _ _
        | cons first others =>
          rw [found] at member
          rcases List.mem_cons.mp member with rfl | older
          · exact List.cons_ne_nil _ _
          · exact ih (found ▸ List.mem_cons_of_mem _ older)

/-- There are no words where there is nothing but blanks. -/
theorem words_eq_nil_iff {text : List Char} : words text = [] ↔ ∀ c ∈ text, isBlank c = true := by
  constructor
  · intro none
    have shown : text.filter (fun c => !isBlank c) = [] := by rw [← flatten_words, none]; rfl
    simpa using shown
  · intro blank
    induction text with
    | nil => rfl
    | cons c rest ih =>
      obtain ⟨here, onward⟩ := List.forall_mem_cons.mp blank
      rw [words, if_pos here, ih onward]

end AttributeFilter
