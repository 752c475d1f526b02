/-
**Matching patterns of LIKE.**

Under the backslash as escape character, a pattern is read from the left: a percent sign stands for
any text, an underscore for any one character, a backslash makes the character behind it stand for
itself, and any other character stands for itself. A pattern that ends in the middle of an escape
matches nothing.

* `likeParts?` — what the characters of a pattern stand for.
* `matchesLike` — whether a text matches a pattern.
* **`likeParts?_escapeLike_append`** — an escaped text stands for itself, whatever follows it.
* **`Place.matchesLike_pattern_iff`** — an escaped text between percent signs asks for the text at a
  place.
-/

import AttributeFilter.Sql.Text
import Mathlib.Data.List.Infix

namespace AttributeFilter

/-! ### Reading a pattern -/

/-- What a part of a pattern stands for. -/
inductive LikePart
  | anyText
  | anyChar
  | exactly (c : Char)
deriving Repr, DecidableEq

/-- What a character that is not escaped stands for. -/
def LikePart.ofChar (c : Char) : LikePart :=
  if c = '%' then .anyText else if c = '_' then .anyChar else .exactly c

/-- The parts of a pattern, unless its last backslash has no character to escape. -/
def likeParts? : List Char → Option (List LikePart)
  | [] => some []
  | [c] => if c = '\\' then none else some [.ofChar c]
  | c :: d :: rest =>
    if c = '\\' then (likeParts? rest).map (.exactly d :: ·)
    else (likeParts? (d :: rest)).map (.ofChar c :: ·)

theorem likeParts?_escaped (c : Char) (rest : List Char) :
    likeParts? ('\\' :: c :: rest) = (likeParts? rest).map (.exactly c :: ·) := by
  rw [likeParts?, if_pos rfl]

theorem likeParts?_cons {c : Char} (plain : c ≠ '\\') (rest : List Char) :
    likeParts? (c :: rest) = (likeParts? rest).map (.ofChar c :: ·) := by
  cases rest with
  | nil => simp [likeParts?, plain]
  | cons d rest => rw [likeParts?, if_neg plain]

/-! ### Matching -/

/-- Whether a text is made up as the parts say. -/
def matchesParts : List LikePart → List Char → Bool
  | [], text => text.isEmpty
  | .anyText :: parts, text => text.tails.any (matchesParts parts)
  | .anyChar :: _, [] => false
  | .anyChar :: parts, _ :: rest => matchesParts parts rest
  | .exactly _ :: _, [] => false
  | .exactly c :: parts, d :: rest => c == d && matchesParts parts rest

/-- Whether a text matches a pattern. -/
def matchesLike (pattern text : List Char) : Bool :=
  match likeParts? pattern with
  | none => false
  | some parts => matchesParts parts text

/-- After a percent sign the rest of the pattern may match any end of the text. -/
theorem matchesParts_anyText {parts : List LikePart} {text : List Char} :
    matchesParts (.anyText :: parts) text = true ↔
      ∃ skipped rest, skipped ++ rest = text ∧ matchesParts parts rest = true := by
  rw [matchesParts, List.any_eq_true]
  constructor
  · rintro ⟨rest, tail, onward⟩
    obtain ⟨skipped, whole⟩ := (List.mem_tails rest text).mp tail
    exact ⟨skipped, rest, whole, onward⟩
  · rintro ⟨skipped, rest, whole, onward⟩
    exact ⟨rest, (List.mem_tails rest text).mpr ⟨skipped, whole⟩, onward⟩

theorem matchesParts_lastAnyText (text : List Char) : matchesParts [.anyText] text = true :=
  matchesParts_anyText.mpr ⟨text, [], List.append_nil text, rfl⟩

/-- Characters that stand for themselves are what the text begins with. -/
theorem matchesParts_exactly_append {value : List Char} {parts : List LikePart}
    {text : List Char} :
    matchesParts (value.map .exactly ++ parts) text = true ↔
      ∃ rest, value ++ rest = text ∧ matchesParts parts rest = true := by
  induction value generalizing text with
  | nil => simp
  | cons c value ih =>
    cases text with
    | nil => simp [matchesParts]
    | cons d text => simp [matchesParts, ih, and_assoc]

theorem matchesParts_exactly {value text : List Char} :
    matchesParts (value.map .exactly) text = true ↔ value = text := by
  have split := @matchesParts_exactly_append value [] text
  simpa [matchesParts] using split

/-! ### Escaped texts -/

/-- The characters that are escaped in a pattern. -/
def isReserved (c : Char) : Bool := c == '\\' || c == '%' || c == '_'

theorem isReserved_iff {c : Char} : isReserved c = true ↔ c = '\\' ∨ c = '%' ∨ c = '_' := by
  simp only [isReserved, Bool.or_eq_true, beq_iff_eq, or_assoc]

theorem ne_backslash_of_unreserved {c : Char} (unreserved : isReserved c = false) : c ≠ '\\' := by
  rintro rfl
  exact absurd unreserved (by decide)

theorem escapeLike_cons (c : Char) (rest : List Char) :
    escapeLike (c :: rest) =
      if isReserved c then '\\' :: c :: escapeLike rest else c :: escapeLike rest := by
  by_cases backslash : c = '\\'
  · simp [escapeLike, guardChar, isReserved, backslash]
  by_cases percent : c = '%'
  · simp [escapeLike, guardChar, isReserved, percent]
  by_cases underscore : c = '_'
  · simp [escapeLike, guardChar, isReserved, underscore]
  · simp [escapeLike, guardChar, isReserved, backslash, percent, underscore]

/-- Only reserved characters are changed by escaping. -/
theorem escapeLike_of_unreserved {text : List Char}
    (unreserved : ∀ c ∈ text, isReserved c = false) : escapeLike text = text := by
  induction text with
  | nil => rfl
  | cons c rest ih =>
    have here := unreserved c List.mem_cons_self
    rw [escapeLike_cons, here, ih fun d member => unreserved d (List.mem_cons_of_mem c member)]
    rfl

theorem LikePart.ofChar_of_unreserved {c : Char} (unreserved : isReserved c = false) :
    ofChar c = .exactly c := by
  simp only [isReserved, Bool.or_eq_false_iff, beq_eq_false_iff_ne] at unreserved
  rw [ofChar, if_neg unreserved.1.2, if_neg unreserved.2]

/-- **An escaped text stands for itself**, whatever follows it in the pattern. -/
theorem likeParts?_escapeLike_append (value rest : List Char) :
    likeParts? (escapeLike value ++ rest) =
      (likeParts? rest).map (value.map .exactly ++ ·) := by
  induction value with
  | nil => simp [escapeLike, guardChar]
  | cons c value ih =>
    rw [escapeLike_cons]
    cases reserved : isReserved c with
    | true =>
      rw [if_pos rfl, List.cons_append, List.cons_append, likeParts?_escaped, ih, Option.map_map]
      rfl
    | false =>
      rw [if_neg Bool.false_ne_true, List.cons_append,
        likeParts?_cons (ne_backslash_of_unreserved reserved),
        LikePart.ofChar_of_unreserved reserved, ih, Option.map_map]
      rfl

/-! ### A text at a place -/

/-- Where a value is looked for in a text. -/
inductive Place
  | anywhere
  | atStart
  | atEnd
deriving Repr, DecidableEq

namespace Place

/-- The value stands at the place in the text. -/
def Holds (value text : List Char) : Place → Prop
  | .anywhere => value <:+: text
  | .atStart => value <+: text
  | .atEnd => value <:+ text

/-- The pattern that asks for what another pattern stands for at the place. -/
def pattern (value : List Char) : Place → List Char
  | .anywhere => '%' :: (value ++ ['%'])
  | .atStart => value ++ ['%']
  | .atEnd => '%' :: value

/-- The parts of the pattern that asks for the value. -/
def parts (value : List Char) : Place → List LikePart
  | .anywhere => .anyText :: (value.map .exactly ++ [.anyText])
  | .atStart => value.map .exactly ++ [.anyText]
  | .atEnd => .anyText :: value.map .exactly

theorem likeParts?_pattern (place : Place) (value : List Char) :
    likeParts? (place.pattern (escapeLike value)) = some (place.parts value) := by
  have behind (rest : List Char) :
      likeParts? ('%' :: rest) = (likeParts? rest).map (.anyText :: ·) :=
    likeParts?_cons (by decide) rest
  have nothing : likeParts? [] = some [] := rfl
  have alone := likeParts?_escapeLike_append value []
  rw [List.append_nil, nothing] at alone
  cases place with
  | anywhere => simp [pattern, parts, behind, likeParts?_escapeLike_append, nothing]
  | atStart => simp [pattern, parts, behind, likeParts?_escapeLike_append, nothing]
  | atEnd => simp [pattern, parts, behind, alone]

theorem matchesParts_parts {place : Place} {value text : List Char} :
    matchesParts (place.parts value) text = true ↔ place.Holds value text := by
  cases place with
  | anywhere =>
    simp only [parts, matchesParts_anyText, matchesParts_exactly_append]
    constructor
    · rintro ⟨skipped, _, rfl, rest, rfl, -⟩
      exact ⟨skipped, rest, List.append_assoc _ _ _⟩
    · rintro ⟨skipped, rest, rfl⟩
      exact ⟨skipped, value ++ rest, (List.append_assoc _ _ _).symm, rest, rfl, rest, [],
        List.append_nil rest, rfl⟩
  | atStart =>
    simp only [parts, matchesParts_exactly_append]
    constructor
    · rintro ⟨rest, rfl, -⟩
      exact ⟨rest, rfl⟩
    · rintro ⟨rest, rfl⟩
      exact ⟨rest, rfl, matchesParts_lastAnyText rest⟩
  | atEnd =>
    simp only [parts, matchesParts_anyText, matchesParts_exactly]
    constructor
    · rintro ⟨skipped, _, rfl, rfl⟩
      exact ⟨skipped, rfl⟩
    · rintro ⟨skipped, rfl⟩
      exact ⟨skipped, value, rfl, rfl⟩

/-- **An escaped text between percent signs asks for the text at a place**, and for nothing else. -/
theorem matchesLike_pattern_iff {place : Place} {value text : List Char} :
    matchesLike (place.pattern (escapeLike value)) text = true ↔ place.Holds value text := by
  rw [matchesLike, likeParts?_pattern]
  exact matchesParts_parts

end Place

end AttributeFilter
