/-
**Spellings of a name.**

Two names have the same spelling in lower case exactly if they are as long as each other and differ
nowhere but in the case of the letters A to Z. Letters outside of ASCII keep their case.

* `SameButCase`, `CaseVariant` — the relation, character by character.
* `toNat_toLower`, `toLower_cases` — what lower-casing does to the code of a character.
* **`foldCase_eq_foldCase_iff`** — names are folded to the same spelling where they are variants of
  each other.
-/

import AttributeFilter.Text.Basic
import Mathlib.Data.List.Forall2

namespace AttributeFilter

/-- The second character is the small letter of the first one, a letter from A to Z. -/
def SmallOf (capital small : Char) : Prop :=
  'A' ≤ capital ∧ capital ≤ 'Z' ∧ small.toNat = capital.toNat + 32

/-- The characters are the same, or one of the letters A to Z in its two cases. -/
def SameButCase (c d : Char) : Prop := c = d ∨ SmallOf c d ∨ SmallOf d c

/-- The names are the same, character by character, but for the case of the letters A to Z. -/
def CaseVariant (first second : String) : Prop :=
  List.Forall₂ SameButCase first.toList second.toList

/-- Only the capital letters are moved, and all of them by the same distance. -/
theorem toNat_toLower (c : Char) :
    c.toLower.toNat = if 65 ≤ c.toNat ∧ c.toNat ≤ 90 then c.toNat + 32 else c.toNat := by
  unfold Char.toLower
  split
  · rename_i capital
    have low : 65 ≤ c.toNat := capital.1
    have high : c.toNat ≤ 90 := capital.2
    have shifted : (c.val + ('a'.val - 'A'.val)).toNat = (c.toNat + 32) % 2 ^ 32 :=
      UInt32.toNat_add c.val 32
    rw [if_pos ⟨low, high⟩]
    exact shifted.trans (by omega)
  · rename_i other
    exact (if_neg other).symm

/-- A character is moved to its small letter, or it is left alone. -/
theorem toLower_cases (c : Char) :
    (65 ≤ c.toNat ∧ c.toNat ≤ 90 ∧ c.toLower.toNat = c.toNat + 32) ∨ c.toLower = c := by
  by_cases capital : 65 ≤ c.toNat ∧ c.toNat ≤ 90
  · exact .inl ⟨capital.1, capital.2, (toNat_toLower c).trans (if_pos capital)⟩
  · exact .inr (Char.toNat_inj.mp ((toNat_toLower c).trans (if_neg capital)))

theorem toLower_eq_toLower_iff {c d : Char} : c.toLower = d.toLower ↔ SameButCase c d := by
  have capital (e : Char) : 'A' ≤ e ∧ e ≤ 'Z' ↔ 65 ≤ e.toNat ∧ e.toNat ≤ 90 := Iff.rfl
  simp only [SameButCase, SmallOf, ← and_assoc, capital, ← Char.toNat_inj, toNat_toLower]
  split <;> split <;> omega

/-- **Names are folded to the same spelling** where they are variants of each other. -/
theorem foldCase_eq_foldCase_iff {first second : String} :
    foldCase first = foldCase second ↔ CaseVariant first second := by
  rw [← String.toList_inj, toList_foldCase, toList_foldCase, ← List.forall₂_eq_eq_eq,
    List.forall₂_map_left_iff, List.forall₂_map_right_iff, CaseVariant]
  simp only [toLower_eq_toLower_iff]

instance (first second : String) : Decidable (CaseVariant first second) :=
  decidable_of_iff _ foldCase_eq_foldCase_iff

end AttributeFilter
