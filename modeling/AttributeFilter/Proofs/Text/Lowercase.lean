/-
**Where lower-casing a text splits.**

Lower-casing is not done character by character: the capital sigma looks at its neighbours. It looks
no further than the next character that is not looked through, and of the characters before and
behind it only whether a letter comes first matters. So a text may be cut at every character that is
neither a letter nor looked through.

* `Neutral c` — the character is such a one, and is its own lower case.
* `lowerAfter_congr` — what came before matters only by whether its nearest character is a letter.
* **`toLowercase_append_neutral`** — a text is lower-cased piece by piece between neutral
  characters.
* `lowerCode_cases` — below the small letters of ASCII there is no lower case but of a character
  itself.
-/

import AttributeFilter.Text.Lowercase

namespace AttributeFilter

/-! ### Neighbours of a letter -/

/-- A character that is no letter, is not looked through, and is its own lower case. -/
structure Neutral (c : Char) : Prop where
  uncased : isCased c = false
  seen : isCaseIgnorable c = false
  lower : lowerChar c = [c]

theorem meetsLetter_cons (c : Char) (rest : List Char) :
    meetsLetter (c :: rest) = if isCaseIgnorable c then meetsLetter rest else isCased c := by
  unfold meetsLetter
  cases ignorable : isCaseIgnorable c <;> simp [ignorable]

theorem Neutral.meetsLetter_cons {c : Char} (neutral : Neutral c) (rest : List Char) :
    meetsLetter (c :: rest) = false := by
  rw [AttributeFilter.meetsLetter_cons, neutral.seen, neutral.uncased]
  rfl

/-- A neutral character ends the search for a letter, like the end of the text. -/
theorem Neutral.meetsLetter_append {c : Char} (neutral : Neutral c) (text more : List Char) :
    meetsLetter (text ++ c :: more) = meetsLetter text := by
  induction text with
  | nil => exact neutral.meetsLetter_cons more
  | cons d text ih =>
    rw [List.cons_append, AttributeFilter.meetsLetter_cons, AttributeFilter.meetsLetter_cons, ih]

/-! ### Cutting a text -/

/-- **What came before a text** matters only by whether its nearest character is a letter. -/
theorem lowerAfter_congr {before other : List Char}
    (same : meetsLetter before = meetsLetter other) (text : List Char) :
    lowerAfter before text = lowerAfter other text := by
  induction text generalizing before other with
  | nil => rfl
  | cons c rest ih =>
    have onward : meetsLetter (c :: before) = meetsLetter (c :: other) := by
      rw [meetsLetter_cons, meetsLetter_cons, same]
    rw [lowerAfter, lowerAfter, ih onward, lowerSigma, lowerSigma, same]

/-- The capital sigma is a letter, so no neutral character is one. -/
theorem Neutral.ne_sigma {c : Char} (neutral : Neutral c) : c ≠ 'Σ' := by
  rintro rfl
  exact absurd neutral.uncased (by decide)

/-- Behind a neutral character lower-casing starts afresh. -/
theorem lowerAfter_neutral {c : Char} (neutral : Neutral c) (before rest : List Char) :
    lowerAfter before (c :: rest) = c :: toLowercase rest := by
  have afresh : meetsLetter (c :: before) = meetsLetter [] := neutral.meetsLetter_cons before
  rw [lowerAfter, if_neg neutral.ne_sigma, neutral.lower, lowerAfter_congr afresh, toLowercase]
  rfl

theorem lowerAfter_append_neutral {c : Char} (neutral : Neutral c)
    (before first rest : List Char) :
    lowerAfter before (first ++ c :: rest) = lowerAfter before first ++ c :: toLowercase rest := by
  induction first generalizing before with
  | nil => exact lowerAfter_neutral neutral before rest
  | cons d first ih =>
    rw [List.cons_append, lowerAfter, lowerAfter, ih, lowerSigma, lowerSigma,
      neutral.meetsLetter_append, List.append_assoc]

/-- **A text is lower-cased piece by piece** between neutral characters. -/
theorem toLowercase_append_neutral {c : Char} (neutral : Neutral c) (first rest : List Char) :
    toLowercase (first ++ c :: rest) = toLowercase first ++ c :: toLowercase rest :=
  lowerAfter_append_neutral neutral [] first rest

/-! ### Lower-case letters -/

/-- **A capital letter has its lower case at or above the small letter a**; any other character is
its own lower case. -/
theorem lowerCode_cases (code : Nat) : lowerCode code = code ∨ 'a'.toNat ≤ lowerCode code := by
  have targets : (capitalRuns.all fun run => decide ('a'.toNat ≤ run.target)) = true := by
    decide +kernel
  unfold lowerCode
  cases found : capitalRuns.findSome? fun run => run.lower? code with
  | none => exact .inl rfl
  | some lower =>
    obtain ⟨run, listed, lowered⟩ := List.exists_of_findSome?_eq_some found
    have above : run.target ≤ lower := by
      unfold CapitalRun.lower? at lowered
      split at lowered
      · cases lowered
        exact Nat.le_add_right _ _
      · cases lowered
    have high := of_decide_eq_true (List.all_eq_true.mp targets run listed)
    exact .inr (Nat.le_trans high above)

/-- A code point that is no character stands for the character zero. -/
theorem toNat_ofNat_cases (code : Nat) :
    (Char.ofNat code).toNat = code ∨ (Char.ofNat code).toNat = 0 := by
  by_cases valid : code.isValidChar
  · have whole : Char.ofNat code = Char.ofNatAux code valid := dif_pos valid
    exact .inl (congrArg Char.toNat whole)
  · have zero : Char.ofNat code = ⟨0, by decide⟩ := dif_neg valid
    exact .inr (congrArg Char.toNat zero)

/-- **Lower-casing brings forth no visible character below the small letter a** that was not
there. -/
theorem eq_of_mem_lowerChar {c d : Char} (member : d ∈ lowerChar c) (below : d.toNat < 'a'.toNat)
    (visible : d.toNat ≠ 0) : d = c := by
  unfold lowerChar at member
  split at member
  · rcases List.mem_cons.mp member with rfl | later
    · exact absurd below (by decide)
    · obtain rfl := List.mem_singleton.mp later
      exact absurd below (by decide)
  · obtain rfl := List.mem_singleton.mp member
    rcases lowerCode_cases c.toNat with same | above
    · rw [same, Char.ofNat_toNat]
    · rcases toNat_ofNat_cases (lowerCode c.toNat) with kept | zero
      · exact absurd above (Nat.not_le.mpr (kept ▸ below))
      · exact absurd zero visible

end AttributeFilter
