/-
**Texts that differ in case only.**

Lower-casing looks at more than one character at a time, so that two texts which differ in the case
of their letters need not obviously come to the same. They do, because nothing that a capital sigma
asks about its neighbours depends on their case, and because what lower-casing leads to is left
alone by it.

* `capitalRuns_leadPast` — no lower-case letter is again a capital letter of the table.
* **`toLowercase_toLowercase`** — lower-casing a text twice is lower-casing it once.
* **`toLowercase_map_toLower`** — the case of the letters A to Z does not matter to it.
-/

import AttributeFilter.Proofs.Text.AsciiCase
import AttributeFilter.Proofs.Text.Lowercase

namespace AttributeFilter

/-- A text in lower case. -/
def lowercase (text : String) : String := String.ofList (toLowercase text.toList)

theorem toList_lowercase (text : String) : (lowercase text).toList = toLowercase text.toList :=
  String.toList_ofList

/-! ### Lower-case letters are no capital letters -/

namespace CapitalRun

/-- The letters that one run leads to are no members of another: the two lie apart, or they
alternate. -/
def LeadsPast (run other : CapitalRun) : Prop :=
  run.target + (run.last - run.first) < other.first ∨ other.last < run.target ∨
    (run.step = 2 ∨ run.first = run.last) ∧ other.step = 2 ∧ (run.target + other.first) % 2 = 1

-- The table has many pairs of runs, so the comparisons are made by functions to `Bool`.
instance (run other : CapitalRun) : Decidable (run.LeadsPast other) :=
  decidable_of_bool
    (Nat.blt (run.target + (run.last - run.first)) other.first || (Nat.blt other.last run.target ||
      ((Nat.beq run.step 2 || Nat.beq run.first run.last) && (Nat.beq other.step 2 &&
        Nat.beq ((run.target + other.first) % 2) 1))))
    (by simp [LeadsPast, Nat.blt_eq])

theorem lower?_eq_some_iff {run : CapitalRun} {code lower : Nat} :
    run.lower? code = some lower ↔
      (run.first ≤ code ∧ code ≤ run.last ∧ (code - run.first) % run.step = 0) ∧
        run.target + (code - run.first) = lower := by
  unfold lower?
  split
  · rename_i member
    rw [Option.some.injEq, and_iff_right member]
  · rename_i outside
    simp [outside]

theorem LeadsPast.lower?_eq_none {run other : CapitalRun} (past : run.LeadsPast other)
    {code lower : Nat} (led : run.lower? code = some lower) : other.lower? lower = none := by
  obtain ⟨⟨above, below, onStep⟩, rfl⟩ := lower?_eq_some_iff.mp led
  refine Option.eq_none_iff_forall_ne_some.mpr fun again hit => ?_
  obtain ⟨⟨from', upTo, onStep'⟩, -⟩ := lower?_eq_some_iff.mp hit
  rcases past with before | behind | ⟨sparse, sparse', odd⟩
  · omega
  · omega
  · rw [sparse'] at onStep'
    -- A run of a single letter leads to its target only, whatever its step.
    have even : (code - run.first) % 2 = 0 := by
      rcases sparse with two | single
      · rwa [two] at onStep
      · omega
    omega

end CapitalRun

/-- The capital I with a dot above, as a run by itself. -/
def dottedRun : CapitalRun := ⟨0x130, 0x130, 1, 0x69⟩

/-- **No capital letter is the lower case of another**, by the table as a whole. -/
theorem capitalRuns_leadPast {run other : CapitalRun} (listed : run ∈ capitalRuns)
    (among : other ∈ dottedRun :: capitalRuns) : run.LeadsPast other := by
  have checked : (capitalRuns.all fun run =>
      (dottedRun :: capitalRuns).all fun other => decide (run.LeadsPast other)) = true := by
    decide +kernel
  exact of_decide_eq_true
    (List.all_eq_true.mp (List.all_eq_true.mp checked run listed) other among)

theorem lowerCode_eq_self_of_lower? {run : CapitalRun} (listed : run ∈ capitalRuns)
    {code lower : Nat} (led : run.lower? code = some lower) :
    lowerCode lower = lower ∧ lower ≠ 0x130 := by
  have past (other : CapitalRun) (among : other ∈ dottedRun :: capitalRuns) :
      other.lower? lower = none :=
    (capitalRuns_leadPast listed among).lower?_eq_none led
  constructor
  · have nothing : (capitalRuns.findSome? fun other => other.lower? lower) = none :=
      List.findSome?_eq_none_iff.mpr fun other among => past other (List.mem_cons_of_mem _ among)
    rw [lowerCode, nothing]
    rfl
  · rintro rfl
    exact absurd (past dottedRun List.mem_cons_self) (by decide)

/-! ### Characters that lower-casing leaves alone -/

/-- A character that is its own lower case, wherever it stands. -/
structure Settled (c : Char) : Prop where
  notSigma : c ≠ 'Σ'
  lower : lowerChar c = [c]

/-- A text of settled characters is its own lower case. -/
theorem lowerAfter_of_settled {text : List Char} (settled : ∀ c ∈ text, Settled c)
    (before : List Char) : lowerAfter before text = text := by
  induction text generalizing before with
  | nil => rfl
  | cons c rest ih =>
    obtain ⟨here, onward⟩ := List.forall_mem_cons.mp settled
    rw [lowerAfter, if_neg here.notSigma, here.lower, ih onward]
    rfl

/-- The table has the capital sigma, so a code point that is its own lower case is not that of the
sigma. -/
theorem settled_of_lowerCode {c : Char} (same : lowerCode c.toNat = c.toNat)
    (undotted : c.toNat ≠ 0x130) : Settled c := by
  constructor
  · rintro rfl
    exact absurd same (by decide +kernel)
  · have plain : c ≠ '\u0130' := by
      rintro rfl
      exact undotted rfl
    rw [lowerChar, if_neg plain, same, Char.ofNat_toNat]

/-- **The lower case of a character is settled.** -/
theorem settled_lowerChar (c : Char) : ∀ d ∈ lowerChar c, Settled d := by
  intro d member
  unfold lowerChar at member
  split at member
  · rcases List.mem_cons.mp member with rfl | later
    · exact settled_of_lowerCode (by decide +kernel) (by decide)
    · obtain rfl := List.mem_singleton.mp later
      exact settled_of_lowerCode (by decide +kernel) (by decide)
  · rename_i undotted
    obtain rfl := List.mem_singleton.mp member
    cases found : capitalRuns.findSome? fun run => run.lower? c.toNat with
    | none =>
      have same : lowerCode c.toNat = c.toNat := by
        rw [lowerCode, found]
        rfl
      rw [same, Char.ofNat_toNat]
      refine settled_of_lowerCode same fun dotted => undotted ?_
      rw [← Char.ofNat_toNat c, dotted]
    | some lower =>
      obtain ⟨run, listed, led⟩ := List.exists_of_findSome?_eq_some found
      have reached : lowerCode c.toNat = lower := by
        rw [lowerCode, found]
        rfl
      rw [reached]
      -- A code point that is no character stands for the character zero, which has no lower case.
      rcases toNat_ofNat_cases lower with kept | zero
      · obtain ⟨same, plain⟩ := lowerCode_eq_self_of_lower? listed led
        exact settled_of_lowerCode (by rw [kept, same]) (by rw [kept]; exact plain)
      · exact settled_of_lowerCode (by rw [zero]; decide +kernel) (by rw [zero]; decide)

theorem settled_lowerSigma (before after : List Char) : Settled (lowerSigma before after) := by
  unfold lowerSigma
  split
  · exact settled_of_lowerCode (by decide +kernel) (by decide)
  · exact settled_of_lowerCode (by decide +kernel) (by decide)

theorem settled_of_mem_lowerAfter {before text : List Char} :
    ∀ c ∈ lowerAfter before text, Settled c := by
  induction text generalizing before with
  | nil => exact fun c member => absurd member List.not_mem_nil
  | cons d rest ih =>
    intro c member
    rw [lowerAfter] at member
    rcases List.mem_append.mp member with here | later
    · split at here
      · rw [List.mem_singleton.mp here]
        exact settled_lowerSigma before rest
      · exact settled_lowerChar d c here
    · exact ih c later

/-- **Lower-casing a text twice is lower-casing it once.** -/
theorem toLowercase_toLowercase (text : List Char) :
    toLowercase (toLowercase text) = toLowercase text :=
  lowerAfter_of_settled settled_of_mem_lowerAfter []

/-! ### The letters A to Z -/

/-- What lower-casing asks of a character: which case it has, whether it is looked through, whether
it is a capital sigma, and what its own lower case is. -/
structure SameLetter (c d : Char) : Prop where
  cased : isCased c = isCased d
  seen : isCaseIgnorable c = isCaseIgnorable d
  sigma : c = 'Σ' ↔ d = 'Σ'
  lower : lowerChar c = lowerChar d

theorem sameLetter_of_lt :
    ∀ place < 26, SameLetter (Char.ofNat (place + 97)) (Char.ofNat (place + 65)) := by
  have letters : ∀ place < 26,
      isCased (Char.ofNat (place + 97)) = isCased (Char.ofNat (place + 65)) ∧
        isCaseIgnorable (Char.ofNat (place + 97)) = isCaseIgnorable (Char.ofNat (place + 65)) ∧
        Char.ofNat (place + 97) ≠ 'Σ' ∧ Char.ofNat (place + 65) ≠ 'Σ' ∧
        lowerChar (Char.ofNat (place + 97)) = lowerChar (Char.ofNat (place + 65)) := by
    decide +kernel
  intro place small
  obtain ⟨cased, seen, notSigma, notSigma', lower⟩ := letters place small
  exact ⟨cased, seen, iff_of_false notSigma notSigma', lower⟩

/-- **A capital letter and its small letter** are the same letter to lower-casing. -/
theorem sameLetter_toLower (c : Char) : SameLetter c.toLower c := by
  rcases toLower_cases c with ⟨low, high, lowered⟩ | same
  · have letters := sameLetter_of_lt (c.toNat - 65) (by omega)
    have capital : c.toNat - 65 + 65 = c.toNat := Nat.sub_add_cancel low
    have small : c.toNat - 65 + 97 = c.toLower.toNat := by omega
    rwa [capital, small, Char.ofNat_toNat, Char.ofNat_toNat] at letters
  · rw [same]
    exact ⟨rfl, rfl, Iff.rfl, rfl⟩

theorem meetsLetter_map_toLower (text : List Char) :
    meetsLetter (text.map Char.toLower) = meetsLetter text := by
  induction text with
  | nil => rfl
  | cons c rest ih =>
    have same := sameLetter_toLower c
    rw [List.map_cons, meetsLetter_cons, meetsLetter_cons, same.seen, same.cased, ih]

theorem lowerAfter_map_toLower (before text : List Char) :
    lowerAfter before (text.map Char.toLower) = lowerAfter before text := by
  induction text generalizing before with
  | nil => rfl
  | cons c rest ih =>
    have same := sameLetter_toLower c
    have onward : meetsLetter (c.toLower :: before) = meetsLetter (c :: before) := by
      rw [meetsLetter_cons, meetsLetter_cons, same.seen, same.cased]
    rw [List.map_cons, lowerAfter, lowerAfter, ih, lowerAfter_congr onward, lowerSigma, lowerSigma,
      meetsLetter_map_toLower, same.lower]
    simp only [same.sigma]

/-- **The case of the letters A to Z does not matter** to lower-casing. -/
theorem toLowercase_map_toLower (text : List Char) :
    toLowercase (text.map Char.toLower) = toLowercase text :=
  lowerAfter_map_toLower [] text

/-- Two spellings of a name have the same lower case. -/
theorem lowercase_eq_of_foldCase_eq {text other : String} (same : foldCase text = foldCase other) :
    lowercase text = lowercase other := by
  rw [lowercase, lowercase, ← toLowercase_map_toLower text.toList,
    ← toLowercase_map_toLower other.toList, ← toList_foldCase, ← toList_foldCase, same]

end AttributeFilter
