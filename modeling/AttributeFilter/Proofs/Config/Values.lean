/-
**What the values of a configuration file mean.**

A limit is a number in digits alone, a policy goes by its name, and a truth value stands for itself.
No other value means any of them: not a number with a sign, a fraction or an exponent, even where it
is whole, and not one that does not fit into 64 bits.

* `IsLimit`, `IsPolicy`, `IsTruthValue` — what a value looks like that means one of them.
* **`limitOfForm?_eq_some_iff`**, **`EmptyPolicy.ofForm?_eq_some_iff`**,
  **`booleanOfForm?_eq_some_iff`** — the values of a file are read to what they mean.
-/

import AttributeFilter.Config.File
import AttributeFilter.Proofs.Config.Spelling

namespace AttributeFilter

/-! ### Limits -/

/-- The value means the limit: it is a number in digits alone that fits into 64 bits. -/
inductive IsLimit : JsonForm → Nat → Prop
  | digits {digits : List Char} {limit : Nat} :
      limit = Nat.ofDigitChars 10 digits 0 → limit < UInt64.size →
        IsLimit (.number ⟨false, digits, [], none⟩) limit

namespace Numeral

/-- **Digits are absorbed to their value** where it fits: the value of a part is no larger. -/
theorem absorb_of_le {digits : List Char} {significand : Nat}
    (fits : Nat.ofDigitChars 10 digits significand ≤ maxSignificand) :
    absorb significand digits = (Nat.ofDigitChars 10 digits significand, digits.length) := by
  induction digits generalizing significand with
  | nil => rfl
  | cons c rest ih =>
    rw [Nat.ofDigitChars_cons, Nat.mul_comm 10 significand] at fits ⊢
    have here : significand * 10 + digitValue c ≤ maxSignificand :=
      Nat.le_trans (le_ofDigitChars rest _) fits
    rw [absorb]
    dsimp only
    rw [if_pos here, digitValue, ih fits, List.length_cons]

/-- Where the value does not fit, some digits are left over. -/
theorem absorb_of_lt {digits : List Char} {significand : Nat} (before : significand ≤ maxSignificand)
    (large : maxSignificand < Nat.ofDigitChars 10 digits significand) :
    (absorb significand digits).2 < digits.length := by
  induction digits generalizing significand with
  | nil => exact absurd large (Nat.not_lt_of_le before)
  | cons c rest ih =>
    rw [Nat.ofDigitChars_cons, Nat.mul_comm 10 significand] at large
    rw [absorb, List.length_cons]
    dsimp only
    split
    · next here => exact Nat.succ_lt_succ (ih here large)
    · exact Nat.zero_lt_succ _

/-- **A number is whole and not negative** where it is written in digits alone and fits. -/
theorem number?_eq_natural_iff {numeral : Numeral} {value : Nat} :
    numeral.number? = some (.integer value) ↔
      ∃ digits, numeral = ⟨false, digits, [], none⟩ ∧ value = Nat.ofDigitChars 10 digits 0 ∧
        value < UInt64.size := by
  have whole : numeral.number? = some (.integer value) ↔ numeral.integer? = some (value : Int) := by
    rw [number?]
    cases numeral.integer? with
    | some found => simp
    | none => simp
  have small (limit : Nat) : limit ≤ maxSignificand ↔ limit < UInt64.size := by
    rw [maxSignificand, UInt64.size]
    omega
  rw [whole]
  rcases numeral with ⟨negative, digits, fraction, exponent⟩
  rw [integer?]
  dsimp only
  constructor
  · intro read
    split at read
    · next shape =>
      obtain ⟨rfl, rfl, taken⟩ := shape
      have fits : Nat.ofDigitChars 10 digits 0 ≤ maxSignificand := by
        by_contra large
        exact absurd taken (Nat.ne_of_lt (absorb_of_lt (Nat.zero_le _) (Nat.lt_of_not_le large)))
      rw [absorb_of_le fits] at read
      cases negative with
      | false =>
        obtain rfl : Nat.ofDigitChars 10 digits 0 = value :=
          Int.ofNat_inj.mp (Option.some.inj read)
        exact ⟨digits, rfl, rfl, (small _).mp fits⟩
      | true =>
        -- A number with a sign is below zero, or it is no whole number at all.
        split at read
        · next plain => cases plain
        · split at read
          · next bounds => have := Option.some.inj read; omega
          · cases read
    · cases read
  · rintro ⟨_, ⟨⟩, rfl, fits⟩
    rw [absorb_of_le ((small _).mpr fits), if_pos ⟨rfl, rfl, rfl⟩]
    rfl

end Numeral

/-- **Limits are read from the numbers that mean them.** -/
theorem limitOfForm?_eq_some_iff {form : JsonForm} {limit : Nat} :
    limitOfForm? form = some limit ↔ IsLimit form limit := by
  constructor
  · intro read
    unfold limitOfForm? at read
    split at read
    · split at read
      · next numeral _ value found =>
        split at read
        · next positive =>
          obtain rfl : value.toNat = limit := Option.some.inj read
          rw [← Int.toNat_of_nonneg positive] at found
          obtain ⟨digits, rfl, spelt, fits⟩ := Numeral.number?_eq_natural_iff.mp found
          exact .digits spelt fits
        · cases read
      · cases read
    · cases read
  · rintro ⟨spelt, fits⟩
    have found := Numeral.number?_eq_natural_iff.mpr ⟨_, rfl, spelt, fits⟩
    rw [limitOfForm?, found]
    dsimp only
    rw [if_pos (Int.natCast_nonneg _), Int.toNat_natCast]

/-! ### Policies and truth values -/

/-- The value means the policy: it is the name of the policy, or an object whose only member has that
name and is null. -/
inductive IsPolicy : JsonForm → EmptyPolicy → Prop
  | name {codes : List Nat} {policy : EmptyPolicy} :
      JsonForm.textOf? codes = some policy.name → IsPolicy (.text codes) policy
  | member {codes : List Nat} {policy : EmptyPolicy} :
      JsonForm.textOf? codes = some policy.name → IsPolicy (.object [(codes, .null)]) policy

/-- The value means the truth value: it is that truth value. -/
inductive IsTruthValue : JsonForm → Bool → Prop
  | word {value : Bool} : IsTruthValue (.boolean value) value

/-- A policy has one name. -/
theorem EmptyPolicy.ofName?_eq_some_iff {name : String} {policy : EmptyPolicy} :
    EmptyPolicy.ofName? name = some policy ↔ name = policy.name := by
  cases policy <;> grind [EmptyPolicy.ofName?, EmptyPolicy.name]

/-- **Policies are read from the values that mean them.** -/
theorem EmptyPolicy.ofForm?_eq_some_iff {form : JsonForm} {policy : EmptyPolicy} :
    EmptyPolicy.ofForm? form = some policy ↔ IsPolicy form policy := by
  constructor
  · intro read
    unfold EmptyPolicy.ofForm? at read
    split at read
    · obtain ⟨name, spelt, named⟩ := Option.bind_eq_some_iff.mp read
      exact .name (ofName?_eq_some_iff.mp named ▸ spelt)
    · obtain ⟨name, spelt, named⟩ := Option.bind_eq_some_iff.mp read
      exact .member (ofName?_eq_some_iff.mp named ▸ spelt)
    · cases read
  · intro means
    cases means with
    | name spelt =>
      exact Option.bind_eq_some_iff.mpr ⟨_, spelt, ofName?_eq_some_iff.mpr rfl⟩
    | member spelt =>
      exact Option.bind_eq_some_iff.mpr ⟨_, spelt, ofName?_eq_some_iff.mpr rfl⟩

/-- **Truth values are read where they stand.** -/
theorem booleanOfForm?_eq_some_iff {form : JsonForm} {value : Bool} :
    booleanOfForm? form = some value ↔ IsTruthValue form value := by
  constructor
  · intro read
    cases form <;> cases read
    exact .word
  · rintro ⟨⟩
    rfl

end AttributeFilter
