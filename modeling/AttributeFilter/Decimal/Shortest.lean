/-
**The shortest decimal of a double.**

A double is written with the fewest digits that still read back as the same double. The multiples of
a power of ten form a grid; the coarsest grid with a point in the interval that rounds to the double
gives the fewest digits. On that grid one of the two points next to the value lies in the interval,
and the nearer of them is taken; `Tie` says which one when both are equally near.

All comparisons are between whole numbers: with the unit `2 ^ exponent` and the step `10 ^ power`
brought to a common denominator, `scaleUnit` quarters of a unit and `scaleStep` steps have the same
measure.
-/

import AttributeFilter.Decimal.Binary64

namespace AttributeFilter

/-- A whole number of steps of size `10 ^ power`. -/
structure Decimal where
  digits : Nat
  power : Int
deriving Repr, DecidableEq

/-- Which of two equally near decimals is taken. -/
inductive Tie
  | away
  | even
deriving Repr, DecidableEq

namespace Magnitude

/-- A quarter of the unit on the common scale. -/
def scaleUnit (magnitude : Magnitude) (power : Int) : Nat :=
  Nat.pow 2 (magnitude.exponent - 2).toNat * Nat.pow 10 (-power).toNat

/-- A step of the decimal grid on the common scale. -/
def scaleStep (magnitude : Magnitude) (power : Int) : Nat :=
  Nat.pow 2 (2 - magnitude.exponent).toNat * Nat.pow 10 power.toNat

/-- Whether `steps` steps of the grid round to the magnitude. -/
def admits (magnitude : Magnitude) (power : Int) (steps : Nat) : Bool :=
  let point := steps * magnitude.scaleStep power
  let low := magnitude.lower * magnitude.scaleUnit power
  let high := magnitude.upper * magnitude.scaleUnit power
  if magnitude.holdsEnds then decide (low ≤ point ∧ point ≤ high)
  else decide (low < point ∧ point < high)

/-- Whether the grid point above is taken when both neighbours are admitted. -/
def prefersAbove (tie : Tie) (magnitude : Magnitude) (power : Int) (below : Nat) : Bool :=
  let value := 4 * magnitude.count * magnitude.scaleUnit power
  let step := magnitude.scaleStep power
  let toBelow := value - below * step
  let toAbove := (below + 1) * step - value
  if toAbove = toBelow then
    match tie with
    | .away => true
    | .even => below % 2 == 1
  else decide (toAbove < toBelow)

/-- The admitted grid point nearest to the magnitude, if the grid has one. -/
def onGrid? (tie : Tie) (magnitude : Magnitude) (power : Int) : Option Decimal :=
  let below := 4 * magnitude.count * magnitude.scaleUnit power / magnitude.scaleStep power
  match magnitude.admits power below, magnitude.admits power (below + 1) with
  | true, true =>
    some ⟨if magnitude.prefersAbove tie power below then below + 1 else below, power⟩
  | true, false => some ⟨below, power⟩
  | false, true => some ⟨below + 1, power⟩
  | false, false => none

/-- The first of `tries` grids with a point in the interval, from `10 ^ power` downwards. -/
def coarsest (tie : Tie) (magnitude : Magnitude) (power : Int) : Nat → Decimal
  | 0 => ⟨0, 0⟩
  | tries + 1 =>
    match magnitude.onGrid? tie power with
    | some decimal => decimal
    | none => magnitude.coarsest tie (power - 1) tries

/-- The shortest decimal of a magnitude. No double reaches `10 ^ 309`, and the least unit exceeds
`10 ^ -324`, so one of the grids between the two has a point in the interval. -/
def shortest (tie : Tie) (magnitude : Magnitude) : Decimal :=
  if magnitude.count = 0 then ⟨0, 0⟩ else magnitude.coarsest tie 309 634

end Magnitude

end AttributeFilter
