/-
**Double precision numbers.**

The bits of a double say that it is no number, infinite, or a sign with a whole number of units, the
unit being a power of two. `Binary64.ofBits` reads them. Every number of the format rounds to
itself, and so does everything nearer to it than to its neighbours: `lower` and `upper` are the ends
of that interval, counted in quarters of the unit.
-/

namespace AttributeFilter

/-- A finite magnitude: `count` units of size `2 ^ exponent`. At the start of a binade the neighbour
below is only half a unit away. -/
structure Magnitude where
  count : Nat
  exponent : Int
  startsBinade : Bool
deriving Repr, DecidableEq

/-- What the bits of a double say. -/
inductive Binary64
  | notNumber
  | infinite (negative : Bool)
  | finite (negative : Bool) (magnitude : Magnitude)
deriving Repr, DecidableEq

namespace Magnitude

/-- The lower end of the interval that rounds to the magnitude, in quarters of its unit. -/
def lower (magnitude : Magnitude) : Nat :=
  4 * magnitude.count - if magnitude.startsBinade then 1 else 2

/-- The upper end of that interval, in quarters of the unit. -/
def upper (magnitude : Magnitude) : Nat := 4 * magnitude.count + 2

/-- Whether the ends themselves round to the magnitude: a half goes to the even neighbour. -/
def holdsEnds (magnitude : Magnitude) : Bool := magnitude.count % 2 == 0

end Magnitude

/-- Read the bits of a double: one of sign, eleven of exponent, fifty-two of fraction. -/
def Binary64.ofBits (bits : Nat) : Binary64 :=
  let negative := bits / Nat.pow 2 63 % 2 == 1
  let exponent : Nat := bits / Nat.pow 2 52 % Nat.pow 2 11
  let fraction := bits % Nat.pow 2 52
  if exponent = Nat.pow 2 11 - 1 then
    if fraction = 0 then .infinite negative else .notNumber
  else if exponent = 0 then
    .finite negative ⟨fraction, -1074, false⟩
  else
    .finite negative
      ⟨Nat.pow 2 52 + fraction, (exponent : Int) - 1075, fraction == 0 && exponent != 1⟩

/-- What a double is. -/
def Binary64.ofFloat (x : Float) : Binary64 := .ofBits x.toBits.toNat

end AttributeFilter
