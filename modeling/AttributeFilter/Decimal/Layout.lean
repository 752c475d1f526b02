/-
**Decimal text.**

* `Decimal.positional` — all digits in place around the point, zeros filled in, never an exponent.
* `Decimal.scientific` — one digit in front of the point and a signed exponent.
* `numberText` — the text of a double as a value: positional, whole numbers without a point.
* `describedNumber` — the text of a double inside a message: whole numbers keep `.0`, and very large
  or very small magnitudes have an exponent.
-/

import AttributeFilter.Decimal.Shortest

namespace AttributeFilter

namespace Decimal

/-- The significant digits. -/
def text (decimal : Decimal) : List Char := Nat.toDigits 10 decimal.digits

/-- The power of ten of the first digit. -/
def leadingPower (decimal : Decimal) : Int := decimal.text.length + decimal.power - 1

/-- The digits in place around the point, without a point where nothing follows it. -/
def positional (decimal : Decimal) : List Char :=
  let point := decimal.leadingPower + 1
  if 0 ≤ decimal.power then
    decimal.text ++ List.replicate decimal.power.toNat '0'
  else if 0 < point then
    decimal.text.take point.toNat ++ '.' :: decimal.text.drop point.toNat
  else
    '0' :: '.' :: (List.replicate (-point).toNat '0' ++ decimal.text)

/-- One digit in front of the point, the others after it, and the exponent with its sign. -/
def scientific (decimal : Decimal) : List Char :=
  let fraction := decimal.text.drop 1
  let exponent := decimal.leadingPower
  decimal.text.take 1 ++ (if fraction.isEmpty then [] else '.' :: fraction) ++
    ['e', if exponent < 0 then '-' else '+'] ++ Nat.toDigits 10 exponent.natAbs

end Decimal

/-- The sign in front of a number. -/
def signText (negative : Bool) : List Char := if negative then ['-'] else []

/-- The text of a double as a value: the fewest digits that read back, of two equally near ones the
larger, never an exponent, and no point in a whole number. -/
def numberText (x : Float) : String :=
  match Binary64.ofFloat x with
  | .notNumber => "NaN"
  | .infinite negative => String.ofList (signText negative) ++ "inf"
  | .finite negative magnitude =>
    String.ofList (signText negative ++ (magnitude.shortest .away).positional)

/-- The text of a double inside a message: the fewest digits that read back, of two equally near
ones the even, positional from `10 ^ -5` up to below `10 ^ 16`, and `.0` after a whole number. -/
def describedNumber (x : Float) : String :=
  match Binary64.ofFloat x with
  | .notNumber => "NaN"
  | .infinite negative => String.ofList (signText negative) ++ "inf"
  | .finite negative magnitude =>
    let decimal := magnitude.shortest .even
    let exponent := decimal.leadingPower
    String.ofList <| signText negative ++
      if -5 ≤ exponent ∧ exponent ≤ 15 then
        decimal.positional ++ if 0 ≤ decimal.power then ['.', '0'] else []
      else
        decimal.scientific

end AttributeFilter
