/-
**Numbers of a JSON text.**

* `Numeral.ofChars?` — the parts of a number as written: sign, whole digits, fraction, exponent. A
  leading zero stands alone, and a point or an exponent mark is followed by a digit.
* `Numeral.number?` — what the number means. Digits are taken into a whole significand while it
  stays below `2 ^ 64`; the digits left over only move the point, or are dropped after it. The
  significand, rounded to a double, is then multiplied or divided by a power of ten. So a number of
  many digits may end one place beside the nearest double; a number beyond all doubles has no
  meaning.
-/

import AttributeFilter.Json.Basic

namespace AttributeFilter

/-- An exponent as written. -/
structure Exponent where
  negative : Bool
  digits : List Char
deriving Repr, DecidableEq

/-- A number as written. An empty fraction stands for none. -/
structure Numeral where
  negative : Bool
  whole : List Char
  fraction : List Char
  exponent : Option Exponent
deriving Repr, DecidableEq

namespace Numeral

/-! ### The parts of a number -/

/-- The digits in front, and the rest. -/
def leadingDigits (text : List Char) : List Char × List Char :=
  (text.takeWhile Char.isDigit, text.dropWhile Char.isDigit)

/-- The minus sign in front, if any, and the rest. -/
def leadingMinus : List Char → Bool × List Char
  | '-' :: rest => (true, rest)
  | text => (false, text)

/-- The whole digits: a single zero, or digits without a zero in front. -/
def wholeDigits? (text : List Char) : Option (List Char × List Char) :=
  match leadingDigits text with
  | ([], _) => none
  | (['0'], rest) => some (['0'], rest)
  | ('0' :: _, _) => none
  | (digits, rest) => some (digits, rest)

/-- The digits after a point, none where there is no point. -/
def fractionDigits? : List Char → Option (List Char × List Char)
  | '.' :: rest =>
    match leadingDigits rest with
    | ([], _) => none
    | (digits, after) => some (digits, after)
  | text => some ([], text)

/-- The sign of an exponent and what follows it. -/
def exponentSign : List Char → Bool × List Char
  | '-' :: rest => (true, rest)
  | '+' :: rest => (false, rest)
  | text => (false, text)

/-- The exponent, which ends the number. -/
def exponent? : List Char → Option (Option Exponent)
  | [] => some none
  | mark :: rest =>
    if mark = 'e' ∨ mark = 'E' then
      match exponentSign rest with
      | (negative, text) =>
        if text ≠ [] ∧ text.all Char.isDigit then some (some ⟨negative, text⟩) else none
    else none

/-- The parts of a number as written. -/
def ofChars? (text : List Char) : Option Numeral := do
  let (negative, unsigned) := leadingMinus text
  let (whole, afterWhole) ← wholeDigits? unsigned
  let (fraction, afterFraction) ← fractionDigits? afterWhole
  let exponent ← exponent? afterFraction
  return ⟨negative, whole, fraction, exponent⟩

/-! ### The meaning of a number -/

/-- The value of a digit. -/
def digitValue (c : Char) : Nat := c.toNat - '0'.toNat

/-- The largest significand. -/
def maxSignificand : Nat := UInt64.size - 1

/-- The largest exponent that is computed with. -/
def maxExponent : Nat := Nat.pow 2 31 - 1

/-- The significand after as many digits as it can take, and the number of digits taken. -/
def absorb (significand : Nat) : List Char → Nat × Nat
  | [] => (significand, 0)
  | c :: rest =>
    let next := significand * 10 + digitValue c
    if next ≤ maxSignificand then
      let (final, taken) := absorb next rest
      (final, taken + 1)
    else (significand, 0)

/-- The value of an exponent's digits, if it can be computed with. -/
def exponentValue? (digits : List Char) : Option Nat :=
  digits.foldlM (fun value c =>
    let next := value * 10 + digitValue c
    if next ≤ maxExponent then some next else none) 0

/-- A power of ten as a double. -/
def tenTo (power : Nat) : Float := Float.ofScientific 1 false power

/-- The largest power of ten that is a double. -/
def maxTenPower : Nat := 308

/-- A double divided by a power of ten, in steps of the largest power there is. -/
def divideByTen (x : Float) (power : Nat) : Nat → Float
  | 0 => x
  | steps + 1 =>
    if power ≤ maxTenPower then x / tenTo power
    else if x == 0 then x
    else divideByTen (x / tenTo maxTenPower) (power - maxTenPower) steps

/-- A significand times a power of ten, if that is a double. -/
def scaled? (significand : Nat) (exponent : Int) : Option Float :=
  let x := Float.ofNat significand
  if exponent < 0 then
    some (divideByTen x exponent.natAbs (exponent.natAbs / maxTenPower + 1))
  else if exponent ≤ maxTenPower then
    let product := x * tenTo exponent.toNat
    if product.isInf then none else some product
  else if significand = 0 then some x
  else none

/-- Give a double the sign of the number. -/
def signed (numeral : Numeral) (x : Float) : Float := if numeral.negative then -x else x

/-- The double that the number means. -/
def float? (numeral : Numeral) : Option Float :=
  let (whole, taken) := absorb 0 numeral.whole
  let (significand, shifted) := absorb whole numeral.fraction
  let power : Int := (numeral.whole.length - taken : Nat) - (shifted : Int)
  match numeral.exponent with
  | none => (scaled? significand power).map numeral.signed
  | some exponent =>
    match exponentValue? exponent.digits with
    | some value =>
      (scaled? significand (if exponent.negative then power - value else power + value)).map
        numeral.signed
    | none =>
      if significand ≠ 0 ∧ !exponent.negative then none else some (numeral.signed 0)

/-- The whole number that the number means: not with a fraction or an exponent, not outside the
range, and not for a negative zero. -/
def integer? (numeral : Numeral) : Option Int :=
  let (significand, taken) := absorb 0 numeral.whole
  if numeral.fraction = [] ∧ numeral.exponent = none ∧ taken = numeral.whole.length then
    if !numeral.negative then some significand
    else if 0 < significand ∧ Int64.minValue.toInt ≤ -(significand : Int) then
      some (-(significand : Int))
    else none
  else none

/-- What the number means. -/
def number? (numeral : Numeral) : Option JsonNumber :=
  match numeral.integer? with
  | some value => some (.integer value)
  | none => numeral.float?.map .float

end Numeral

end AttributeFilter
