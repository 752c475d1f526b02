/-
**Escapes in quoted JSON texts.**

* `codes?` — the code points and surrogates that a quoted text spells, every escape resolved.
* `chars?` — its characters: a high surrogate and the low surrogate after it are one character, and
  a surrogate on its own is none.
-/

namespace AttributeFilter

namespace JsonEscape

/-- The value of a hexadecimal digit. -/
def hexValue? (c : Char) : Option Nat :=
  if '0' ≤ c ∧ c ≤ '9' then some (c.toNat - '0'.toNat)
  else if 'a' ≤ c ∧ c ≤ 'f' then some (c.toNat - 'a'.toNat + 10)
  else if 'A' ≤ c ∧ c ≤ 'F' then some (c.toNat - 'A'.toNat + 10)
  else none

/-- The value of four hexadecimal digits. -/
def hexQuad? (first second third fourth : Char) : Option Nat := do
  return (((← hexValue? first) * 16 + (← hexValue? second)) * 16 + (← hexValue? third)) * 16 +
    (← hexValue? fourth)

/-- The character that an escape of one letter stands for. -/
def shortEscape? : Char → Option Char
  | '"' => some '"'
  | '\\' => some '\\'
  | '/' => some '/'
  | 'b' => some '\x08'
  | 'f' => some '\x0c'
  | 'n' => some '\n'
  | 'r' => some '\r'
  | 't' => some '\t'
  | _ => none

/-- The code points and surrogates that a quoted text spells. -/
def codes? : List Char → Option (List Nat)
  | [] => some []
  | '\\' :: 'u' :: first :: second :: third :: fourth :: rest => do
    let code ← hexQuad? first second third fourth
    return code :: (← codes? rest)
  | '\\' :: letter :: rest => do
    let c ← shortEscape? letter
    return c.toNat :: (← codes? rest)
  | ['\\'] => none
  | c :: rest => do return c.toNat :: (← codes? rest)

/-- Whether a code is the first half of a pair. -/
def isHighSurrogate (code : Nat) : Bool := decide (0xD800 ≤ code ∧ code ≤ 0xDBFF)

/-- Whether a code is the second half of a pair. -/
def isLowSurrogate (code : Nat) : Bool := decide (0xDC00 ≤ code ∧ code ≤ 0xDFFF)

/-- The character of a pair of surrogates. -/
def pairedChar (high low : Nat) : Char :=
  Char.ofNat (0x10000 + (high - 0xD800) * 0x400 + (low - 0xDC00))

/-- The characters of a text, if every surrogate has its partner. -/
def chars? : List Nat → Option (List Char)
  | [] => some []
  | high :: low :: rest =>
    if isHighSurrogate high then
      if isLowSurrogate low then do return pairedChar high low :: (← chars? rest) else none
    else if isLowSurrogate high then none
    else do return Char.ofNat high :: (← chars? (low :: rest))
  | [code] =>
    if isHighSurrogate code || isLowSurrogate code then none else some [Char.ofNat code]

end JsonEscape

end AttributeFilter
