/-
**Texts of the operating system.**

A path and the value of a variable are bytes to the operating system. Most of them are texts. Those
that are not may still name a file; in a message, every stretch of their bytes that cannot be part of
a character is shown as a replacement character.

* `OsString.text?` — the text, if it is one.
* `OsString.shown` — the text that stands for it in a message.
-/

namespace AttributeFilter

/-- A path or the value of a variable: a text, or bytes that are no text. -/
inductive OsString
  | text (value : String)
  | bytes (value : List UInt8) (noText : ¬ (ByteArray.mk value.toArray).IsValidUTF8)
deriving DecidableEq

namespace OsString

/-- The text, if it is one. -/
def text? : OsString → Option String
  | .text value => some value
  | .bytes _ _ => none

/-! ### Showing bytes -/

/-- What stands for bytes that are no character. -/
def replacement : Char := '\uFFFD'

/-- A character whose last bytes have not been read: what is known of its code point, how many bytes
are missing, and the bounds of the next one. -/
structure Begun where
  code : Nat
  missing : Nat
  least : Nat
  greatest : Nat

/-- What a byte begins, if it is the first of several. The bounds of the second byte keep out code
points that a shorter sequence spells, surrogates, and what lies beyond the last code point. -/
def Begun.ofByte? (byte : Nat) : Option Begun :=
  if 0xC2 ≤ byte ∧ byte ≤ 0xDF then some ⟨byte - 0xC0, 1, 0x80, 0xBF⟩
  else if byte = 0xE0 then some ⟨0x0, 2, 0xA0, 0xBF⟩
  else if byte = 0xED then some ⟨0xD, 2, 0x80, 0x9F⟩
  else if 0xE1 ≤ byte ∧ byte ≤ 0xEF then some ⟨byte - 0xE0, 2, 0x80, 0xBF⟩
  else if byte = 0xF0 then some ⟨0x0, 3, 0x90, 0xBF⟩
  else if byte = 0xF4 then some ⟨0x4, 3, 0x80, 0x8F⟩
  else if 0xF1 ≤ byte ∧ byte ≤ 0xF3 then some ⟨byte - 0xF0, 3, 0x80, 0xBF⟩
  else none

/-- What the first byte of a character shows, and what it begins. -/
def first (byte : Nat) : List Char × Option Begun :=
  if byte < 0x80 then ([Char.ofNat byte], none)
  else
    match Begun.ofByte? byte with
    | some begun => ([], some begun)
    | none => ([replacement], none)

/-- What a byte shows and begins behind the bytes of a character. A byte that does not belong to the
character cuts it off, and is looked at again as the first of another. -/
def next (begun : Begun) (byte : Nat) : List Char × Option Begun :=
  if begun.least ≤ byte ∧ byte ≤ begun.greatest then
    let code := begun.code * 64 + byte % 64
    if begun.missing = 1 then ([Char.ofNat code], none)
    else ([], some ⟨code, begun.missing - 1, 0x80, 0xBF⟩)
  else
    let (shown, after) := first byte
    (replacement :: shown, after)

/-- The characters that bytes show, behind what has been begun. -/
def shownBytes : Option Begun → List Nat → List Char
  | none, [] => []
  | some _, [] => [replacement]
  | none, byte :: rest =>
    match first byte with
    | (shown, after) => shown ++ shownBytes after rest
  | some begun, byte :: rest =>
    match next begun byte with
    | (shown, after) => shown ++ shownBytes after rest

/-- The text that stands for it in a message. -/
def shown : OsString → String
  | .text value => value
  | .bytes value _ => String.ofList (shownBytes none (value.map UInt8.toNat))

instance : Repr OsString := ⟨fun string _ => repr string.shown⟩

end OsString

end AttributeFilter
