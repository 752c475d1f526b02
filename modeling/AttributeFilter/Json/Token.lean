/-
**The tokens of a JSON text.**

A text is cut into marks, words, numbers and quoted texts; only space, tab, line feed and carriage
return stand between them. Words, numbers and quoted texts are kept as they were written, and
`Scanner.step` takes one character at a time.
-/

namespace AttributeFilter

/-- A token, with what was written in it. A quoted text is without its quotes. -/
inductive JsonToken
  | openArray
  | closeArray
  | openObject
  | closeObject
  | comma
  | colon
  | word (letters : List Char)
  | number (written : List Char)
  | text (written : List Char)
deriving Repr, DecidableEq

namespace JsonToken

/-- What the scanner is inside of, with its characters so far, latest first. -/
inductive Mode
  | between
  | word (letters : List Char)
  | number (written : List Char)
  | text (written : List Char)
  | escape (written : List Char)
deriving Repr, DecidableEq

/-- The scanner: where it stands, and the tokens found, latest first. -/
structure Scanner where
  mode : Mode
  found : List JsonToken
deriving Repr, DecidableEq

/-- The token that is a single mark. -/
def ofMark? : Char → Option JsonToken
  | '[' => some .openArray
  | ']' => some .closeArray
  | '\x7b' => some .openObject
  | '\x7d' => some .closeObject
  | ',' => some .comma
  | ':' => some .colon
  | _ => none

/-- Whether a character may stand between tokens. -/
def isGap (c : Char) : Bool := c == ' ' || c == '\t' || c == '\n' || c == '\r'

/-- Whether a character may stand in a number after its first. -/
def continuesNumber (c : Char) : Bool :=
  c.isDigit || c == '.' || c == '+' || c == '-' || c == 'e' || c == 'E'

namespace Scanner

/-- Take a character that stands in no token yet. -/
def start (found : List JsonToken) (c : Char) : Option Scanner :=
  match ofMark? c with
  | some mark => some ⟨.between, mark :: found⟩
  | none =>
    if isGap c then some ⟨.between, found⟩
    else if c = '"' then some ⟨.text [], found⟩
    else if c.isAlpha then some ⟨.word [c], found⟩
    else if c.isDigit || c == '-' then some ⟨.number [c], found⟩
    else none

/-- Take the next character. Control characters may not stand in a quoted text. -/
def step (scanner : Scanner) (c : Char) : Option Scanner :=
  match scanner.mode with
  | .between => start scanner.found c
  | .word letters =>
    if c.isAlpha then some ⟨.word (c :: letters), scanner.found⟩
    else start (.word letters.reverse :: scanner.found) c
  | .number written =>
    if continuesNumber c then some ⟨.number (c :: written), scanner.found⟩
    else start (.number written.reverse :: scanner.found) c
  | .text written =>
    if c = '"' then some ⟨.between, .text written.reverse :: scanner.found⟩
    else if c = '\\' then some ⟨.escape (c :: written), scanner.found⟩
    else if c.toNat < 0x20 then none
    else some ⟨.text (c :: written), scanner.found⟩
  | .escape written =>
    if c.toNat < 0x20 then none else some ⟨.text (c :: written), scanner.found⟩

/-- The tokens in order, unless the text ends inside quotes. -/
def finish? (scanner : Scanner) : Option (List JsonToken) :=
  match scanner.mode with
  | .between => some scanner.found.reverse
  | .word letters => some (.word letters.reverse :: scanner.found).reverse
  | .number written => some (.number written.reverse :: scanner.found).reverse
  | .text _ => none
  | .escape _ => none

end Scanner

/-- The tokens of a text. -/
def ofText? (text : List Char) : Option (List JsonToken) := do
  let scanner ← text.foldlM Scanner.step ⟨.between, []⟩
  scanner.finish?

end JsonToken

end AttributeFilter
