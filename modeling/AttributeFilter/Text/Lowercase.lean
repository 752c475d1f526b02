/-
**Lower-casing a text.**

Every letter is replaced by its lower-case letter. Two letters need more than that:

* the capital I with a dot above becomes the letter i followed by a combining dot;
* the capital sigma becomes the final sigma at the end of a word and the plain sigma elsewhere. It
  ends a word when, looking through characters such as accents, a letter stands before it and none
  after it.

`toLowercase` is the whole rule.
-/

import AttributeFilter.Text.LetterCase

namespace AttributeFilter

/-- The lower case of a character without regard to its neighbours. -/
def lowerChar (c : Char) : List Char :=
  if c = '\u0130' then ['i', '\u0307'] else [Char.ofNat (lowerCode c.toNat)]

/-- Whether the first character that is not looked through is a letter. -/
def meetsLetter (neighbours : List Char) : Bool :=
  match neighbours.dropWhile isCaseIgnorable with
  | [] => false
  | c :: _ => isCased c

/-- The lower case of a capital sigma between the characters before it, nearest first, and those
after it. -/
def lowerSigma (before after : List Char) : Char :=
  if meetsLetter before && !meetsLetter after then 'ς' else 'σ'

/-- The lower case of a text that follows the characters `before`, nearest first. -/
def lowerAfter (before : List Char) : List Char → List Char
  | [] => []
  | c :: after =>
    (if c = 'Σ' then [lowerSigma before after] else lowerChar c) ++ lowerAfter (c :: before) after

/-- The lower case of a text. -/
def toLowercase (text : List Char) : List Char := lowerAfter [] text

end AttributeFilter
