/-
**Words of a configuration.**

Settings given as plain text: counts, truth values and policies. Blanks around a text do not count,
and neither does the case of its letters.
-/

import AttributeFilter.Config.Fault
import AttributeFilter.Config.Settings
import AttributeFilter.Text.Basic
import AttributeFilter.Text.Blank

namespace AttributeFilter

/-! ### Counts -/

/-- The largest count. -/
def maxCount : Nat := UInt64.size - 1

/-- Read decimal digits behind the value of those already read. The first digit that does not belong
or does not fit decides the fault. -/
def countOfDigits (value : Nat) : List Char → Except CountFault Nat
  | [] => .ok value
  | c :: rest =>
    if c.isDigit then
      let next := value * 10 + (c.toNat - '0'.toNat)
      if next ≤ maxCount then countOfDigits next rest else .error .tooLarge
    else .error .invalidDigit

/-- Read a count: digits, with at most one plus sign in front of them. -/
def countOfChars : List Char → Except CountFault Nat
  | [] => .error .empty
  | ['+'] => .error .invalidDigit
  | '+' :: digits => countOfDigits 0 digits
  | digits => countOfDigits 0 digits

/-- Read a count from a text. -/
def countOfText (text : String) : Except CountFault Nat := countOfChars (trimBlanks text.toList)

/-! ### Words -/

/-- A text without the blanks around it and in lower case. -/
def plainWord (text : String) : String := foldCase (trim text)

/-- Read a truth value from a text. -/
def booleanOfText? (text : String) : Option Bool :=
  let word := plainWord text
  if word ∈ ["1", "true", "yes", "on"] then some true
  else if word ∈ ["0", "false", "no", "off"] then some false
  else none

/-- The policy that a plain word names. -/
def EmptyPolicy.ofWord? (word : String) : Option EmptyPolicy :=
  if word = "reject" then some .reject
  else if word = "match_none" ∨ word = "match-none" then some .matchNone
  else none

/-- Read a policy from a text. -/
def EmptyPolicy.ofText (text : String) : Except ConfigFault EmptyPolicy :=
  match EmptyPolicy.ofWord? (plainWord text) with
  | some policy => .ok policy
  | none => .error (.unknownPolicy (plainWord text))

end AttributeFilter
