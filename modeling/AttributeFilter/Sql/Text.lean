/-
**Text in SQL.**

A column name becomes part of the SQL text, so only plain identifiers are let through: a letter A to
Z in either case or an underscore, followed by such characters and digits.

In a pattern of LIKE the percent sign and the underscore stand for other text. `escapeLike` makes a
text stand for itself, under the backslash as escape character.
-/

namespace AttributeFilter

/-! ### Plain identifiers -/

/-- Whether a character may begin an identifier. -/
def beginsIdentifier (c : Char) : Bool := c.isAlpha || c == '_'

/-- Whether a character may follow in an identifier. -/
def continuesIdentifier (c : Char) : Bool := c.isAlphanum || c == '_'

/-- Whether the characters form an identifier. -/
def isIdentifierText : List Char → Bool
  | [] => false
  | c :: rest => beginsIdentifier c && rest.all continuesIdentifier

/-- Whether a text is a plain identifier. -/
def isIdentifier (text : String) : Bool := isIdentifierText text.toList

/-! ### Patterns of LIKE -/

/-- Put a backslash in front of every occurrence of a character. -/
def guardChar (mark : Char) : List Char → List Char
  | [] => []
  | c :: rest => if c = mark then '\\' :: c :: guardChar mark rest else c :: guardChar mark rest

/-- Escape a text for a pattern: first its backslashes, so that the ones put in front of percent
signs and underscores afterwards are not escaped again. -/
def escapeLike (text : List Char) : List Char :=
  guardChar '_' (guardChar '%' (guardChar '\\' text))

/-- An inserted backslash belongs to the character behind it, so texts are escaped independently. -/
theorem guardChar_append (mark : Char) (first second : List Char) :
    guardChar mark (first ++ second) = guardChar mark first ++ guardChar mark second := by
  induction first with
  | nil => rfl
  | cons c rest ih =>
    by_cases marked : c = mark
    · simp [guardChar, marked, ih]
    · simp [guardChar, marked, ih]

/-- Escaping goes through a text character by character. -/
theorem escapeLike_append (first second : List Char) :
    escapeLike (first ++ second) = escapeLike first ++ escapeLike second := by
  simp [escapeLike, guardChar_append]

end AttributeFilter
