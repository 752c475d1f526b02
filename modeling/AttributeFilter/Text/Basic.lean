/-
**Texts and characters.**

* `foldCase name` — the spelling that names share when they differ in the case of the letters A to Z
  at most. Column names, attribute names and configuration words are then the same name.
* `occursIn part text` — the text contains the part.
* `fillFirst value text` — the text with its first pair of empty braces replaced by the value.
* `joinWith separator parts` — the parts with the separator between neighbours.
* `CharTable` — a property of characters, kept as the list of the code point ranges that have it.
-/

namespace AttributeFilter

/-! ### Names without regard to ASCII case -/

/-- The spelling of a name with its letters A to Z in lower case, and all else as it is. -/
def foldCase (name : String) : String := String.ofList (name.toList.map Char.toLower)

theorem toList_foldCase (name : String) : (foldCase name).toList = name.toList.map Char.toLower :=
  String.toList_ofList

/-! ### Finding and joining -/

/-- Whether a text contains a part. -/
def occursIn (part : List Char) : List Char → Bool
  | [] => part.isEmpty
  | c :: rest => part.isPrefixOf (c :: rest) || occursIn part rest

/-- The text with its first pair of empty braces replaced by the value. -/
def fillFirst (value : List Char) : List Char → List Char
  | [] => []
  | [c] => [c]
  | c :: d :: rest =>
    if c = '\x7b' ∧ d = '\x7d' then value ++ rest else c :: fillFirst value (d :: rest)

/-- The parts with the separator between neighbours. -/
def joinWith (separator : String) : List String → String
  | [] => ""
  | [part] => part
  | part :: next :: rest => part ++ separator ++ joinWith separator (next :: rest)

/-! ### Tables of characters -/

/-- A set of characters, as closed ranges of code points. -/
abbrev CharTable := List (Nat × Nat)

/-- Whether a character lies in one of the ranges. -/
def CharTable.contains (table : CharTable) (c : Char) : Bool :=
  table.any fun range => decide (range.1 ≤ c.toNat) && decide (c.toNat ≤ range.2)

/-- A character is in a table exactly when some range of it holds its code point. -/
theorem CharTable.contains_iff (table : CharTable) (c : Char) :
    table.contains c = true ↔ ∃ range ∈ table, range.1 ≤ c.toNat ∧ c.toNat ≤ range.2 := by
  simp [CharTable.contains, List.any_eq_true]

end AttributeFilter
