/-
**Sets of attributes.**

A set of attribute names that keeps the order and the spelling in which they were declared. Names
that differ only in ASCII case are one attribute, and its first spelling is kept; `index` holds the
attributes in lower case, for asking whether one is in the set.
-/

import AttributeFilter.Text.Basic

namespace AttributeFilter

/-- A set of attributes in order of declaration. -/
structure AttributeSet where
  attributes : List String
  index : List String
deriving Repr, DecidableEq

namespace AttributeSet

/-- The set without attributes. -/
def empty : AttributeSet := ⟨[], []⟩

/-- Whether an attribute is in the set, in whatever case. -/
def contains (set : AttributeSet) (name : String) : Bool :=
  set.index.contains (foldCase name)

/-- Add an attribute, unless it is in the set already. -/
def insert (set : AttributeSet) (name : String) : AttributeSet :=
  if set.contains name then set
  else ⟨set.attributes ++ [name], set.index ++ [foldCase name]⟩

/-- The set of the given attributes. -/
def ofList (attributes : List String) : AttributeSet := attributes.foldl insert empty

/-- The number of attributes. -/
def size (set : AttributeSet) : Nat := set.attributes.length

/-- Whether there is no attribute. -/
def isEmpty (set : AttributeSet) : Bool := set.attributes.isEmpty

theorem insert_of_contains {set : AttributeSet} {name : String} (known : set.contains name = true) :
    set.insert name = set :=
  if_pos known

theorem insert_of_not_contains {set : AttributeSet} {name : String}
    (fresh : ¬ set.contains name = true) :
    set.insert name = ⟨set.attributes ++ [name], set.index ++ [foldCase name]⟩ :=
  if_neg fresh

/-- Whatever was in the set stays in it, and the new name joins it. -/
theorem contains_insert (set : AttributeSet) (added name : String) :
    (set.insert added).contains name =
      (set.contains name || foldCase name == foldCase added) := by
  by_cases known : set.contains added
  · rw [insert_of_contains known]
    by_cases same : foldCase name = foldCase added
    · have found : set.contains name = true := by rw [contains, same]; exact known
      simp [found]
    · simp [same]
  · rw [insert_of_not_contains known]
    by_cases same : foldCase name = foldCase added
    · simp [contains, same]
    · simp [contains, same]

end AttributeSet

end AttributeFilter
