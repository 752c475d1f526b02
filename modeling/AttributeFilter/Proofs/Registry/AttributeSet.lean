/-
**What a set of attributes holds.**

A set of attributes is filled name by name, and every name is looked up among the ones before it.
The attributes are shown in their own spelling while names are looked up in the index, so the two
have to stay in step.

* `firstSpellings` — the names that no earlier name is a variant of.
* `AttributeSet.InStep` — the index holds the attributes in lower case, and no two of them are
  variants of each other.
* `attributes_ofList` — a set shows the first spellings of the names it is made of.
* `InStep.ofList_attributes`, `InStep.eq_iff` — the shown attributes say all about a set.
* **`AttributeSet.keeps_first_spellings`** — the properties together, for every list of names.
-/

import AttributeFilter.Proofs.Registry.History
import AttributeFilter.Proofs.Text.AsciiCase
import Mathlib.Data.List.Induction

namespace AttributeFilter

theorem sameName_iff {first second : String} : SameName first second ↔ CaseVariant first second :=
  foldCase_eq_foldCase_iff

/-! ### First spellings -/

/-- The name is a variant of one of the others. -/
def repeats (others : List String) (name : String) : Bool :=
  others.any fun other => decide (CaseVariant other name)

theorem repeats_iff {others : List String} {name : String} :
    repeats others name = true ↔ ∃ other ∈ others, CaseVariant other name := by
  simp only [repeats, List.any_eq_true, decide_eq_true_eq]

/-- The names that are no variant of an earlier name, in their order and spelling. -/
def firstSpellings (names : List String) : List String :=
  (names.zipIdx.filter fun (name, position) => !repeats (names.take position) name).map Prod.fst

/-- A name behind a list does not change which names of the list are first spellings. -/
theorem firstSpellings_append_singleton (names : List String) (name : String) :
    firstSpellings (names ++ [name]) =
      firstSpellings names ++ if repeats names name then [] else [name] := by
  have before : (names.zipIdx.filter fun (earlier, position) =>
        !repeats ((names ++ [name]).take position) earlier) =
      names.zipIdx.filter fun (earlier, position) =>
        !repeats (names.take position) earlier := by
    refine List.filter_congr ?_
    rintro ⟨earlier, position⟩ member
    have inside : position ≤ names.length := Nat.le_of_lt (List.snd_lt_of_mem_zipIdx member)
    simp only [List.take_append_of_le_length inside]
  rw [firstSpellings, List.zipIdx_append, List.filter_append, before, List.map_append,
    firstSpellings]
  congr 1
  cases known : repeats names name <;> simp [known]

/-- Names that are no variants of each other are all of them first spellings. -/
theorem firstSpellings_eq_self {names : List String}
    (distinct : names.Pairwise fun first second => ¬ CaseVariant first second) :
    firstSpellings names = names := by
  induction names using List.reverseRecOn with
  | nil => rfl
  | append_singleton names name ih =>
    obtain ⟨before, -, across⟩ := List.pairwise_append.mp distinct
    have fresh : ¬ repeats names name = true := by
      rw [repeats_iff]
      rintro ⟨other, member, variant⟩
      exact across other member name (List.mem_singleton_self name) variant
    rw [firstSpellings_append_singleton, ih before, if_neg fresh]

namespace AttributeSet

/-! ### Attributes and index -/

/-- The index holds the attributes in lower case, and no two of them are variants of each other. -/
structure InStep (set : AttributeSet) : Prop where
  index : set.index = set.attributes.map foldCase
  distinct : set.attributes.Pairwise fun first second => ¬ CaseVariant first second

theorem inStep_empty : empty.InStep := ⟨rfl, .nil⟩

namespace InStep

variable {set : AttributeSet} (inStep : set.InStep)

include inStep

/-- What is looked up in the index is found among the attributes. -/
theorem contains_iff {name : String} :
    set.contains name = true ↔ ∃ shown ∈ set.attributes, CaseVariant shown name := by
  rw [contains, inStep.index, List.contains_iff_mem, List.mem_map]
  simp only [foldCase_eq_foldCase_iff]

/-- **Adding a name keeps attributes and index in step.** -/
theorem insert (name : String) : (set.insert name).InStep := by
  by_cases known : set.contains name
  · rwa [insert_of_contains known]
  · rw [insert_of_not_contains known]
    refine ⟨by simp [inStep.index], List.pairwise_append.mpr ⟨inStep.distinct, ?_, ?_⟩⟩
    · exact List.pairwise_singleton _ name
    · intro shown member added only variant
      obtain rfl : added = name := List.mem_singleton.mp only
      exact known (inStep.contains_iff.mpr ⟨shown, member, variant⟩)

theorem foldl_insert (names : List String) : (names.foldl AttributeSet.insert set).InStep := by
  induction names generalizing set with
  | nil => exact inStep
  | cons name rest ih => exact ih (inStep.insert name)

/-- No attribute is in the index twice. -/
theorem nodup_index : set.index.Nodup := by
  rw [inStep.index]
  refine List.pairwise_map.mpr (inStep.distinct.imp fun different same => ?_)
  exact different (foldCase_eq_foldCase_iff.mp same)

theorem mem_index_iff {key : String} :
    key ∈ set.index ↔ ∃ shown ∈ set.attributes, foldCase shown = key := by
  rw [inStep.index, List.mem_map]

theorem size_eq : set.size = set.index.length := by
  rw [size, inStep.index, List.length_map]

theorem isEmpty_iff : set.isEmpty = true ↔ set.index = [] := by
  rw [isEmpty, List.isEmpty_iff, inStep.index, List.map_eq_nil_iff]

/-- **Sets that show the same attributes are equal.** -/
theorem eq_iff {other : AttributeSet} (inStep' : other.InStep) :
    set = other ↔ set.attributes = other.attributes := by
  refine ⟨congrArg attributes, fun same => ?_⟩
  have index : set.index = other.index := by rw [inStep.index, inStep'.index, same]
  exact congrArg₂ AttributeSet.mk same index

end InStep

/-! ### Sets made of a list of names -/

/-- **Attributes and index are in step** in every set that is made of names. -/
theorem inStep_ofList (names : List String) : (ofList names).InStep :=
  inStep_empty.foldl_insert names

theorem contains_ofList_eq_repeats (names : List String) (name : String) :
    (ofList names).contains name = repeats names name := by
  rw [Bool.eq_iff_iff, contains_ofList_iff, repeats_iff]
  simp only [sameName_iff]

/-- **A set shows the first spellings** of the names it is made of. -/
theorem attributes_ofList (names : List String) :
    (ofList names).attributes = firstSpellings names := by
  induction names using List.reverseRecOn with
  | nil => rfl
  | append_singleton names name ih =>
    have last : ofList (names ++ [name]) = (ofList names).insert name := by
      rw [ofList, List.foldl_append]
      rfl
    rw [last, firstSpellings_append_singleton, ← ih, ← contains_ofList_eq_repeats]
    by_cases known : (ofList names).contains name
    · rw [insert_of_contains known, if_pos known, List.append_nil]
    · rw [insert_of_not_contains known, if_neg known]

-- Letters outside of ASCII keep their case, and the first spelling of a name its place.
example : (ofList ["Name", "É", "NAME", "é", "age"]).attributes = ["Name", "É", "é", "age"] := by
  decide +kernel

/-- **A set is made again** of the attributes it shows. -/
theorem InStep.ofList_attributes {set : AttributeSet} (inStep : set.InStep) :
    ofList set.attributes = set := by
  refine ((inStep_ofList set.attributes).eq_iff inStep).mpr ?_
  rw [attributes_ofList, firstSpellings_eq_self inStep.distinct]

/-- **A set of attributes keeps the first spellings.** It shows the names that are no variant of an
earlier name, in their order and spelling, and so no two variants. The index holds each of them once
in lower case, and the size of the set is that of the index. A name is in the set if it is a variant
of a name that the set was made of, or, what is the same, of one that it shows. The attributes shown
say all about a set: it is made again of them, and sets that show the same are equal. -/
theorem keeps_first_spellings (names : List String) :
    let set := ofList names
    set.attributes = firstSpellings names ∧
    (set.attributes.Pairwise fun first second => ¬ CaseVariant first second) ∧
    (set.index.Nodup ∧
      ∀ key, key ∈ set.index ↔ ∃ shown ∈ set.attributes, foldCase shown = key) ∧
    (set.size = set.attributes.length ∧ set.size = set.index.length ∧
      (set.isEmpty = true ↔ set.attributes = []) ∧ (set.isEmpty = true ↔ set.index = [])) ∧
    (∀ name,
      (set.contains name = true ↔ ∃ listed ∈ names, CaseVariant listed name) ∧
      (set.contains name = true ↔ ∃ shown ∈ set.attributes, CaseVariant shown name)) ∧
    ofList set.attributes = set ∧
    ∀ others, set = ofList others ↔ set.attributes = (ofList others).attributes := by
  intro set
  have inStep : set.InStep := inStep_ofList names
  refine ⟨attributes_ofList names, inStep.distinct, ⟨inStep.nodup_index, fun key => ?_⟩, ?_, ?_, ?_,
    ?_⟩
  · exact inStep.mem_index_iff
  · exact ⟨rfl, inStep.size_eq, List.isEmpty_iff, inStep.isEmpty_iff⟩
  · intro name
    refine ⟨?_, inStep.contains_iff⟩
    rw [contains_ofList_eq_repeats, repeats_iff]
  · exact inStep.ofList_attributes
  · exact fun others => inStep.eq_iff (inStep_ofList others)

end AttributeSet

end AttributeFilter
