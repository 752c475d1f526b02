/-
**Lineages.**

A registry is coherent when the name of every record type is its own, its parent is among the older
record types, and only known record types have declarations. Every call keeps this, and under it a
lineage can be followed from a record type to its parent.

* `Registry.Coherent.lineage_eq` — a lineage is a record type and the lineage of its parent; so are
  the look-ups along it, `filterable?_eq` and `hasColumn_eq`.
* `Registry.Coherent.walk` — what holds of every record type whose parent has it holds of all.
* **`Registry.coherent_run`** — every registry that comes about by calls is coherent.
-/

import AttributeFilter.Proofs.Registry.Call

namespace AttributeFilter

namespace Registry

/-! ### Record types from the latest to the oldest -/

/-- Every record type has a name of its own, and its parent is among the older ones. -/
def Ordered : List RecordType → Prop
  | [] => True
  | record :: older =>
    findRecord? record.name older = none ∧
      (∀ parent, record.parent = some parent → (findRecord? parent older).isSome = true) ∧
      Ordered older

theorem name_of_findRecord? {name : String} {records : List RecordType} {record : RecordType}
    (found : findRecord? name records = some record) : record.name = name := by
  induction records with
  | nil => cases found
  | cons latest older ih =>
    unfold findRecord? at found
    split at found
    · next same => exact Option.some.inj found ▸ same
    · exact ih found

/-- A new name is none of the known ones. -/
theorem ne_of_findRecord? {name other : String} {records : List RecordType}
    (unknown : findRecord? name records = none)
    (known : (findRecord? other records).isSome = true) : name ≠ other := by
  rintro rfl
  simp [unknown] at known

theorem lineageIn_of_findRecord?_eq_none {name : String} {records : List RecordType}
    (unknown : findRecord? name records = none) : lineageIn name records = [] := by
  induction records with
  | nil => rfl
  | cons latest older ih =>
    unfold findRecord? at unknown
    split at unknown
    · cases unknown
    · next other => rw [lineageIn, if_neg other, ih unknown]

/-- **A later record type of a new name is in no lineage that was there before it.** -/
theorem lineageIn_cons {latest : RecordType} {older : List RecordType} {name : String}
    (unknown : findRecord? latest.name older = none)
    (known : (findRecord? name older).isSome = true) :
    lineageIn name (latest :: older) = lineageIn name older := by
  rw [lineageIn, if_neg (ne_of_findRecord? unknown known)]

/-- **A lineage is a record type and the lineage of its parent.** -/
theorem lineageIn_of_findRecord? {name : String} {records : List RecordType} {record : RecordType}
    (ordered : Ordered records) (found : findRecord? name records = some record) :
    lineageIn name records =
      record :: (record.parent.map (lineageIn · records)).getD [] ∧
      ∀ parent, record.parent = some parent → (findRecord? parent records).isSome = true := by
  induction records with
  | nil => cases found
  | cons latest older ih =>
    obtain ⟨fresh, above, rest⟩ := ordered
    have stays {parent : String} (known : (findRecord? parent older).isSome = true) :
        (findRecord? parent (latest :: older)).isSome = true ∧
          lineageIn parent (latest :: older) = lineageIn parent older := by
      refine ⟨?_, lineageIn_cons fresh known⟩
      rw [findRecord?, if_neg (ne_of_findRecord? fresh known)]
      exact known
    unfold findRecord? at found
    split at found
    · next same =>
      obtain rfl := Option.some.inj found
      refine ⟨?_, fun parent here => (stays (above parent here)).1⟩
      rw [lineageIn, if_pos same]
      cases here : latest.parent with
      | none => rfl
      | some parent => simp [(stays (above parent here)).2]
    · next other =>
      obtain ⟨walks, knownAbove⟩ := ih rest found
      refine ⟨?_, fun parent here => (stays (knownAbove parent here)).1⟩
      rw [lineageIn, if_neg other, walks]
      cases here : record.parent with
      | none => rfl
      | some parent => simp [(stays (knownAbove parent here)).2]

/-! ### Coherent registries -/

/-- Names and parents are in order, and only known record types have declarations. -/
structure Coherent (registry : Registry) : Prop where
  ordered : Ordered registry.records
  declared : ∀ name, registry.record? name = none → registry.declared? name = none

theorem coherent_empty (settings : Settings) : (empty settings).Coherent :=
  ⟨trivial, fun _ _ => rfl⟩

/-- Every call keeps a registry coherent. -/
theorem Step.coherent {registry changed : Registry} {call : Call} {accepted : Bool}
    (effect : registry.Step call accepted changed) (coherent : registry.Coherent) :
    changed.Coherent := by
  cases effect with
  | kept => exact coherent
  | registered columns fresh above =>
    refine ⟨⟨fresh, above, coherent.ordered⟩, fun other unknown => ?_⟩
    rw [record?_withRecord] at unknown
    split at unknown
    · cases unknown
    · exact coherent.declared other unknown
  | @declared name attributes known inForce =>
    refine ⟨coherent.ordered, fun other unknown => ?_⟩
    rw [record?_withDeclaration] at unknown
    have different : other ≠ name := by
      rintro rfl
      simp [knows, unknown] at known
    rw [declared?_withDeclaration, if_neg different]
    exact coherent.declared other unknown

theorem Coherent.run {registry : Registry} (coherent : registry.Coherent) (calls : List Call) :
    (registry.run calls).Coherent :=
  run_induction (motive := fun _ => Coherent)
    (fun _ registry coherent call => (registry.step call).coherent coherent) [] coherent calls

/-- **Every registry that comes about by calls is coherent.** -/
theorem coherent_run (settings : Settings) (calls : List Call) :
    ((empty settings).run calls).Coherent := (coherent_empty settings).run calls

namespace Coherent

variable {registry : Registry} {name : String} {record : RecordType}

section

variable (coherent : registry.Coherent)

include coherent

theorem lineage_eq (found : registry.record? name = some record) :
    registry.lineage name = record :: (record.parent.map registry.lineage).getD [] :=
  (lineageIn_of_findRecord? coherent.ordered found).1

/-- The parent of a record type is known. -/
theorem knows_parent {parent : String} (found : registry.record? name = some record)
    (above : record.parent = some parent) : registry.knows parent = true :=
  (lineageIn_of_findRecord? coherent.ordered found).2 parent above

/-- Only known record types have declarations. -/
theorem knows_of_declared? {set : AttributeSet} (declared : registry.declared? name = some set) :
    registry.knows name = true := by
  cases found : registry.record? name with
  | none => simp [coherent.declared name found] at declared
  | some record => simp [knows, found]

/-- The attributes in force are the record type's own, else its parent's. -/
theorem filterable?_eq (found : registry.record? name = some record) :
    registry.filterable? name =
      (registry.declared? name).or (record.parent.bind registry.filterable?) := by
  unfold filterable?
  rw [coherent.lineage_eq found, List.findSome?_cons, name_of_findRecord? found]
  cases registry.declared? name with
  | some own => rfl
  | none => cases record.parent <;> rfl

/-- The columns are the record type's own and its parent's. -/
theorem hasColumn_eq (found : registry.record? name = some record) (column : String) :
    registry.hasColumn name column =
      (record.columns.contains (foldCase column) ||
        record.parent.any (registry.hasColumn · column)) := by
  unfold hasColumn
  rw [coherent.lineage_eq found, List.any_cons]
  cases record.parent <;> rfl

/-- **What holds of every record type whose parent has it holds of all**: a lineage ends. -/
@[elab_as_elim]
theorem walk {motive : String → Prop}
    (unknown : ∀ name, registry.record? name = none → motive name)
    (known : ∀ name record, registry.record? name = some record →
      (∀ parent, record.parent = some parent → motive parent) → motive name)
    (name : String) : motive name := by
  -- A parent's lineage is shorter by one; the names themselves have no order to go by.
  generalize size : (registry.lineage name).length = length
  induction length using Nat.strongRecOn generalizing name with
  | ind length ih =>
    cases found : registry.record? name with
    | none => exact unknown name found
    | some record =>
      refine known name record found fun parent above => ih _ ?_ parent rfl
      rw [← size, coherent.lineage_eq found, above]
      simp

end

theorem lineage_of_unknown (unknown : registry.record? name = none) :
    registry.lineage name = [] := lineageIn_of_findRecord?_eq_none unknown

theorem filterable?_of_unknown (unknown : registry.record? name = none) :
    registry.filterable? name = none := by
  rw [filterable?, lineage_of_unknown unknown]
  rfl

/-- Only known record types have a declaration in force. -/
theorem knows_of_hasFilter (inForce : registry.hasFilter name = true) :
    registry.knows name = true := by
  cases found : registry.record? name with
  | none => simp [hasFilter, filterable?_of_unknown found] at inForce
  | some record => simp [knows, found]

end Coherent

end Registry

end AttributeFilter
