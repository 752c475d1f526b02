/-
**What a registry remembers.**

The accepted calls of a sequence say which columns a record type was given, which record types it
descends from, and which declaration is in effect for it. A registry that comes about by the calls
answers from its own tables, and the answers are those of the history.

* `Registered`, `Descends`, `InEffect`, `RealColumn` — the history, told by the accepted calls alone.
* `Recorded` — the tables of a registry hold what was accepted and nothing else.
* **`recorded_run`** — they do for every sequence of calls.
* `Recorded.hasColumn_iff`, `Recorded.inEffect` — what the registry finds along a lineage is what
  the history says.
-/

import AttributeFilter.Proofs.Registry.Lineage

namespace AttributeFilter

/-! ### The history -/

/-- Names that differ in ASCII case at most. -/
def SameName (first second : String) : Prop := foldCase first = foldCase second

/-- The name was registered. -/
def Registered (log : List Call) (name : String) : Prop :=
  ∃ columns parent, Call.register name columns parent ∈ log

/-- The record type is, or inherits from, the ancestor. -/
inductive Descends (log : List Call) : String → String → Prop
  | self (name : String) : Descends log name name
  | above {name parent ancestor : String} {columns : List String} :
      Call.register name columns (some parent) ∈ log → Descends log parent ancestor →
        Descends log name ancestor

/-- The column was given to the record type or to one of its ancestors, in whatever case. -/
def RealColumn (log : List Call) (name column : String) : Prop :=
  ∃ ancestor columns parent, Descends log name ancestor ∧
    Call.register ancestor columns parent ∈ log ∧ ∃ given ∈ columns, SameName given column

/-- The declaration in effect for a record type: its own, else the one in effect for its parent. -/
inductive InEffect (log : List Call) : String → List String → Prop
  | own {name : String} {attributes : List String} :
      Call.declare name attributes ∈ log → InEffect log name attributes
  | inherited {name parent : String} {columns attributes : List String} :
      (∀ others, Call.declare name others ∉ log) →
      Call.register name columns (some parent) ∈ log → InEffect log parent attributes →
        InEffect log name attributes

/-- A declaration in effect was made on the record type or on one of its ancestors. -/
theorem InEffect.declared {log : List Call} {name : String} {attributes : List String}
    (effect : InEffect log name attributes) :
    ∃ ancestor, Descends log name ancestor ∧ Call.declare ancestor attributes ∈ log := by
  induction effect with
  | own given => exact ⟨_, .self _, given⟩
  | inherited _ above _ ih =>
    obtain ⟨ancestor, descends, given⟩ := ih
    exact ⟨ancestor, .above above descends, given⟩

/-! ### Attributes of a declaration -/

/-- A set holds the attributes that it had, and the added ones in whatever case. -/
theorem AttributeSet.contains_foldl_insert (attributes : List String) (set : AttributeSet)
    (name : String) :
    (attributes.foldl insert set).contains name =
      (set.contains name || attributes.any fun listed => foldCase name == foldCase listed) := by
  induction attributes generalizing set with
  | nil => simp
  | cons listed rest ih => rw [List.foldl_cons, ih, contains_insert, List.any_cons, Bool.or_assoc]

/-- **The set of attributes holds the listed ones**, in whatever case. -/
theorem AttributeSet.contains_ofList_iff {attributes : List String} {name : String} :
    (ofList attributes).contains name = true ↔ ∃ listed ∈ attributes, SameName listed name := by
  have nothing : empty.contains name = false := rfl
  rw [ofList, contains_foldl_insert, nothing, Bool.false_or, List.any_eq_true]
  refine exists_congr fun listed => and_congr_right fun _ => ?_
  rw [beq_iff_eq, SameName, eq_comm]

/-! ### The tables hold the history -/

/-- The record types and declarations of a registry are the accepted ones. -/
structure Recorded (log : List Call) (registry : Registry) : Prop where
  coherent : registry.Coherent
  record : ∀ {name columns parent}, Call.register name columns parent ∈ log →
    registry.record? name = some (.ofColumns name columns parent)
  registered : ∀ {name record}, registry.record? name = some record →
    ∃ columns, Call.register name columns record.parent ∈ log ∧
      record = .ofColumns name columns record.parent
  declaration : ∀ {name attributes}, Call.declare name attributes ∈ log →
    registry.declared? name = some (.ofList attributes)
  declared : ∀ {name set}, registry.declared? name = some set →
    ∃ attributes, Call.declare name attributes ∈ log ∧ set = .ofList attributes

/-- A record type without a declaration in force has none of its own. -/
theorem Registry.Coherent.declared?_of_not_hasFilter {registry : Registry} {name : String}
    (coherent : registry.Coherent) (inForce : registry.hasFilter name = false) :
    registry.declared? name = none := by
  cases found : registry.record? name with
  | none => exact coherent.declared name found
  | some record =>
    rw [Registry.hasFilter, coherent.filterable?_eq found, Option.isSome_eq_false_iff,
      Option.isNone_iff_eq_none, Option.or_eq_none_iff] at inForce
    exact inForce.1

/-- One more record type of a new name is remembered beside the others. -/
theorem Recorded.withRecord {log : List Call} {registry : Registry} {name : String}
    {columns : List String} {parent : Option String} (recorded : Recorded log registry)
    (fresh : registry.record? name = none)
    (coherent : (registry.withRecord (.ofColumns name columns parent)).Coherent) :
    Recorded (log ++ [.register name columns parent])
      (registry.withRecord (.ofColumns name columns parent)) := by
  refine ⟨coherent, ?_, ?_, ?_, ?_⟩
  · intro other given above member
    rw [Registry.record?_withRecord]
    rcases List.mem_append.mp member with earlier | now
    · have known := recorded.record earlier
      have different : name ≠ other := by
        rintro rfl
        simp [fresh] at known
      exact (if_neg different).trans known
    · obtain ⟨rfl, rfl, rfl⟩ : other = name ∧ given = columns ∧ above = parent := by
        simpa using now
      exact if_pos rfl
  · intro other record found
    rw [Registry.record?_withRecord] at found
    split at found
    · next same =>
      obtain rfl := Option.some.inj found
      obtain rfl : name = other := same
      exact ⟨columns, by simp [RecordType.ofColumns], rfl⟩
    · obtain ⟨given, member, shape⟩ := recorded.registered found
      exact ⟨given, List.mem_append_left _ member, shape⟩
  · intro other attributes member
    rcases List.mem_append.mp member with earlier | now
    · exact recorded.declaration earlier
    · simp at now
  · intro other set found
    obtain ⟨attributes, member, shape⟩ := recorded.declared found
    exact ⟨attributes, List.mem_append_left _ member, shape⟩

/-- One more declaration is remembered beside the others: its record type has none of its own. -/
theorem Recorded.withDeclaration {log : List Call} {registry : Registry} {name : String}
    {attributes : List String} (recorded : Recorded log registry)
    (fresh : registry.declared? name = none)
    (coherent : (registry.withDeclaration name attributes).Coherent) :
    Recorded (log ++ [.declare name attributes]) (registry.withDeclaration name attributes) := by
  refine ⟨coherent, ?_, ?_, ?_, ?_⟩
  · intro other columns parent member
    rcases List.mem_append.mp member with earlier | now
    · exact recorded.record earlier
    · simp at now
  · intro other record found
    obtain ⟨given, member, shape⟩ := recorded.registered found
    exact ⟨given, List.mem_append_left _ member, shape⟩
  · intro other given member
    rw [Registry.declared?_withDeclaration]
    rcases List.mem_append.mp member with earlier | now
    · have before := recorded.declaration earlier
      have different : other ≠ name := by
        rintro rfl
        simp [fresh] at before
      exact (if_neg different).trans before
    · obtain ⟨rfl, rfl⟩ : other = name ∧ given = attributes := by simpa using now
      exact if_pos rfl
  · intro other set found
    rw [Registry.declared?_withDeclaration] at found
    split at found
    · next same => exact ⟨attributes, by simp [same], (Option.some.inj found).symm⟩
    · obtain ⟨given, member, shape⟩ := recorded.declared found
      exact ⟨given, List.mem_append_left _ member, shape⟩

/-- Every call keeps the tables and the history together. -/
theorem Recorded.after {log : List Call} {registry : Registry} (recorded : Recorded log registry)
    (call : Call) : Recorded (log ++ registry.log call) (registry.after call) := by
  have effect := registry.step call
  have coherent := effect.coherent recorded.coherent
  unfold Registry.log
  generalize registry.accepts call = accepted, registry.after call = changed at effect coherent ⊢
  cases effect with
  | kept => simpa using recorded
  | registered columns fresh above => exact recorded.withRecord fresh coherent
  | declared attributes known inForce =>
    exact recorded.withDeclaration (recorded.coherent.declared?_of_not_hasFilter inForce) coherent

/-- **The tables of a registry hold its history**, for every sequence of calls. -/
theorem recorded_run (settings : Settings) (calls : List Call) :
    Recorded ((Registry.empty settings).accepted calls) ((Registry.empty settings).run calls) := by
  have start : Recorded [] (Registry.empty settings) := by
    refine ⟨Registry.coherent_empty settings, ?_, ?_, ?_, ?_⟩
    · intro _ _ _ member
      cases member
    · intro _ _ found
      cases found
    · intro _ _ member
      cases member
    · intro _ _ found
      cases found
  exact Registry.run_induction (motive := Recorded)
    (fun _ _ recorded call => recorded.after call) [] start calls

/-! ### Looking along a lineage -/

namespace Recorded

variable {log : List Call} {registry : Registry} {name : String}

/-- **The registry finds the columns** that a record type was given or inherits. -/
theorem hasColumn {column : String} (recorded : Recorded log registry)
    (real : RealColumn log name column) : registry.hasColumn name column = true := by
  obtain ⟨ancestor, columns, parent, descends, registered, given, member, same⟩ := real
  induction descends with
  | self name =>
    rw [recorded.coherent.hasColumn_eq (recorded.record registered), Bool.or_eq_true]
    have listed : foldCase column ∈ columns.map foldCase := same ▸ List.mem_map_of_mem member
    exact .inl (List.contains_iff_mem.mpr listed)
  | above here _ ih =>
    rw [recorded.coherent.hasColumn_eq (recorded.record here), Bool.or_eq_true]
    exact .inr (ih registered)

/-- **What the registry finds in force is the declaration in effect.** -/
theorem inEffect {set : AttributeSet} (recorded : Recorded log registry)
    (found : registry.filterable? name = some set) :
    ∃ attributes, InEffect log name attributes ∧ set = .ofList attributes := by
  induction name using recorded.coherent.walk with
  | unknown name unknown =>
    rw [Registry.Coherent.filterable?_of_unknown unknown] at found
    cases found
  | known name record known ih =>
    rw [recorded.coherent.filterable?_eq known] at found
    cases own : registry.declared? name with
    | some declared =>
      rw [own] at found
      obtain rfl := Option.some.inj found
      obtain ⟨attributes, member, shape⟩ := recorded.declared own
      exact ⟨attributes, .own member, shape⟩
    | none =>
      rw [own, Option.none_or] at found
      obtain ⟨parent, above, inherited⟩ := Option.bind_eq_some_iff.mp found
      obtain ⟨attributes, effect, shape⟩ := ih parent above inherited
      obtain ⟨columns, registered, -⟩ := recorded.registered known
      refine ⟨attributes, .inherited ?_ (above ▸ registered) effect, shape⟩
      intro others member
      rw [recorded.declaration member] at own
      cases own

/-- **The columns that the registry finds** were given to the record type or are inherited. -/
theorem hasColumn_iff {column : String} (recorded : Recorded log registry) :
    registry.hasColumn name column = true ↔ RealColumn log name column := by
  refine ⟨fun found => ?_, recorded.hasColumn⟩
  induction name using recorded.coherent.walk with
  | unknown name unknown =>
    simp [Registry.hasColumn, Registry.Coherent.lineage_of_unknown unknown] at found
  | known name record known ih =>
    obtain ⟨columns, registered, shape⟩ := recorded.registered known
    rw [recorded.coherent.hasColumn_eq known, Bool.or_eq_true] at found
    rcases found with own | inherited
    · rw [shape] at own
      obtain ⟨given, member, same⟩ := List.mem_map.mp (List.contains_iff_mem.mp own)
      exact ⟨name, columns, record.parent, .self name, registered, given, member, same⟩
    · obtain ⟨parent, above, inherited⟩ := (Option.any_eq_true _ _).mp inherited
      obtain ⟨ancestor, others, parent', descends, real⟩ := ih parent above inherited
      exact ⟨ancestor, others, parent', .above (above ▸ registered) descends, real⟩

/-- The declaration in effect is what the registry finds in force. -/
theorem filterable?_of_inEffect {attributes : List String} (recorded : Recorded log registry)
    (effect : InEffect log name attributes) :
    registry.filterable? name = some (.ofList attributes) := by
  induction effect with
  | @own name attributes given =>
    have own := recorded.declaration given
    obtain ⟨record, known⟩ :=
      Option.isSome_iff_exists.mp (recorded.coherent.knows_of_declared? own)
    rw [recorded.coherent.filterable?_eq known, own]
    rfl
  | @inherited name parent columns attributes undeclared above _ ih =>
    have known := recorded.record above
    have noOwn : registry.declared? name = none := by
      cases own : registry.declared? name with
      | none => rfl
      | some set =>
        obtain ⟨others, member, -⟩ := recorded.declared own
        exact absurd member (undeclared others)
    rw [recorded.coherent.filterable?_eq known, noOwn, Option.none_or]
    exact ih

/-- The known names are those that were registered. -/
theorem knows_iff (recorded : Recorded log registry) :
    registry.knows name = true ↔ Registered log name := by
  rw [Registry.knows, Option.isSome_iff_exists]
  constructor
  · rintro ⟨record, found⟩
    obtain ⟨columns, registered, -⟩ := recorded.registered found
    exact ⟨columns, record.parent, registered⟩
  · rintro ⟨columns, parent, registered⟩
    exact ⟨_, recorded.record registered⟩

end Recorded

end AttributeFilter
