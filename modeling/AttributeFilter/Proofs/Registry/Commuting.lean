/-
**The order of independent calls.**

Record types and declarations may come from several places, in any order. Two calls are independent
when they are about different record types, neither of which the other hangs on; what one of them
reads, the other does not write. So each gives the same answer before and after the other, and both
orders lead to the same tables. Tables that hold the same answer alike from then on.

* `SameTables` — two registries hold the same settings, record types and declarations.
* `SameTables.run`, `SameTables.answer`, `SameTables.filterBy` — nothing tells them apart, whatever
  calls follow.
* `Independent` — two calls do not hang on each other, by the calls accepted so far.
* `Step.answer_eq` — an independent call does not change an answer.
* **`Registry.independent_calls`** — the order of independent calls does not matter.
-/

import AttributeFilter.Proofs.Registry.Permanence

namespace AttributeFilter

namespace Registry

/-! ### What an answer depends on -/

section

variable {registry other : Registry} {name : String}

/-- Whether a record type is added depends on whether its name and its parent are known. -/
theorem answer_register_congr {parent : Option String}
    (sameName : other.knows name = registry.knows name)
    (sameParent : ∀ above, parent = some above → other.knows above = registry.knows above)
    (columns : List String) :
    other.answer (.register name columns parent) =
      registry.answer (.register name columns parent) := by
  have missing : other.unknownParent? (.ofColumns name columns parent) =
      registry.unknownParent? (.ofColumns name columns parent) := by
    cases parent with
    | none => rfl
    | some above => simp [unknownParent?, RecordType.ofColumns, Option.filter, sameParent above rfl]
  have sameName' : other.knows (RecordType.ofColumns name columns parent).name =
      registry.knows (RecordType.ofColumns name columns parent).name := sameName
  simp only [answer, perform, register, missing, sameName']
  cases registry.unknownParent? (.ofColumns name columns parent) with
  | some above => rfl
  | none => cases registry.knows (RecordType.ofColumns name columns parent).name <;> rfl

/-- Whether a declaration is in force depends on whether its record type is known, and has one in
force already. -/
theorem answer_declare_congr (sameName : other.knows name = registry.knows name)
    (inForce : other.hasFilter name = registry.hasFilter name) (attributes : List String) :
    other.answer (.declare name attributes) = registry.answer (.declare name attributes) := by
  simp only [answer, perform, declare, sameName, inForce]
  cases registry.knows name with
  | false => rfl
  | true => cases registry.hasFilter name <;> rfl

end

/-- The registry with what a call writes, if it is accepted. -/
def written (registry : Registry) : Call → Registry
  | .register name columns parent => registry.withRecord (.ofColumns name columns parent)
  | .declare name attributes => registry.withDeclaration name attributes

/-- **A call writes or does nothing**, by its answer. -/
theorem after_eq (registry : Registry) (call : Call) :
    registry.after call = if registry.accepts call then registry.written call else registry := by
  have effect := registry.step call
  generalize registry.accepts call = accepted, registry.after call = changed at effect ⊢
  cases effect with
  | kept => rfl
  | registered => rfl
  | declared => rfl

theorem accepts_congr {registry other : Registry} {call : Call}
    (same : other.answer call = registry.answer call) :
    other.accepts call = registry.accepts call := by
  rw [accepts, accepts, same]

/-! ### The same tables -/

/-- Both registries hold the same settings, record types and declarations, in whatever order they
were made. -/
structure SameTables (first second : Registry) : Prop where
  settings : first.settings = second.settings
  record? : ∀ name, first.record? name = second.record? name
  declared? : ∀ name, first.declared? name = second.declared? name

namespace SameTables

theorem refl (registry : Registry) : registry.SameTables registry :=
  ⟨rfl, fun _ => rfl, fun _ => rfl⟩

variable {first second : Registry} (same : first.SameTables second)

include same

theorem knows (name : String) : first.knows name = second.knows name := by
  rw [Registry.knows, Registry.knows, same.record?]

/-- The same is written to both. -/
theorem written (call : Call) : (first.written call).SameTables (second.written call) := by
  cases call with
  | register name columns parent =>
    refine ⟨same.settings, fun other => ?_, same.declared?⟩
    rw [Registry.written, Registry.written, record?_withRecord, record?_withRecord, same.record?]
  | declare name attributes =>
    refine ⟨same.settings, same.record?, fun other => ?_⟩
    rw [Registry.written, Registry.written, declared?_withDeclaration, declared?_withDeclaration,
      same.declared?]

variable (coherent : first.Coherent) (coherent' : second.Coherent)

include coherent coherent'

/-- **Lineages are the same**: they can be followed in the tables. -/
theorem lineage (name : String) : first.lineage name = second.lineage name := by
  induction name using coherent.walk with
  | unknown name unknown =>
    rw [Coherent.lineage_of_unknown unknown,
      Coherent.lineage_of_unknown ((same.record? name).symm.trans unknown)]
  | known name record found ih =>
    rw [coherent.lineage_eq found, coherent'.lineage_eq ((same.record? name).symm.trans found)]
    cases above : record.parent with
    | none => rfl
    | some parent => simp [ih parent above]

theorem filterable? (name : String) : first.filterable? name = second.filterable? name := by
  rw [Registry.filterable?, Registry.filterable?, same.lineage coherent coherent']
  simp only [same.declared?]

theorem hasFilter (name : String) : first.hasFilter name = second.hasFilter name := by
  rw [Registry.hasFilter, Registry.hasFilter, same.filterable? coherent coherent']

/-- **The guard lets through the same.** -/
theorem guardAccess (name column : String) :
    first.guardAccess name column = second.guardAccess name column := by
  have real : first.hasColumn name column = second.hasColumn name column := by
    rw [hasColumn, hasColumn, same.lineage coherent coherent']
  rw [Registry.guardAccess, Registry.guardAccess, isWhitelisted, isWhitelisted, real,
    same.filterable? coherent coherent']

/-- **The same requests are answered alike.** -/
theorem filterBy (name : String) (criteria : Criteria) :
    first.filterBy name criteria = second.filterBy name criteria :=
  filterBy_congr same.settings (same.knows name)
    (same.guardAccess coherent coherent' name) criteria

/-- **The same calls are answered alike.** -/
theorem answer (call : Call) : first.answer call = second.answer call := by
  cases call with
  | register name columns parent =>
    exact answer_register_congr (same.knows name) (fun above _ => same.knows above) columns
  | declare name attributes =>
    exact answer_declare_congr (same.knows name) (same.hasFilter coherent coherent' name) attributes

/-- Every call leaves the tables the same, -/
theorem after (call : Call) : (first.after call).SameTables (second.after call) := by
  rw [after_eq, after_eq, accepts_congr (same.answer coherent coherent' call)]
  split
  · exact same.written call
  · exact same

/-- and so does every sequence of calls. -/
theorem run (calls : List Call) : (first.run calls).SameTables (second.run calls) := by
  induction calls generalizing first second with
  | nil => exact same
  | cons call rest ih =>
    exact ih (same.after coherent coherent' call) ((first.step call).coherent coherent)
      ((second.step call).coherent coherent')

end SameTables

/-! ### Independent calls -/

/-- The calls do not hang on each other, by the calls accepted so far: they are about different
record types, no new record type is the parent of the other, and no declaration is made on an
ancestor of the record type of the other. -/
inductive Independent (log : List Call) : Call → Call → Prop
  | registrations {name other : String} {parent above : Option String}
      (columns others : List String) : name ≠ other → above ≠ some name → parent ≠ some other →
      Independent log (.register name columns parent) (.register other others above)
  | declarations {name other : String} (attributes others : List String) : name ≠ other →
      ¬ Descends log name other → ¬ Descends log other name →
      Independent log (.declare name attributes) (.declare other others)
  | registerDeclare {name other : String} (columns : List String) (parent : Option String)
      (attributes : List String) : name ≠ other →
      Independent log (.register name columns parent) (.declare other attributes)
  | declareRegister {name other : String} (attributes columns : List String)
      (parent : Option String) : name ≠ other →
      Independent log (.declare name attributes) (.register other columns parent)

theorem Independent.symm {log : List Call} {first second : Call}
    (apart : Independent log first second) : Independent log second first := by
  cases apart with
  | registrations columns others different above parent =>
    exact .registrations _ _ different.symm parent above
  | declarations attributes others different below above =>
    exact .declarations _ _ different.symm above below
  | registerDeclare columns parent attributes different =>
    exact .declareRegister _ _ _ different.symm
  | declareRegister attributes columns parent different =>
    exact .registerDeclare _ _ _ different.symm

end Registry

/-- The record types of a lineage are ancestors. -/
theorem Recorded.descends {log : List Call} {registry : Registry} (recorded : Recorded log registry)
    (name : String) : ∀ record ∈ registry.lineage name, Descends log name record.name := by
  induction name using recorded.coherent.walk with
  | unknown name unknown => simp [Registry.Coherent.lineage_of_unknown unknown]
  | known name record found ih =>
    rw [recorded.coherent.lineage_eq found, List.forall_mem_cons,
      Registry.name_of_findRecord? found]
    refine ⟨.self name, ?_⟩
    cases above : record.parent with
    | none => exact fun _ inside => nomatch inside
    | some parent =>
      obtain ⟨columns, registered, -⟩ := recorded.registered found
      exact fun ancestor member => .above (above ▸ registered) (ih parent above ancestor member)

namespace Registry

/-! ### An independent call changes no answer -/

section

variable {registry : Registry} {name : String}

theorem knows_withRecord {record : RecordType} (different : name ≠ record.name) :
    (registry.withRecord record).knows name = registry.knows name := by
  rw [knows, record?_withRecord, if_neg different.symm]
  rfl

/-- A new record type brings nothing in force for another. -/
theorem hasFilter_withRecord {record : RecordType} (fresh : registry.record? record.name = none)
    (different : name ≠ record.name) :
    (registry.withRecord record).hasFilter name = registry.hasFilter name := by
  have walks : (registry.withRecord record).lineage name = registry.lineage name := by
    cases found : registry.record? name with
    | some known => exact lineageIn_cons fresh (Option.isSome_of_eq_some found)
    | none =>
      have unknown : (registry.withRecord record).record? name = none := by
        rw [record?_withRecord, if_neg different.symm, found]
      rw [Coherent.lineage_of_unknown unknown, Coherent.lineage_of_unknown found]
  rw [hasFilter, filterable?, walks]
  rfl

/-- Nor does a declaration on a record type outside its lineage. -/
theorem hasFilter_withDeclaration {other : String} {attributes : List String}
    (outside : ∀ record ∈ registry.lineage name, record.name ≠ other) :
    (registry.withDeclaration other attributes).hasFilter name = registry.hasFilter name := by
  have found : (registry.withDeclaration other attributes).filterable? name =
      registry.filterable? name := by
    rw [filterable?, filterable?, lineage_withDeclaration]
    generalize registry.lineage name = lineage at outside ⊢
    induction lineage with
    | nil => rfl
    | cons record above ih =>
      obtain ⟨here, onward⟩ := List.forall_mem_cons.mp outside
      rw [List.findSome?_cons, List.findSome?_cons, declared?_withDeclaration, if_neg here,
        ih onward]
  rw [hasFilter, hasFilter, found]

end

/-- **An independent call changes no answer**: what it writes is not read for the other. -/
theorem Step.answer_eq {log : List Call} {registry changed : Registry} {first second : Call}
    {accepted : Bool} (effect : registry.Step second accepted changed)
    (recorded : Recorded log registry) (apart : Independent log first second) :
    changed.answer first = registry.answer first := by
  cases effect with
  | kept => rfl
  | registered _ fresh =>
    cases apart with
    | registrations columns _ different _ parent =>
      refine answer_register_congr (knows_withRecord different) (fun above here => ?_) columns
      exact knows_withRecord fun same => parent (here.trans (congrArg some same))
    | declareRegister attributes _ _ different =>
      exact answer_declare_congr (knows_withRecord different)
        (hasFilter_withRecord fresh different) attributes
  | declared =>
    cases apart with
    | registerDeclare columns _ _ _ =>
      refine answer_register_congr ?_ (fun _ _ => ?_) columns <;> rfl
    | declarations attributes _ _ below _ =>
      refine answer_declare_congr ?_ (hasFilter_withDeclaration fun record member => ?_) attributes
      · rfl
      rintro rfl
      exact below (recorded.descends _ record member)

/-- What independent calls write may be written in either order. -/
theorem Independent.written_comm {log : List Call} {first second : Call}
    (apart : Independent log first second) (registry : Registry) :
    ((registry.written first).written second).SameTables
      ((registry.written second).written first) := by
  cases apart with
  | registrations _ _ different =>
    refine ⟨rfl, fun asked => ?_, fun _ => rfl⟩
    simp only [written, record?_withRecord]
    exact ite_ite_comm _ _ _ _ fun here there => different (there.trans here.symm)
  | declarations _ _ different =>
    refine ⟨rfl, fun _ => rfl, fun asked => ?_⟩
    simp only [written, declared?_withDeclaration]
    exact ite_ite_comm _ _ _ _ fun here there => different (there.symm.trans here)
  | registerDeclare => exact .refl _
  | declareRegister => exact .refl _

/-- **The order of independent calls does not matter.** In every registry that comes about by calls,
each of the two gives the same answer before and after the other, be it a failure, no effect or
acceptance, and both orders lead to the same tables. From then on nothing tells the two orders
apart: whatever calls follow, all calls and all requests are answered alike. -/
theorem independent_calls (settings : Settings) (calls : List Call) {first second : Call}
    (apart : Independent ((empty settings).accepted calls) first second) :
    let registry := (empty settings).run calls
    let forwards := (registry.after first).after second
    let backwards := (registry.after second).after first
    (registry.after second).answer first = registry.answer first ∧
    (registry.after first).answer second = registry.answer second ∧
    forwards.SameTables backwards ∧
    ∀ more,
      (∀ call, (forwards.run more).answer call = (backwards.run more).answer call) ∧
      ∀ name criteria,
        (forwards.run more).filterBy name criteria = (backwards.run more).filterBy name criteria := by
  intro registry forwards backwards
  have recorded : Recorded ((empty settings).accepted calls) registry := recorded_run settings calls
  have firstStays := (registry.step second).answer_eq recorded apart
  have secondStays := (registry.step first).answer_eq recorded apart.symm
  have same : forwards.SameTables backwards := by
    -- Each call writes in both orders or in neither.
    have firstAgain := accepts_congr firstStays
    have secondAgain := accepts_congr secondStays
    simp only [forwards, backwards]
    rw [after_eq (registry.after first), after_eq (registry.after second), firstAgain, secondAgain,
      after_eq registry first, after_eq registry second]
    cases registry.accepts first <;> cases registry.accepts second
    · exact .refl _
    · exact .refl _
    · exact .refl _
    · exact apart.written_comm registry
  have coherent (call next : Call) : ((registry.after call).after next).Coherent :=
    recorded.coherent.run [call, next]
  refine ⟨firstStays, secondStays, same, fun more => ?_⟩
  have later := same.run (coherent first second) (coherent second first) more
  have coherentForwards := (coherent first second).run more
  have coherentBackwards := (coherent second first).run more
  exact ⟨later.answer coherentForwards coherentBackwards,
    later.filterBy coherentForwards coherentBackwards⟩

/-- Two record types below a third. -/
def branches : List Call := [
  .register "Person" ["name"] none,
  .register "Employee" ["salary"] (some "Person"),
  .register "Customer" ["rating"] (some "Person")]

/-- A declaration on the one, -/
def declareEmployee : Call := .declare "Employee" ["salary"]

/-- one on the other, -/
def declareCustomer : Call := .declare "Customer" ["rating"]

/-- and a new record type below the one. -/
def registerManager : Call := .register "Manager" ["bonus"] (some "Employee")

/-- In the two branches there is nothing above a record type but the root. -/
theorem eq_or_eq_of_descends_branches {name ancestor : String}
    (descends : Descends branches name ancestor) : ancestor = name ∨ ancestor = "Person" := by
  induction descends with
  | self => exact .inl rfl
  | above registered _ ih =>
    have parents : ∀ call ∈ branches, ∀ name columns parent,
        call = .register name columns (some parent) → parent = "Person" := by
      simp [branches]
    rw [parents _ registered _ _ _ rfl, or_self] at ih
    exact .inr ih

theorem independent_calls_branches :
    let registry := (empty .default).run branches
    (Independent ((empty .default).accepted branches) declareEmployee declareCustomer ∧
      (registry.after declareCustomer).answer declareEmployee = registry.answer declareEmployee ∧
      registry.answer declareEmployee = .ok true ∧
      ((registry.after declareEmployee).after declareCustomer).SameTables
        ((registry.after declareCustomer).after declareEmployee)) ∧
    Independent ((empty .default).accepted branches) registerManager declareEmployee ∧
      (registry.after declareEmployee).answer registerManager = registry.answer registerManager ∧
      registry.answer registerManager = .ok true := by
  intro registry
  have logged : (empty .default).accepted branches = branches := by decide +kernel
  have siblings : Independent ((empty .default).accepted branches) declareEmployee
      declareCustomer := by
    rw [logged]
    refine .declarations _ _ (by decide) (fun above => ?_) (fun above => ?_)
    · exact absurd (eq_or_eq_of_descends_branches above) (by decide)
    · exact absurd (eq_or_eq_of_descends_branches above) (by decide)
  have below : Independent ((empty .default).accepted branches) registerManager declareEmployee :=
    .registerDeclare _ _ _ (by decide)
  obtain ⟨stays, -, same, -⟩ := independent_calls .default branches siblings
  exact ⟨⟨siblings, stays, by decide +kernel, same⟩, below,
    (independent_calls .default branches below).1, by decide +kernel⟩

end Registry

end AttributeFilter
