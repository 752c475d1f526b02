/-
**Schemas and whitelists are permanent.**

Once a record type is known, later calls change neither its lineage nor its columns, and once it has
a declaration in force, they change nothing that is let through for it. The declaration in force is
found anew at every look-up, as the nearest one in the lineage; it stays the same because a
declaration is accepted only where none is in force, so never between a record type and the ancestor
whose declaration it goes by.

* `Registry.Step.keeps` — what one call keeps of a known record type.
* `Registry.keeps_run` — so does every sequence of calls.
* `Registry.declarations_in_order` — no declaration is accepted below an earlier one.
* **`Registry.permanence`** — all that stays, with what a new record type inherits.
-/

import AttributeFilter.Proofs.Registry.Answer
import AttributeFilter.Proofs.Registry.History

namespace AttributeFilter

namespace Registry

/-! ### What one call keeps -/

/-- What a registry knows of a record type is still there, and so is a declaration in force. -/
structure Keeps (before later : Registry) (name : String) : Prop where
  settings : later.settings = before.settings
  knows : later.knows name = true
  lineage : later.lineage name = before.lineage name
  filterable? : before.hasFilter name = true → later.filterable? name = before.filterable? name

theorem Keeps.refl {registry : Registry} {name : String} (known : registry.knows name = true) :
    registry.Keeps registry name := ⟨rfl, known, rfl, fun _ => rfl⟩

theorem Keeps.trans {first second third : Registry} {name : String}
    (earlier : first.Keeps second name) (later : second.Keeps third name) :
    first.Keeps third name := by
  refine ⟨later.settings.trans earlier.settings, later.knows,
    later.lineage.trans earlier.lineage, fun inForce => ?_⟩
  have same := earlier.filterable? inForce
  have stillInForce : second.hasFilter name = true := by rwa [hasFilter, same]
  exact (later.filterable? stillInForce).trans same

/-- A new record type is in no lineage that was there before it. -/
theorem keeps_withRecord {registry : Registry} {record : RecordType} {name : String}
    (fresh : registry.record? record.name = none) (known : registry.knows name = true) :
    registry.Keeps (registry.withRecord record) name := by
  have walks : (registry.withRecord record).lineage name = registry.lineage name :=
    lineageIn_cons fresh known
  refine ⟨rfl, ?_, walks, fun _ => ?_⟩
  · rw [knows, record?_withRecord, if_neg (ne_of_findRecord? fresh known)]
    exact known
  · rw [filterable?, filterable?, walks]
    rfl

/-- **A new declaration does not come between** a record type and the declaration it goes by: it
would be made below that declaration, where it is not accepted. -/
theorem Coherent.filterable?_withDeclaration {registry : Registry} {name other : String}
    (coherent : registry.Coherent) {attributes : List String}
    (known : registry.knows other = true) (free : registry.hasFilter other = false)
    (inForce : registry.hasFilter name = true) :
    (registry.withDeclaration other attributes).filterable? name = registry.filterable? name := by
  have coherent' := (Step.declared attributes known free).coherent coherent
  -- Nothing is in force for `other`, so the walk from `name` ends before it gets there.
  induction name using coherent.walk with
  | unknown name unknown =>
    simp [hasFilter, Coherent.filterable?_of_unknown unknown] at inForce
  | known name record found ih =>
    have different : name ≠ other := by
      rintro rfl
      simp [free] at inForce
    rw [hasFilter, coherent.filterable?_eq found] at inForce
    rw [coherent'.filterable?_eq found, coherent.filterable?_eq found, declared?_withDeclaration,
      if_neg different]
    cases own : registry.declared? name with
    | some set => rfl
    | none =>
      cases above : record.parent with
      | none => rfl
      | some parent =>
        rw [own, above] at inForce
        exact ih parent above inForce

/-- **Every call keeps what is known of a record type.** -/
theorem Step.keeps {registry changed : Registry} {call : Call} {accepted : Bool} {name : String}
    (effect : registry.Step call accepted changed) (coherent : registry.Coherent)
    (known : registry.knows name = true) : registry.Keeps changed name := by
  cases effect with
  | kept => exact .refl known
  | registered columns fresh above => exact keeps_withRecord fresh known
  | declared attributes knownOther free =>
    exact ⟨rfl, known, rfl, coherent.filterable?_withDeclaration knownOther free⟩

/-- **So does every sequence of calls.** -/
theorem keeps_run {registry : Registry} {name : String} (coherent : registry.Coherent)
    (known : registry.knows name = true) (calls : List Call) :
    registry.Keeps (registry.run calls) name := by
  induction calls generalizing registry with
  | nil => exact .refl known
  | cons call rest ih =>
    have first := (registry.step call).keeps coherent known
    exact first.trans (ih ((registry.step call).coherent coherent) first.knows)

/-! ### What is kept decides what is let through -/

namespace Keeps

variable {before later : Registry} {name : String}

theorem hasColumn (kept : before.Keeps later name) (column : String) :
    later.hasColumn name column = before.hasColumn name column := by
  rw [Registry.hasColumn, Registry.hasColumn, kept.lineage]

theorem guardAccess (kept : before.Keeps later name) (inForce : before.hasFilter name = true)
    (column : String) : later.guardAccess name column = before.guardAccess name column := by
  rw [Registry.guardAccess, Registry.guardAccess, isWhitelisted, isWhitelisted, kept.hasColumn,
    kept.filterable? inForce]

/-- Without a declaration in force, only columns that are not real pass, and they stay so. -/
theorem guardAccess_ok (kept : before.Keeps later name) {column : String}
    (passed : before.guardAccess name column = .ok ()) :
    later.guardAccess name column = .ok () := by
  cases inForce : before.hasFilter name with
  | true => rw [kept.guardAccess inForce, passed]
  | false =>
    obtain ⟨plain, listed⟩ := guardAccess_eq_ok_iff.mp passed
    refine guardAccess_eq_ok_iff.mpr ⟨plain, fun real => ?_⟩
    rw [kept.hasColumn] at real
    have whitelisted := listed real
    have nothing : before.filterable? name = none := by simpa [hasFilter] using inForce
    simp [isWhitelisted, nothing] at whitelisted

theorem filterBy (kept : before.Keeps later name) (known : before.knows name = true)
    (inForce : before.hasFilter name = true) (criteria : Criteria) :
    later.filterBy name criteria = before.filterBy name criteria :=
  filterBy_congr kept.settings (kept.knows.trans known.symm) (kept.guardAccess inForce) criteria

theorem filterBy_ok (kept : before.Keeps later name) {criteria : Criteria} {scope : Scope}
    (answered : before.filterBy name criteria = .ok scope) :
    later.filterBy name criteria = .ok scope := by
  obtain ⟨-, within, each⟩ := filterBy_eq_ok_iff.mp answered
  rw [← kept.settings] at within each
  exact filterBy_eq_ok_iff.mpr ⟨kept.knows, within,
    each.imp fun _ _ both => ⟨kept.guardAccess_ok both.1, both.2⟩⟩

end Keeps

/-! ### The order of declarations -/

/-- A declaration in the lineage is in force. -/
theorem hasFilter_of_mem_lineage {registry : Registry} {name : String} {record : RecordType}
    {set : AttributeSet} (member : record ∈ registry.lineage name)
    (declared : registry.declared? record.name = some set) : registry.hasFilter name = true := by
  rw [hasFilter, filterable?, List.findSome?_isSome_iff]
  exact ⟨record, member, by simp [declared]⟩

/-- The later call does not declare anything below what the earlier one declares. -/
def NotBelow (registry : Registry) (earlier later : Call) : Prop :=
  ∀ ancestor others descendant own, earlier = .declare ancestor others →
    later = .declare descendant own →
      ∀ record ∈ registry.lineage descendant, record.name ≠ ancestor

/-- Accepted declarations stay in order with every call. -/
theorem notBelow_after {log : List Call} {registry : Registry} (recorded : Recorded log registry)
    (inOrder : log.Pairwise registry.NotBelow) (call : Call) :
    (log ++ registry.log call).Pairwise (registry.after call).NotBelow := by
  have effect := registry.step call
  have earlierPairs : log.Pairwise (registry.after call).NotBelow := by
    -- What was declared is known, so its lineage is the same after the call.
    refine inOrder.imp_of_mem fun {first second} _ inLog apart => ?_
    intro ancestor others descendant own isFirst isSecond
    have known : registry.knows descendant = true :=
      recorded.coherent.knows_of_declared? (recorded.declaration (isSecond ▸ inLog))
    rw [(effect.keeps recorded.coherent known).lineage]
    exact apart ancestor others descendant own isFirst isSecond
  unfold Registry.log
  generalize registry.accepts call = accepted, registry.after call = changed
    at effect earlierPairs ⊢
  cases effect with
  | kept => simpa using earlierPairs
  | registered columns fresh above =>
    refine List.pairwise_append.mpr ⟨earlierPairs, List.pairwise_singleton _ _, ?_⟩
    intro first _ second member ancestor others descendant own _ isSecond
    simp [isSecond] at member
  | @declared name attributes known free =>
    refine List.pairwise_append.mpr ⟨earlierPairs, List.pairwise_singleton _ _, ?_⟩
    rintro first inLog second member ancestor others descendant own rfl rfl record walked rfl
    obtain ⟨rfl, rfl⟩ : descendant = name ∧ own = attributes := by simpa using member
    rw [lineage_withDeclaration] at walked
    have inForce := hasFilter_of_mem_lineage walked (recorded.declaration inLog)
    simp [free] at inForce

/-- **No declaration is accepted below an earlier one.** -/
theorem declarations_in_order (settings : Settings) (calls : List Call) :
    ((empty settings).accepted calls).Pairwise ((empty settings).run calls).NotBelow := by
  have start : Recorded [] (empty settings) := recorded_run settings []
  have both := run_induction
    (motive := fun log registry => Recorded log registry ∧ log.Pairwise registry.NotBelow)
    (fun _ _ before call => ⟨before.1.after call, notBelow_after before.1 before.2 call⟩) []
    ⟨start, List.Pairwise.nil⟩ calls
  exact both.2

/-! ### Everything that stays -/

/-- What is permanent about a record type, between a registry and a later one. -/
structure Permanent (before later : Registry) (name : String) : Prop where
  lineage : later.lineage name = before.lineage name
  hasColumn : ∀ column, later.hasColumn name column = before.hasColumn name column
  filterable? : before.hasFilter name = true → later.filterable? name = before.filterable? name
  guardAccess : before.hasFilter name = true →
    ∀ column, later.guardAccess name column = before.guardAccess name column
  filterBy : before.hasFilter name = true →
    ∀ criteria, later.filterBy name criteria = before.filterBy name criteria
  answered : before.hasFilter name = false → ∀ criteria scope,
    before.filterBy name criteria = .ok scope → later.filterBy name criteria = .ok scope

theorem Keeps.permanent {before later : Registry} {name : String} (kept : before.Keeps later name)
    (known : before.knows name = true) : before.Permanent later name :=
  ⟨kept.lineage, kept.hasColumn, kept.filterable?, kept.guardAccess, kept.filterBy known,
    fun _ _ _ => kept.filterBy_ok⟩

/-- A call is accepted where its answer is positive. -/
theorem accepts_eq_true_iff {registry : Registry} {call : Call} :
    registry.accepts call = true ↔ registry.answer call = .ok true := by
  unfold accepts
  cases registry.answer call with
  | error error => simp
  | ok accepted => simp

/-- A record type with a parent that has a declaration in force goes by that declaration. -/
theorem Step.filterable?_of_parent {registry changed : Registry} {name parent : String}
    {columns : List String} (coherent : registry.Coherent)
    (effect : registry.Step (.register name columns (some parent)) true changed) :
    changed.knows name = true ∧ changed.filterable? name = registry.filterable? parent := by
  have coherent' := effect.coherent coherent
  cases effect with
  | registered _ fresh above =>
    let record := RecordType.ofColumns name columns (some parent)
    have found : (registry.withRecord record).record? name = some record := if_pos rfl
    have kept : registry.Keeps (registry.withRecord record) parent :=
      keeps_withRecord fresh (above parent rfl)
    have walks : (registry.withRecord record).filterable? parent = registry.filterable? parent := by
      rw [filterable?, filterable?, kept.lineage]
      rfl
    refine ⟨by rw [knows, found]; rfl, ?_⟩
    rw [coherent'.filterable?_eq found, declared?_withRecord, coherent.declared name fresh,
      Option.none_or]
    exact walks

/-- **A new record type below a declaration in force goes by it**, and so does its parent, whatever
calls follow. -/
theorem Step.inherits {registry changed : Registry} {name parent : String} {columns : List String}
    (effect : registry.Step (.register name columns (some parent)) true changed)
    (coherent : registry.Coherent) (inForce : registry.hasFilter parent = true)
    (more : List Call) :
    (changed.run more).filterable? name = registry.filterable? parent ∧
      (changed.run more).filterable? parent = registry.filterable? parent := by
  have coherent' := effect.coherent coherent
  obtain ⟨known, joins⟩ := effect.filterable?_of_parent coherent
  have here : changed.hasFilter name = true := by rwa [hasFilter, joins]
  have own := keeps_run coherent' known more
  have first := effect.keeps coherent (Coherent.knows_of_hasFilter inForce)
  have above := first.trans (keeps_run coherent' first.knows more)
  exact ⟨(own.filterable? here).trans joins, above.filterable? inForce⟩

/-- **Of two declarations along a lineage, the one of the descendant was accepted first.** -/
theorem descendant_declared_first {settings : Settings} {calls : List Call} {earlier later : Nat}
    {descendant : String} {own others : List String} {record : RecordType}
    (first : ((empty settings).accepted calls)[earlier]? = some (.declare descendant own))
    (second : ((empty settings).accepted calls)[later]? = some (.declare record.name others))
    (different : descendant ≠ record.name)
    (walked : record ∈ ((empty settings).run calls).lineage descendant) : earlier < later := by
  by_contra notBefore
  obtain ⟨inside, here⟩ := List.getElem?_eq_some_iff.mp first
  obtain ⟨inside', here'⟩ := List.getElem?_eq_some_iff.mp second
  have apart : later ≠ earlier := by
    rintro rfl
    rw [here] at here'
    exact different (by cases here'; rfl)
  have inOrder := List.pairwise_iff_getElem.mp (declarations_in_order settings calls)
    later earlier inside' inside (by omega)
  exact inOrder _ _ _ _ here' here record walked rfl

/-- A call without a positive answer leaves the registry as it was. -/
theorem after_of_refused {registry : Registry} {call : Call}
    (refused : registry.answer call ≠ .ok true) : registry.after call = registry := by
  have effect := registry.step call
  cases accepted : registry.accepts call with
  | true => exact absurd (accepts_eq_true_iff.mp accepted) refused
  | false =>
    rw [accepted] at effect
    exact effect.eq_of_kept

/-- **Schemas and whitelists are permanent.** Of a registry that comes about by calls, and whatever
calls follow: a known record type keeps its lineage and its columns; with a declaration in force it
keeps everything that is let through, and without one it keeps every answer. A new record type below
a declaration in force goes by it from then on. Of two declarations along a lineage, the one of the
descendant was accepted first. A call that is not accepted changes nothing. -/
theorem permanence (settings : Settings) (calls more : List Call) :
    let before := (empty settings).run calls
    (∀ name, before.knows name = true → before.Permanent (before.run more) name) ∧
    (∀ name columns parent, before.hasFilter parent = true →
      before.answer (.register name columns (some parent)) = .ok true →
        let joined := (before.after (.register name columns (some parent))).run more
        joined.filterable? name = before.filterable? parent ∧
          joined.filterable? parent = before.filterable? parent) ∧
    (∀ (earlier later : Nat) descendant own ancestor others,
      ((empty settings).accepted calls)[earlier]? = some (.declare descendant own) →
        ((empty settings).accepted calls)[later]? = some (.declare ancestor others) →
          descendant ≠ ancestor →
            (∃ record ∈ before.lineage descendant, record.name = ancestor) → earlier < later) ∧
    ∀ call, before.answer call ≠ .ok true → before.after call = before := by
  intro before
  have coherent : before.Coherent := coherent_run settings calls
  refine ⟨?_, ?_, ?_, fun _ => after_of_refused⟩
  · intro name known
    exact (keeps_run coherent known more).permanent known
  · intro name columns parent inForce accepted
    have effect := before.step (.register name columns (some parent))
    rw [accepts_eq_true_iff.mpr accepted] at effect
    exact effect.inherits coherent inForce more
  · rintro earlier later descendant own ancestor others first second different ⟨record, walked, rfl⟩
    exact descendant_declared_first first second different walked

/-- Employees are declared before the people they descend from. -/
def declaring : List Call := [
  .register "Person" ["name"] none,
  .register "Employee" ["salary"] (some "Person"),
  .declare "Employee" ["salary"],
  .declare "Person" ["name"]]

/-- Managers join the employees, and declarations are tried again. -/
def joining : List Call := [
  .register "Manager" ["bonus"] (some "Employee"),
  .declare "Manager" ["bonus"],
  .declare "Employee" ["name"]]

theorem permanence_declaring :
    let before := (empty .default).run declaring
    (before.knows "Employee" = true ∧ before.Permanent (before.run joining) "Employee") ∧
    (before.hasFilter "Employee" = true ∧
      before.answer (.register "Clerk" [] (some "Employee")) = .ok true ∧
      ((before.after (.register "Clerk" [] (some "Employee"))).run joining).filterable? "Clerk" =
        before.filterable? "Employee") ∧
    2 < 3 ∧
    before.answer (.declare "Manager" []) ≠ .ok true ∧
    before.after (.declare "Manager" []) = before := by
  intro before
  obtain ⟨permanent, inherits, inOrder, unchanged⟩ := permanence .default declaring joining
  have known : before.knows "Employee" = true := by decide +kernel
  have inForce : before.hasFilter "Employee" = true := by decide +kernel
  have accepted : before.answer (.register "Clerk" [] (some "Employee")) = .ok true := by
    decide +kernel
  have refused : before.answer (.declare "Manager" []) ≠ .ok true := by decide +kernel
  refine ⟨⟨known, permanent "Employee" known⟩,
    ⟨inForce, accepted, (inherits "Clerk" [] "Employee" inForce accepted).1⟩,
    inOrder 2 3 "Employee" ["salary"] "Person" ["name"] ?_ ?_ (by decide) ?_,
    refused, unchanged _ refused⟩
  · decide +kernel
  · decide +kernel
  · exact ⟨.ofColumns "Person" ["name"] none, by decide +kernel, rfl⟩

end Registry

end AttributeFilter
