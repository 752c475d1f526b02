/-
**Calls on a registry.**

A registry comes about by calls that register record types and declare what they may be filtered by.
A call is accepted, refused with an error, or has no effect because the name is taken or there is a
declaration already.

* `Registry.run` — the registry after a sequence of calls.
* `Registry.accepted` — the calls of the sequence that were accepted, in order.
* **`Registry.step`** — all that one call can do, with the conditions under which it does it.
* `Registry.run_induction` — what every call keeps, every sequence of calls keeps.
-/

import AttributeFilter.Registry.Basic

namespace AttributeFilter

/-- One call on a registry, with its arguments as they are given. -/
inductive Call
  | register (name : String) (columns : List String) (parent : Option String)
  | declare (name : String) (attributes : List String)
deriving Repr, DecidableEq

namespace Registry

/-! ### Calls and sequences of calls -/

/-- The answer of a call, and the registry that it leaves. -/
def perform (registry : Registry) : Call → Except FilterError Bool × Registry
  | .register name columns parent => registry.register (.ofColumns name columns parent)
  | .declare name attributes => registry.declare name attributes

/-- The answer of a call. -/
def answer (registry : Registry) (call : Call) : Except FilterError Bool :=
  (registry.perform call).1

/-- Whether a call is accepted. -/
def accepts (registry : Registry) (call : Call) : Bool :=
  match registry.answer call with
  | .ok accepted => accepted
  | .error _ => false

/-- The registry after a call. -/
def after (registry : Registry) (call : Call) : Registry := (registry.perform call).2

/-- The registry after a sequence of calls. -/
def run (registry : Registry) (calls : List Call) : Registry := calls.foldl after registry

/-- A call, if it is accepted. -/
def log (registry : Registry) (call : Call) : List Call :=
  if registry.accepts call then [call] else []

/-- The calls of a sequence that are accepted, in order. -/
def accepted (registry : Registry) : List Call → List Call
  | [] => []
  | call :: rest => registry.log call ++ (registry.after call).accepted rest

theorem run_cons (registry : Registry) (call : Call) (rest : List Call) :
    registry.run (call :: rest) = (registry.after call).run rest := rfl

/-! ### What one call can do -/

/-- The registry with one more record type. -/
def withRecord (registry : Registry) (record : RecordType) : Registry :=
  { registry with records := record :: registry.records }

/-- The registry with one more declaration. -/
def withDeclaration (registry : Registry) (name : String) (attributes : List String) : Registry :=
  { registry with
    declarations := (name, AttributeSet.ofList attributes) :: registry.declarations }

/-- The effect of a call: nothing, where it is not accepted; one more record type, of a new name and
below a known parent; or one more declaration, on a known record type without any in force. -/
inductive Step (registry : Registry) : Call → Bool → Registry → Prop
  | kept (call : Call) : Step registry call false registry
  | registered {name : String} {parent : Option String} (columns : List String) :
      registry.record? name = none →
      (∀ above, parent = some above → registry.knows above = true) →
      Step registry (.register name columns parent) true
        (registry.withRecord (.ofColumns name columns parent))
  | declared {name : String} (attributes : List String) :
      registry.knows name = true → registry.hasFilter name = false →
      Step registry (.declare name attributes) true (registry.withDeclaration name attributes)

/-- **Every call has one of these effects**, the last two exactly where it is accepted. -/
theorem step (registry : Registry) (call : Call) :
    registry.Step call (registry.accepts call) (registry.after call) := by
  cases call with
  | register name columns parent =>
    unfold accepts after answer
    rw [perform, register]
    cases missing : registry.unknownParent? (.ofColumns name columns parent) with
    | some above => exact .kept _
    | none =>
      cases taken : registry.knows name with
      | true =>
        rw [show registry.knows (RecordType.ofColumns name columns parent).name = true from taken]
        exact .kept _
      | false =>
        rw [show registry.knows (RecordType.ofColumns name columns parent).name = false from taken]
        refine .registered columns (by simpa [knows] using taken) ?_
        rintro above rfl
        simpa [unknownParent?, RecordType.ofColumns, Option.filter] using missing
  | declare name attributes =>
    unfold accepts after answer
    rw [perform, declare]
    cases known : registry.knows name with
    | false => exact .kept _
    | true =>
      cases inForce : registry.hasFilter name with
      | true => exact .kept _
      | false => exact .declared attributes known inForce

/-- A call that is not accepted changes nothing. -/
theorem Step.eq_of_kept {registry changed : Registry} {call : Call}
    (effect : registry.Step call false changed) : changed = registry := by
  cases effect
  rfl

/-- **What every call keeps, every sequence of calls keeps.** The property may speak of the calls
accepted so far. -/
theorem run_induction {motive : List Call → Registry → Prop}
    (each : ∀ log registry, motive log registry → ∀ call,
      motive (log ++ registry.log call) (registry.after call))
    (log : List Call) {registry : Registry} (start : motive log registry) (calls : List Call) :
    motive (log ++ registry.accepted calls) (registry.run calls) := by
  induction calls generalizing log registry with
  | nil => simpa [accepted, run] using start
  | cons call rest ih =>
    rw [accepted, run_cons, ← List.append_assoc]
    exact ih _ (each log registry start call)

/-- No call changes the settings. -/
theorem Step.settings {registry changed : Registry} {call : Call} {accepted : Bool}
    (effect : registry.Step call accepted changed) : changed.settings = registry.settings := by
  cases effect <;> rfl

theorem settings_run (settings : Settings) (calls : List Call) :
    ((empty settings).run calls).settings = settings :=
  run_induction (motive := fun _ registry => registry.settings = settings)
    (fun _ registry same call => (registry.step call).settings.trans same) [] rfl calls

/-! ### Looking up after a call -/

section

variable (registry : Registry) (record : RecordType) (name : String) (attributes : List String)

theorem record?_withRecord :
    (registry.withRecord record).record? name =
      if record.name = name then some record else registry.record? name := rfl

theorem declared?_withRecord :
    (registry.withRecord record).declared? name = registry.declared? name := rfl

theorem record?_withDeclaration (other : String) :
    (registry.withDeclaration other attributes).record? name = registry.record? name := rfl

theorem lineage_withDeclaration (other : String) :
    (registry.withDeclaration other attributes).lineage name = registry.lineage name := rfl

theorem declared?_withDeclaration (other : String) :
    (registry.withDeclaration other attributes).declared? name =
      if name = other then some (.ofList attributes) else registry.declared? name := by
  unfold declared? withDeclaration
  rw [List.lookup_cons]
  by_cases same : name = other
  · simp [same]
  · simp [same, beq_eq_false_iff_ne.mpr same]

end

end Registry

end AttributeFilter
