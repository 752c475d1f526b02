/-
**Overriding settings by variables.**

Three settings can be overridden, each by a variable of its own. A variable that is set overrides
its setting by the value that its text spells, and leaves the others alone. The first text that
spells none ends the overriding, with the settings as they were overridden before it.

* `Setting` — what can be overridden, with the variable that does it and the texts it is read from.
* `Settings.Overridden` — the settings after overriding some of them, each looked at on its own.
* `Settings.overrideAll_eq_fault_iff` — the fault is that of the first variable that cannot be read.
* **`Settings.applyOverrides_eq_iff`** — overriding succeeds with the settings overridden.
* **`Settings.applyOverrides_eq_fault_iff`** — it fails with those before the fault overridden.
-/

import AttributeFilter.Config.Environment
import AttributeFilter.Proofs.Config.Spelling

namespace AttributeFilter

/-- A setting that a variable overrides. -/
inductive Setting
  | maxCriteria
  | emptyPolicy
  | escapeLike
deriving DecidableEq

namespace Setting

/-- The settings in the order in which they are overridden. -/
def order : List Setting := [.maxCriteria, .emptyPolicy, .escapeLike]

/-- The variable that overrides a setting. -/
def variableName : Setting → String
  | .maxCriteria => Variable.maxCriteria
  | .emptyPolicy => Variable.emptyPolicy
  | .escapeLike => Variable.escapeLike

/-- What a setting is given by. -/
abbrev Value : Setting → Type
  | .maxCriteria => Nat
  | .emptyPolicy => EmptyPolicy
  | .escapeLike => Bool

/-- **The text spells the value of the setting.** -/
def Reads (text : String) : (setting : Setting) → setting.Value → Prop
  | .maxCriteria, count => ∃ word, words text.toList = [word] ∧ SpellsCount word count
  | .emptyPolicy, policy => Spells text policy.names
  | .escapeLike, value => Spells text (booleanNames value)

/-- The fault that is reported of a text which does not spell a value of the setting. -/
def Reports (text : String) (fault : ConfigFault) : Setting → Prop
  | .maxCriteria => ∃ cause, countOfText text = .error cause ∧
      fault = .badCount Variable.maxCriteria text cause
  | .emptyPolicy => fault = .badPolicy Variable.emptyPolicy (plainWord text)
  | .escapeLike => fault = .badBoolean Variable.escapeLike text

/-- The text spells no value of the setting, which is the fault that is reported. -/
def Refuses (text : String) (fault : ConfigFault) (setting : Setting) : Prop :=
  (∀ value, ¬ Reads text setting value) ∧ Reports text fault setting

/-- A text spells one value at most. -/
theorem reads_unique {text : String} {setting : Setting} {value other : setting.Value}
    (read : Reads text setting value) (readToo : Reads text setting other) : value = other := by
  cases setting with
  | maxCriteria =>
    rw [Reads, ← countOfText_eq_ok_iff] at read readToo
    exact Except.ok.inj (read.symm.trans readToo)
  | emptyPolicy =>
    rw [Reads, ← EmptyPolicy.ofWord?_plainWord_eq_some_iff] at read readToo
    exact Option.some.inj (read.symm.trans readToo)
  | escapeLike =>
    rw [Reads, ← booleanOfText?_eq_some_iff] at read readToo
    exact Option.some.inj (read.symm.trans readToo)

theorem mem_order (setting : Setting) : setting ∈ order := by
  cases setting <;> decide

end Setting

namespace Settings

/-! ### One setting at a time -/

/-- The value of a setting. -/
def get (settings : Settings) : (setting : Setting) → setting.Value
  | .maxCriteria => settings.maxCriteria
  | .emptyPolicy => settings.emptyPolicy
  | .escapeLike => settings.escapeLike

/-- Change a setting. -/
def set (settings : Settings) : (setting : Setting) → setting.Value → Settings
  | .maxCriteria, count => { settings with maxCriteria := count }
  | .emptyPolicy, policy => { settings with emptyPolicy := policy }
  | .escapeLike, value => { settings with escapeLike := value }

@[simp] theorem get_set (settings : Settings) (setting : Setting) (value : setting.Value) :
    (settings.set setting value).get setting = value := by
  cases setting <;> rfl

theorem get_set_of_ne (settings : Settings) {setting other : Setting} (apart : other ≠ setting)
    (value : setting.Value) : (settings.set setting value).get other = settings.get other := by
  cases setting <;> cases other <;> first | rfl | exact absurd rfl apart

@[simp] theorem maxJsonBytes_set (settings : Settings) (setting : Setting) (value : setting.Value) :
    (settings.set setting value).maxJsonBytes = settings.maxJsonBytes := by
  cases setting <;> rfl

/-- Settings are given by those that can be overridden and the one that cannot. -/
theorem eq_of_get_eq {settings other : Settings}
    (same : ∀ setting, settings.get setting = other.get setting)
    (bytes : settings.maxJsonBytes = other.maxJsonBytes) : settings = other := by
  have count : settings.maxCriteria = other.maxCriteria := same .maxCriteria
  have policy : settings.emptyPolicy = other.emptyPolicy := same .emptyPolicy
  have escape : settings.escapeLike = other.escapeLike := same .escapeLike
  cases settings
  cases other
  rw [Settings.mk.injEq]
  exact ⟨count, bytes, policy, escape⟩

/-- The override of a setting. -/
def override : Setting → Override
  | .maxCriteria => ⟨Variable.maxCriteria, overrideMaxCriteria⟩
  | .emptyPolicy => ⟨Variable.emptyPolicy, overrideEmptyPolicy⟩
  | .escapeLike => ⟨Variable.escapeLike, overrideEscapeLike⟩

theorem map_override_order : Setting.order.map override = overrides := rfl

@[simp] theorem override_name (setting : Setting) :
    (override setting).name = setting.variableName := by
  cases setting <;> rfl

/-- **A setting is overridden** by the value that the text spells. -/
theorem override_apply_eq_ok_iff {setting : Setting} {settings changed : Settings} {text : String} :
    (override setting).apply settings text = .ok changed ↔
      ∃ value, Setting.Reads text setting value ∧ changed = settings.set setting value := by
  cases setting with
  | maxCriteria =>
    simp only [override, overrideMaxCriteria, Setting.Reads, ← countOfText_eq_ok_iff]
    cases countOfText text <;> simp [set, eq_comm]
  | emptyPolicy =>
    simp only [override, overrideEmptyPolicy, Setting.Reads,
      ← EmptyPolicy.ofWord?_plainWord_eq_some_iff]
    cases EmptyPolicy.ofWord? (plainWord text) <;> simp [set, eq_comm]
  | escapeLike =>
    simp only [override, overrideEscapeLike, Setting.Reads, ← booleanOfText?_eq_some_iff]
    cases booleanOfText? text <;> simp [set, eq_comm]

/-- **A setting is not overridden** by a text that spells no value. -/
theorem override_apply_eq_error_iff {setting : Setting} {settings : Settings} {text : String}
    {fault : ConfigFault} :
    (override setting).apply settings text = .error fault ↔ Setting.Refuses text fault setting := by
  cases setting with
  | maxCriteria =>
    simp only [override, overrideMaxCriteria, Setting.Refuses, Setting.Reads, Setting.Reports,
      ← countOfText_eq_ok_iff]
    cases countOfText text <;> simp [eq_comm]
  | emptyPolicy =>
    simp only [override, overrideEmptyPolicy, Setting.Refuses, Setting.Reads, Setting.Reports,
      ← EmptyPolicy.ofWord?_plainWord_eq_some_iff]
    cases EmptyPolicy.ofWord? (plainWord text) <;> simp [eq_comm]
  | escapeLike =>
    simp only [override, overrideEscapeLike, Setting.Refuses, Setting.Reads, Setting.Reports,
      ← booleanOfText?_eq_some_iff]
    cases booleanOfText? text <;> simp [eq_comm]

/-! ### Several settings -/

/-- **The settings of the list are overridden**: those whose variables are set have the values that
the texts spell, and everything else is as before. -/
structure Overridden (lookup : String → Option String) (taken : List Setting)
    (settings changed : Settings) : Prop where
  set : ∀ setting ∈ taken, ∀ text, lookup setting.variableName = some text →
    Setting.Reads text setting (changed.get setting)
  unset : ∀ setting, (setting ∈ taken → lookup setting.variableName = none) →
    changed.get setting = settings.get setting
  maxJsonBytes : changed.maxJsonBytes = settings.maxJsonBytes

section

variable {lookup : String → Option String} {setting : Setting} {taken : List Setting}
  {settings changed : Settings}

theorem overridden_nil_iff : Overridden lookup [] settings changed ↔ changed = settings := by
  constructor
  · intro overridden
    exact eq_of_get_eq (fun setting => overridden.unset setting (nomatch ·)) overridden.maxJsonBytes
  · rintro rfl
    exact ⟨nofun, fun _ _ => rfl, rfl⟩

theorem overridden_cons_of_unset (unset : lookup setting.variableName = none) :
    Overridden lookup (setting :: taken) settings changed ↔
      Overridden lookup taken settings changed := by
  constructor
  · intro overridden
    refine ⟨fun other member => overridden.set other (List.mem_cons_of_mem _ member),
      fun other kept => overridden.unset other fun member => ?_, overridden.maxJsonBytes⟩
    rcases List.mem_cons.mp member with rfl | later
    · exact unset
    · exact kept later
  · intro overridden
    refine ⟨fun other member text found => ?_,
      fun other kept => overridden.unset other (kept ∘ List.mem_cons_of_mem _),
      overridden.maxJsonBytes⟩
    rcases List.mem_cons.mp member with rfl | later
    · rw [unset] at found
      cases found
    · exact overridden.set other later text found

/-- The first setting is changed, and then the others are overridden. -/
theorem overridden_cons_of_set {text : String} (found : lookup setting.variableName = some text)
    (once : setting ∉ taken) :
    Overridden lookup (setting :: taken) settings changed ↔
      ∃ value, Setting.Reads text setting value ∧
        Overridden lookup taken (settings.set setting value) changed := by
  constructor
  · intro overridden
    refine ⟨changed.get setting, overridden.set setting List.mem_cons_self text found,
      fun other member => overridden.set other (List.mem_cons_of_mem _ member),
      fun other kept => ?_, by rw [maxJsonBytes_set, overridden.maxJsonBytes]⟩
    by_cases same : other = setting
    · subst same
      rw [get_set]
    · rw [get_set_of_ne _ same]
      exact overridden.unset other fun member => kept (List.mem_of_ne_of_mem same member)
  · rintro ⟨value, read, overridden⟩
    have here : changed.get setting = value := by
      rw [overridden.unset setting fun member => absurd member once, get_set]
    refine ⟨fun other member given shown => ?_, fun other kept => ?_, ?_⟩
    · rcases List.mem_cons.mp member with rfl | later
      · rw [found] at shown
        cases shown
        rwa [here]
      · exact overridden.set other later given shown
    · by_cases same : other = setting
      · subst same
        rw [kept List.mem_cons_self] at found
        cases found
      · rw [overridden.unset other (kept ∘ List.mem_cons_of_mem _), get_set_of_ne _ same]
    · rw [overridden.maxJsonBytes, maxJsonBytes_set]

end

/-! ### Overriding them in order -/

section

variable {lookup : String → Option String} {settings changed : Settings}

section

variable {here : Override}

theorem overrideAll_cons_of_unset (unset : lookup here.name = none) (rest : List Override) :
    overrideAll lookup settings (here :: rest) = overrideAll lookup settings rest := by
  rw [overrideAll, unset]

variable {text : String} (found : lookup here.name = some text)

include found

theorem overrideAll_cons_of_ok {next : Settings} (applied : here.apply settings text = .ok next)
    (rest : List Override) :
    overrideAll lookup settings (here :: rest) = overrideAll lookup next rest := by
  rw [overrideAll, found]
  dsimp only
  rw [applied]

theorem overrideAll_cons_of_error {fault : ConfigFault}
    (refused : here.apply settings text = .error fault) (rest : List Override) :
    overrideAll lookup settings (here :: rest) = (settings, some fault) := by
  rw [overrideAll, found]
  dsimp only
  rw [refused]

end

/-- **Overriding succeeds** with the settings overridden. -/
theorem overrideAll_eq_iff {taken : List Setting} (distinct : taken.Nodup) :
    overrideAll lookup settings (taken.map override) = (changed, none) ↔
      Overridden lookup taken settings changed := by
  induction taken generalizing settings with
  | nil =>
    rw [List.map_nil, overrideAll, overridden_nil_iff, Prod.mk.injEq, and_iff_left rfl, eq_comm]
  | cons setting rest ih =>
    obtain ⟨once, distinct⟩ := List.nodup_cons.mp distinct
    rw [List.map_cons]
    cases found : lookup setting.variableName with
    | none =>
      have named : lookup (override setting).name = none := by rw [override_name, found]
      rw [overrideAll_cons_of_unset named, overridden_cons_of_unset found, ih distinct]
    | some text =>
      have named : lookup (override setting).name = some text := by rw [override_name, found]
      rw [overridden_cons_of_set found once]
      cases applied : (override setting).apply settings text with
      | ok next =>
        obtain ⟨value, read, rfl⟩ := override_apply_eq_ok_iff.mp applied
        rw [overrideAll_cons_of_ok named applied, ih distinct]
        constructor
        · intro overridden
          exact ⟨value, read, overridden⟩
        · rintro ⟨other, readToo, overridden⟩
          rwa [Setting.reads_unique read readToo]
      | error fault =>
        rw [overrideAll_cons_of_error named applied]
        refine iff_of_false (fun stopped => nomatch (Prod.mk.inj stopped).2) ?_
        rintro ⟨value, read, -⟩
        exact (override_apply_eq_error_iff.mp applied).1 value read

/-- Overriding goes on with the others where it does not fail. -/
theorem overrideAll_append {reached : Settings} {first : List Override}
    (through : overrideAll lookup settings first = (reached, none)) (others : List Override) :
    overrideAll lookup settings (first ++ others) = overrideAll lookup reached others := by
  induction first generalizing settings with
  | nil =>
    cases through
    rfl
  | cons here rest ih =>
    rw [List.cons_append]
    cases found : lookup here.name with
    | none =>
      rw [overrideAll_cons_of_unset found] at through ⊢
      exact ih through
    | some text =>
      cases applied : here.apply settings text with
      | ok next =>
        rw [overrideAll_cons_of_ok found applied] at through ⊢
        exact ih through
      | error fault =>
        rw [overrideAll_cons_of_error found applied] at through
        cases through

/-- **The first text that cannot be read ends the overriding**, with the settings that were reached
before it. -/
theorem overrideAll_eq_fault_iff {all : List Override} {fault : ConfigFault} :
    overrideAll lookup settings all = (changed, some fault) ↔
      ∃ before last after text, all = before ++ last :: after ∧
        overrideAll lookup settings before = (changed, none) ∧
        lookup last.name = some text ∧ last.apply changed text = .error fault := by
  constructor
  · intro stopped
    induction all generalizing settings with
    | nil => cases stopped
    | cons here rest ih =>
      -- Where the first override goes through, the fault lies behind it.
      have behind {next : Settings} (goesOn : ∀ others,
          overrideAll lookup settings (here :: others) = overrideAll lookup next others) :
          ∃ before last after text, here :: rest = before ++ last :: after ∧
            overrideAll lookup settings before = (changed, none) ∧
            lookup last.name = some text ∧ last.apply changed text = .error fault := by
        obtain ⟨before, last, after, text, rfl, reached, refused⟩ := ih (goesOn rest ▸ stopped)
        exact ⟨here :: before, last, after, text, rfl, (goesOn before).trans reached, refused⟩
      cases found : lookup here.name with
      | none => exact behind (overrideAll_cons_of_unset found)
      | some text =>
        cases applied : here.apply settings text with
        | ok next => exact behind (overrideAll_cons_of_ok found applied)
        | error fault =>
          rw [overrideAll_cons_of_error found applied] at stopped
          cases stopped
          exact ⟨[], here, rest, text, rfl, rfl, found, applied⟩
  · rintro ⟨before, last, after, text, rfl, reached, found, refused⟩
    rw [overrideAll_append reached, overrideAll_cons_of_error found refused]

/-! ### All settings -/

/-- **Overriding succeeds** with the settings whose variables are set overridden. -/
theorem applyOverrides_eq_iff :
    settings.applyOverrides lookup = (changed, none) ↔
      Overridden lookup Setting.order settings changed := by
  have distinct : Setting.order.Nodup := by decide
  rw [applyOverrides, ← map_override_order, overrideAll_eq_iff distinct]

/-- **Overriding fails** at the first variable that cannot be read, with the settings in front of it
overridden. -/
theorem applyOverrides_eq_fault_iff {fault : ConfigFault} :
    settings.applyOverrides lookup = (changed, some fault) ↔
      ∃ before setting after text, Setting.order = before ++ setting :: after ∧
        Overridden lookup before settings changed ∧
        lookup setting.variableName = some text ∧ Setting.Refuses text fault setting := by
  have distinct : Setting.order.Nodup := by decide
  rw [applyOverrides, ← map_override_order, overrideAll_eq_fault_iff]
  constructor
  · rintro ⟨before, here, after, text, split, reached, found, refused⟩
    obtain ⟨front, back, order, rfl, behind⟩ := List.map_eq_append_iff.mp split
    obtain ⟨setting, later, rfl, rfl, rfl⟩ := List.map_eq_cons_iff.mp behind
    rw [order] at distinct
    exact ⟨front, setting, later, text, order,
      (overrideAll_eq_iff (List.nodup_append.mp distinct).1).mp reached, override_name _ ▸ found,
      override_apply_eq_error_iff.mp refused⟩
  · rintro ⟨before, setting, after, text, order, overridden, found, refused⟩
    rw [order] at distinct
    refine ⟨before.map override, override setting, after.map override, text, ?_,
      (overrideAll_eq_iff (List.nodup_append.mp distinct).1).mpr overridden,
      (override_name _).symm ▸ found, override_apply_eq_error_iff.mpr refused⟩
    rw [order, List.map_append, List.map_cons]

-- The count is taken, the policy is refused, and escaping is not reached any more.
example : applyOverrides .default (Environment.text? [(Variable.maxCriteria, .text "7"),
      (Variable.emptyPolicy, .text " Never"), (Variable.escapeLike, .text "yes")]) =
    ({ Settings.default with maxCriteria := 7 },
      some (.badPolicy Variable.emptyPolicy "never")) := by
  decide +kernel

/-- Every variable that is set can be read. -/
def Readable (lookup : String → Option String) : Prop :=
  ∀ setting text, lookup (Setting.variableName setting) = some text →
    ∃ value, Setting.Reads text setting value

/-- **Overriding succeeds exactly where every variable that is set can be read.** -/
theorem exists_overridden_iff :
    (∃ changed, Overridden lookup Setting.order settings changed) ↔ Readable lookup := by
  constructor
  · rintro ⟨changed, overridden⟩ setting text found
    exact ⟨_, overridden.set setting (Setting.mem_order setting) text found⟩
  · intro readable
    rcases outcome : settings.applyOverrides lookup with ⟨changed, none | fault⟩
    · exact ⟨changed, applyOverrides_eq_iff.mp outcome⟩
    · obtain ⟨-, setting, -, text, -, -, found, unreadable, -⟩ :=
        applyOverrides_eq_fault_iff.mp outcome
      obtain ⟨value, read⟩ := readable setting text found
      exact absurd read (unreadable value)

/-- Overriding fails exactly where a variable that is set cannot be read. -/
theorem applyOverrides_fails_iff :
    (settings.applyOverrides lookup).2 ≠ none ↔
      ∃ setting text, lookup (Setting.variableName setting) = some text ∧
        ∀ value, ¬ Setting.Reads text setting value := by
  have succeeds : (settings.applyOverrides lookup).2 = none ↔ Readable lookup := by
    rw [← @exists_overridden_iff lookup settings]
    simp only [← applyOverrides_eq_iff, Prod.ext_iff, exists_eq_left']
  rw [Ne, succeeds, Readable]
  simp only [Classical.not_forall, not_exists, exists_prop]

end

end Settings

end AttributeFilter
