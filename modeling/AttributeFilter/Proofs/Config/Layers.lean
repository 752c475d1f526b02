/-
**The layers of the settings.**

Settings are loaded from three layers: the defaults, a file, and the variables. Which file it is
depends on the path, the variable that names a file and the local file alone; each setting then
comes from the uppermost layer that gives it. A variable whose value is no text gives no setting,
although it may name the file. Limits of zero are looked for at the end, so a variable can mend the
number of criteria, and nothing mends the number of bytes.

* `Settings.Source`, `Settings.Provides` — the file that is used, and what it gives.
* `Settings.Layered` — each setting from its uppermost layer.
* `Settings.Source.load_eq_ok_iff` — what is loaded.
* `Settings.Source.exists_load_iff` — when anything is.
* **`Settings.load_layers`** — the layers, and how far they are taken where a variable fails.
-/

import AttributeFilter.Config.Load
import AttributeFilter.Proofs.Config.Members
import AttributeFilter.Proofs.Config.Overrides
import Mathlib.Logic.ExistsUnique

namespace AttributeFilter

namespace FileSettings

/-- What stands for a file where there is none. -/
def nothing : FileSettings := ⟨none, none, none, none, none⟩

/-- What a file gives for a setting. -/
def given? (file : FileSettings) : (setting : Setting) → Option setting.Value
  | .maxCriteria => file.maxCriteria
  | .emptyPolicy => file.emptyPolicy
  | .escapeLike => file.escapeLike

theorem get_resolve (file : FileSettings) (setting : Setting) :
    file.resolve.get setting = (file.given? setting).getD (Settings.default.get setting) := by
  cases setting <;> rfl

end FileSettings

namespace Settings

/-! ### The file -/

/-- **The file that is used**: the one at the path, else the one that the variable names, else the
local one if there is one, else none. -/
inductive Source (files : FileSystem) (environment : Environment) :
    Option OsString → Option OsString → Prop
  | byPath {path : OsString} : Source files environment (some path) (some path)
  | byVariable {path : OsString} :
      environment.value? Variable.configFile = some path →
        Source files environment none (some path)
  | byLocal :
      environment.value? Variable.configFile = none →
        files localConfigFile ≠ .missing →
        Source files environment none (some localConfigFile)
  | nowhere :
      environment.value? Variable.configFile = none →
        files localConfigFile = .missing →
        Source files environment none none

/-- **What the file that is used gives.** It has to be there and to be read as settings; without a
file nothing is given. -/
inductive Provides (files : FileSystem) : Option OsString → FileSettings → Prop
  | file {path : OsString} {content : String} {file : FileSettings} :
      files path = .file content → FileSettings.ofText? content = some file →
        Provides files (some path) file
  | nothing : Provides files none FileSettings.nothing

section

variable {files : FileSystem} {environment : Environment} {path used : Option OsString}

theorem existsUnique_source (files : FileSystem) (environment : Environment)
    (path : Option OsString) : ∃! used, Source files environment path used := by
  cases path with
  | some path =>
    refine ⟨some path, .byPath, fun other source => ?_⟩
    cases source
    rfl
  | none =>
    cases named : environment.value? Variable.configFile with
    | some path =>
      refine ⟨some path, .byVariable named, fun other source => ?_⟩
      cases source <;> simp_all
    | none =>
      by_cases missing : files localConfigFile = .missing
      · refine ⟨none, .nowhere named missing, fun other source => ?_⟩
        cases source <;> simp_all
      · refine ⟨some localConfigFile, .byLocal named missing, fun other source => ?_⟩
        cases source <;> simp_all

theorem Source.eq {other : Option OsString} (source : Source files environment path used)
    (sourceToo : Source files environment path other) : used = other :=
  (existsUnique_source files environment path).unique source sourceToo

theorem Provides.eq {file other : FileSettings} (provides : Provides files used file)
    (providesToo : Provides files used other) : file = other := by
  cases provides with
  | nothing =>
    cases providesToo
    rfl
  | file here read =>
    cases providesToo with
    | file hereToo readToo =>
      obtain rfl := Entry.file.inj (here.symm.trans hereToo)
      exact Option.some.inj (read.symm.trans readToo)

theorem ofFile_eq_ok_iff {path : OsString} {base : Settings} :
    ofFile files path = .ok base ↔
      ∃ file, Provides files (some path) file ∧ base = file.resolve := by
  constructor
  · intro read
    unfold ofFile at read
    split at read
    · rename_i content here
      split at read
      · rename_i file parsed
        cases read
        exact ⟨file, .file here parsed, rfl⟩
      · cases read
    · cases read
  · rintro ⟨file, provides, rfl⟩
    cases provides with
    | file here parsed =>
      rw [ofFile, here]
      dsimp only
      rw [parsed]

/-- Look for the file that is used: a missing one is a fault. -/
def lookFor (files : FileSystem) : Option OsString → Except ConfigFault (Option OsString)
  | some named =>
    if files named = .missing then .error (.fileNotFound named) else .ok (some named)
  | none => .ok none

theorem Source.configPath_eq (source : Source files environment path used) :
    configPath files environment path = lookFor files used := by
  cases source with
  | byPath => rfl
  | byVariable named => rw [configPath, named, Option.none_or, lookFor]
  | byLocal unset here =>
    rw [configPath, unset, Option.none_or, lookFor]
    dsimp only
    rw [if_neg here, if_neg here]
  | nowhere unset missing =>
    rw [configPath, unset, Option.none_or, lookFor]
    dsimp only
    rw [if_pos missing]

/-- **The settings below the environment** are those of the file that is used. -/
theorem Source.baseLayer_eq_ok_iff (source : Source files environment path used)
    {base : Settings} :
    baseLayer files environment path = .ok base ↔
      ∃ file, Provides files used file ∧ base = file.resolve := by
  rw [baseLayer, source.configPath_eq]
  cases used with
  | none =>
    constructor
    · rintro ⟨⟩
      exact ⟨_, .nothing, rfl⟩
    · rintro ⟨file, provides, rfl⟩
      cases provides
      rfl
  | some named =>
    rw [← ofFile_eq_ok_iff, lookFor]
    split
    · rename_i missing
      rw [ofFile, missing]
      exact iff_of_false (fun loaded => nomatch loaded) fun loaded => nomatch loaded
    · rfl

end

/-! ### The settings above the file -/

/-- **Each setting from its uppermost layer**: what the variable spells if it is set, else what the
file gives, else the default. No variable gives the number of bytes. -/
structure Layered (lookup : String → Option String) (file : FileSettings) (settings : Settings) :
    Prop where
  set : ∀ setting text, lookup (Setting.variableName setting) = some text →
    Setting.Reads text setting (settings.get setting)
  unset : ∀ setting, lookup (Setting.variableName setting) = none →
    settings.get setting = (file.given? setting).getD (Settings.default.get setting)
  maxJsonBytes : settings.maxJsonBytes = file.maxJsonBytes.getD Settings.default.maxJsonBytes

/-- No limit of zero comes from the layers: neither does the variable spell zero criteria, nor does
the file give that limit where the variable is not set, and the file does not give zero bytes. -/
structure NoZero (lookup : String → Option String) (file : FileSettings) : Prop where
  spelt : ∀ text, lookup Variable.maxCriteria = some text → ¬ Setting.Reads text .maxCriteria 0
  given : lookup Variable.maxCriteria = none → file.maxCriteria ≠ some 0
  maxJsonBytes : file.maxJsonBytes ≠ some 0

section

variable {lookup : String → Option String} {file : FileSettings} {settings : Settings}

/-- Overriding the settings of the file puts the layers on top of each other. -/
theorem overridden_resolve_iff :
    Overridden lookup Setting.order file.resolve settings ↔ Layered lookup file settings := by
  constructor
  · intro overridden
    refine ⟨fun setting => overridden.set setting (Setting.mem_order setting),
      fun setting unset => ?_, overridden.maxJsonBytes⟩
    rw [overridden.unset setting fun _ => unset, file.get_resolve]
  · intro layered
    refine ⟨fun setting _ => layered.set setting, fun setting unset => ?_, layered.maxJsonBytes⟩
    rw [layered.unset setting (unset (Setting.mem_order setting)), file.get_resolve]

theorem exists_layered_iff : (∃ settings, Layered lookup file settings) ↔ Readable lookup := by
  simp only [← overridden_resolve_iff]
  exact exists_overridden_iff

/-- A limit that falls back to another one than zero is zero only if it is given so. -/
theorem getD_ne_zero_iff {limit : Option Nat} {fallback : Nat} (positive : fallback ≠ 0) :
    limit.getD fallback ≠ 0 ↔ limit ≠ some 0 := by
  cases limit with
  | none => exact iff_of_true positive (Option.some_ne_none 0).symm
  | some given => rw [Option.getD_some, Ne, Ne, Option.some.injEq]

/-- **Where the layers are on top of each other, a limit of zero comes from one of them.** -/
theorem Layered.noZero_iff (layered : Layered lookup file settings) :
    NoZero lookup file ↔ settings.maxCriteria ≠ 0 ∧ settings.maxJsonBytes ≠ 0 := by
  have bytes : settings.maxJsonBytes ≠ 0 ↔ file.maxJsonBytes ≠ some 0 := by
    rw [layered.maxJsonBytes]
    exact getD_ne_zero_iff (by decide)
  cases found : lookup Variable.maxCriteria with
  | none =>
    have count : settings.maxCriteria ≠ 0 ↔ file.maxCriteria ≠ some 0 := by
      have fallen : settings.maxCriteria = file.maxCriteria.getD Settings.default.maxCriteria :=
        layered.unset .maxCriteria found
      rw [fallen]
      exact getD_ne_zero_iff (by decide)
    rw [count, bytes]
    constructor
    · intro noZero
      exact ⟨noZero.given found, noZero.maxJsonBytes⟩
    · rintro ⟨given, maxJsonBytes⟩
      exact ⟨fun text set => (nomatch found.symm.trans set), fun _ => given, maxJsonBytes⟩
  | some text =>
    have read : Setting.Reads text .maxCriteria settings.maxCriteria :=
      layered.set .maxCriteria text found
    rw [bytes]
    constructor
    · intro noZero
      exact ⟨fun zero => noZero.spelt text found (zero ▸ read), noZero.maxJsonBytes⟩
    · rintro ⟨count, maxJsonBytes⟩
      refine ⟨fun other set zero => ?_, fun unset => (nomatch found.symm.trans unset),
        maxJsonBytes⟩
      obtain rfl := Option.some.inj (found.symm.trans set)
      exact count (Setting.reads_unique read zero)

end

section

variable {files : FileSystem} {environment : Environment} {path used : Option OsString}
  {settings : Settings}

/-- Settings are kept if no limit is zero. -/
theorem validated_eq_ok_iff {changed : Settings} :
    (do changed.validate; return changed) = Except.ok settings ↔
      changed = settings ∧ settings.maxCriteria ≠ 0 ∧ settings.maxJsonBytes ≠ 0 := by
  unfold validate
  split
  · rename_i zero
    refine iff_of_false (fun kept => nomatch kept) ?_
    rintro ⟨rfl, count, -⟩
    exact count zero
  split
  · rename_i zero
    refine iff_of_false (fun kept => nomatch kept) ?_
    rintro ⟨rfl, -, bytes⟩
    exact bytes zero
  · rename_i count bytes
    constructor
    · rintro ⟨⟩
      exact ⟨rfl, count, bytes⟩
    · rintro ⟨rfl, -⟩
      rfl

/-- The environment is put on top of the settings below it. -/
theorem load_of_baseLayer {base : Settings}
    (below : baseLayer files environment path = .ok base) :
    load files environment path = .ok settings ↔
      Overridden environment.text? Setting.order base settings ∧
        settings.maxCriteria ≠ 0 ∧ settings.maxJsonBytes ≠ 0 := by
  rw [← applyOverrides_eq_iff]
  rcases outcome : base.applyOverrides environment.text? with ⟨changed, none | fault⟩
  · have validated :
        load files environment path = (do changed.validate; return changed) := by
      simp only [load, below, outcome, bind, Except.bind]
    rw [validated, validated_eq_ok_iff, Prod.mk.injEq, and_iff_left rfl]
  · have refused : load files environment path = .error fault := by
      simp only [load, below, outcome, bind, Except.bind]
    rw [refused]
    exact iff_of_false (fun loaded => nomatch loaded) fun loaded =>
      nomatch (Prod.mk.inj loaded.1).2

/-- **What is loaded** are the layers on top of each other, unless a limit is zero. -/
theorem Source.load_eq_ok_iff (source : Source files environment path used) :
    load files environment path = .ok settings ↔
      ∃ file, Provides files used file ∧ Layered environment.text? file settings ∧
        settings.maxCriteria ≠ 0 ∧ settings.maxJsonBytes ≠ 0 := by
  cases below : baseLayer files environment path with
  | error fault =>
    have refused : load files environment path = .error fault := by
      rw [load, below]
      rfl
    rw [refused]
    refine iff_of_false (fun loaded => nomatch loaded) ?_
    rintro ⟨file, provides, -⟩
    have found := source.baseLayer_eq_ok_iff.mpr ⟨file, provides, rfl⟩
    exact nomatch below.symm.trans found
  | ok base =>
    obtain ⟨file, provides, rfl⟩ := source.baseLayer_eq_ok_iff.mp below
    rw [load_of_baseLayer below, overridden_resolve_iff]
    constructor
    · rintro ⟨layered, limits⟩
      exact ⟨file, provides, layered, limits⟩
    · rintro ⟨other, providesToo, layered, limits⟩
      obtain rfl := provides.eq providesToo
      exact ⟨layered, limits⟩

/-- **When anything is loaded**: the file is read, every variable that is set can be read, and no
limit of zero comes from the layers. -/
theorem Source.exists_load_iff (source : Source files environment path used) :
    (∃ settings, load files environment path = .ok settings) ↔
      ∃ file, Provides files used file ∧ Readable environment.text? ∧
        NoZero environment.text? file := by
  simp only [source.load_eq_ok_iff]
  constructor
  · rintro ⟨settings, file, provides, layered, limits⟩
    exact ⟨file, provides, exists_layered_iff.mp ⟨settings, layered⟩,
      layered.noZero_iff.mpr limits⟩
  · rintro ⟨file, provides, readable, noZero⟩
    obtain ⟨settings, layered⟩ := exists_layered_iff.mpr readable
    exact ⟨settings, file, provides, layered, layered.noZero_iff.mp noZero⟩

end

/-! ### The layers -/

section

variable {files : FileSystem} {environment : Environment} {path used : Option OsString}
  {file : FileSettings} (source : Source files environment path used)
  (provides : Provides files used file)

include source provides

/-- A variable mends a file that gives no criteria, and nothing else does. -/
theorem exists_load_of_zero_criteria (zero : file.maxCriteria = some 0) :
    (∃ settings, load files environment path = .ok settings) ↔
      Readable environment.text? ∧ file.maxJsonBytes ≠ some 0 ∧
        ∃ text count, environment.text? Variable.maxCriteria = some text ∧
          Setting.Reads text .maxCriteria count ∧ count ≠ 0 := by
  rw [source.exists_load_iff]
  constructor
  · rintro ⟨other, providesToo, readable, noZero⟩
    obtain rfl := provides.eq providesToo
    refine ⟨readable, noZero.maxJsonBytes, ?_⟩
    cases found : environment.text? Variable.maxCriteria with
    | none => exact absurd zero (noZero.given found)
    | some text =>
      obtain ⟨count, read⟩ := readable .maxCriteria text found
      refine ⟨text, count, rfl, read, ?_⟩
      rintro rfl
      exact noZero.spelt text found read
  · rintro ⟨readable, maxJsonBytes, text, count, found, read, positive⟩
    refine ⟨file, provides, readable, fun other set none => ?_, fun unset => ?_, maxJsonBytes⟩
    · obtain rfl := Option.some.inj (found.symm.trans set)
      exact positive (Setting.reads_unique read none)
    · exact nomatch found.symm.trans unset

/-- Nothing mends a file that gives no bytes. -/
theorem load_ne_ok_of_zero_bytes (zero : file.maxJsonBytes = some 0) (settings : Settings) :
    load files environment path ≠ .ok settings := by
  intro loaded
  obtain ⟨other, providesToo, -, noZero⟩ := source.exists_load_iff.mp ⟨settings, loaded⟩
  obtain rfl := provides.eq providesToo
  exact noZero.maxJsonBytes zero

end

/-- **The settings are loaded layer by layer.** -/
theorem load_layers (files : FileSystem) (environment : Environment) (path : Option OsString) :
    -- One file is used, or none,
    (∃! used, Source files environment path used) ∧
    -- and read to what the members of its object give.
    (∀ content file, FileSettings.ofText? content = some file ↔
      ∃ members, JsonForm.ofText? content = some (.object members) ∧ file.GivenBy members) ∧
    -- Each setting comes from its uppermost layer, and the limits must not be zero.
    (∀ settings, load files environment path = .ok settings ↔
      ∃ used file, Source files environment path used ∧ Provides files used file ∧
        Layered environment.text? file settings ∧
        settings.maxCriteria ≠ 0 ∧ settings.maxJsonBytes ≠ 0) ∧
    -- There are such settings where the variables that are set can be read,
    (∀ file, (∃ settings, Layered environment.text? file settings) ↔
      Readable environment.text?) ∧
    -- so a variable mends a limit of zero criteria, but none of zero bytes.
    (∀ used file, Source files environment path used → Provides files used file →
      (file.maxCriteria = some 0 →
        ((∃ settings, load files environment path = .ok settings) ↔
          Readable environment.text? ∧ file.maxJsonBytes ≠ some 0 ∧
            ∃ text count, environment.text? Variable.maxCriteria = some text ∧
              Setting.Reads text .maxCriteria count ∧ count ≠ 0)) ∧
      (file.maxJsonBytes = some 0 →
        ∀ settings, load files environment path ≠ .ok settings)) ∧
    -- Whatever is overridden, by whatever is set, it fails where a text cannot be read,
    ∀ (base : Settings) (lookup : String → Option String),
      ((base.applyOverrides lookup).2 ≠ none ↔
        ∃ setting text, lookup (Setting.variableName setting) = some text ∧
          ∀ value, ¬ Setting.Reads text setting value) ∧
      -- overrides all settings where it does not,
      (∀ settings, base.applyOverrides lookup = (settings, none) ↔
        Overridden lookup Setting.order base settings) ∧
      -- and else those in front of the first that fails.
      ∀ settings fault, base.applyOverrides lookup = (settings, some fault) ↔
        ∃ before setting after text, Setting.order = before ++ setting :: after ∧
          Overridden lookup before base settings ∧
          lookup setting.variableName = some text ∧ Setting.Refuses text fault setting := by
  obtain ⟨used, source, only⟩ := existsUnique_source files environment path
  refine ⟨⟨used, source, only⟩, fun content file => FileSettings.ofText?_eq_some_iff,
    fun settings => ?_, fun file => exists_layered_iff,
    fun other file sourceToo provides =>
      ⟨exists_load_of_zero_criteria sourceToo provides,
        load_ne_ok_of_zero_bytes sourceToo provides⟩,
    fun base lookup => ⟨applyOverrides_fails_iff, fun settings => applyOverrides_eq_iff,
      fun settings fault => applyOverrides_eq_fault_iff⟩⟩
  rw [source.load_eq_ok_iff]
  constructor
  · rintro ⟨file, loaded⟩
    exact ⟨used, file, source, loaded⟩
  · rintro ⟨other, file, sourceToo, loaded⟩
    obtain rfl := source.eq sourceToo
    exact ⟨file, loaded⟩

/-- A file that gives no criteria, -/
def zeroCriteria : String :=
  "\x7b\"max_criteria\":0,\"escape_like\":true,\"max_json_bytes\":null\x7d"

/-- one that gives every setting, -/
def everySetting : String :=
  "\x7b\"max_criteria\":3,\"max_json_bytes\":2048," ++
    "\"empty_values\":\"match_none\",\"escape_like\":true\x7d"

/-- and one that gives no bytes. -/
def zeroBytes : String := "\x7b\"max_json_bytes\":0\x7d"

/-- The first of them is the local file, the others are outside of the working directory. -/
def configurations : FileTree where
  workingDirectory := "/srv/app"
  files := [("has_filter.json", zeroCriteria), ("/etc/filter.json", everySetting),
    ("../spare.json", zeroBytes)]

/-- A variable names the file with every setting, another changes escaping, a third is no text. -/
def elsewhere : Environment := [
  ("HAS_FILTER_CONFIG", .text "../../etc/./filter.json"),
  ("HAS_FILTER_ESCAPE_LIKE", .text "OFF\n"),
  ("HAS_FILTER_MAX_CRITERIA", .bytes [0xFF] (by decide +kernel))]

/-- Variables change the number of criteria and the policy. -/
def mending : Environment := [
  ("HAS_FILTER_MAX_CRITERIA", .text " +7 "),
  ("HAS_FILTER_EMPTY_VALUES", .text "Match-None")]

/-- The file with every setting is loaded as it stands where its path is given, and with escaping
changed where a variable names it. The local file gives no criteria: the environment mends it, and
changes the policy too, while escaping is left as the file has it and the bytes as they are by
default. Without the environment nothing is loaded, and a file that gives no bytes is not mended. -/
theorem load_layers_mended :
    load configurations.entry [] (some (.text "/etc/filter.json")) =
      .ok ⟨3, 2048, .matchNone, true⟩ ∧
    load configurations.entry elsewhere none = .ok ⟨3, 2048, .matchNone, false⟩ ∧
    load configurations.entry mending none = .ok ⟨7, 65536, .matchNone, true⟩ ∧
    (∀ settings, load configurations.entry [] none ≠ .ok settings) ∧
    ∀ settings, load configurations.entry mending (some (.text "../spare.json")) ≠ .ok settings := by
  have everySettingRead : FileSettings.ofText? everySetting =
      some ⟨some 3, some 2048, some .matchNone, some true, some []⟩ := by decide +kernel
  have byPath : configurations.entry (.text "/etc/filter.json") = .file everySetting := by
    decide +kernel
  have byVariable : configurations.entry (.text "../../etc/./filter.json") =
      .file everySetting := by
    decide +kernel
  have here : configurations.entry localConfigFile = .file zeroCriteria := by decide +kernel
  have present : configurations.entry localConfigFile ≠ .missing := here ▸ nofun
  have zeroCriteriaRead : FileSettings.ofText? zeroCriteria =
      some ⟨some 0, none, none, some true, some []⟩ := by decide +kernel
  have beside : configurations.entry (.text "../spare.json") = .file zeroBytes := by
    decide +kernel
  have zeroBytesRead : FileSettings.ofText? zeroBytes =
      some ⟨none, some 0, none, none, some []⟩ := by decide +kernel
  refine ⟨?_, ?_, ?_, fun settings loaded => ?_, ?_⟩
  · refine ((load_layers _ _ _).2.2.1 _).mpr
      ⟨_, _, .byPath, .file byPath everySettingRead, ⟨?_, ?_, rfl⟩, by decide, by decide⟩
    · intro setting text found
      cases setting <;> cases found
    · intro setting unset
      cases setting <;> rfl
  · refine ((load_layers _ _ _).2.2.1 _).mpr
      ⟨_, _, .byVariable rfl, .file byVariable everySettingRead, ⟨?_, ?_, rfl⟩, by decide,
        by decide⟩
    · intro setting text found
      cases setting <;> cases found
      exact ⟨"OFF".toList, by decide, by decide⟩
    · intro setting unset
      cases setting with
      | maxCriteria => rfl
      | emptyPolicy => rfl
      | escapeLike => cases unset
  · refine ((load_layers _ _ _).2.2.1 _).mpr
      ⟨_, _, .byLocal rfl present, .file here zeroCriteriaRead, ⟨?_, ?_, rfl⟩, by decide,
        by decide⟩
    · intro setting text found
      cases setting <;> cases found
      · exact ⟨['+', '7'], by decide, ['7'], .inr rfl, by decide,
          List.forall_mem_singleton.mpr rfl, by decide, by decide⟩
      · exact ⟨"Match-None".toList, by decide, by decide⟩
    · intro setting unset
      cases setting <;> cases unset
      rfl
  · obtain ⟨-, -, text, count, set, -⟩ :=
      (((load_layers _ [] none).2.2.2.2.1 _ _ (.byLocal rfl present)
        (.file here zeroCriteriaRead)).1 rfl).mp
        ⟨settings, loaded⟩
    cases set
  · exact ((load_layers _ mending _).2.2.2.2.1 _ _ .byPath (.file beside zeroBytesRead)).2 rfl

end Settings

end AttributeFilter
