/-
**Settings from the environment.**

Three settings can be overridden by variables of the environment. They are taken in a fixed order,
and the first one that cannot be read ends the reading; those before it stay in force. A variable
whose value is no text overrides nothing.
-/

import AttributeFilter.Config.Word

namespace AttributeFilter

/-- The variables of the environment and their values. -/
abbrev Environment := List (String × OsString)

namespace Environment

/-- The value of a variable. -/
def value? (environment : Environment) (name : String) : Option OsString := environment.lookup name

/-- The text of a variable. There is none where the variable is not set, or its value is no text. -/
def text? (environment : Environment) (name : String) : Option String :=
  (environment.value? name).bind OsString.text?

end Environment

namespace Variable

/-- The variable that names the configuration file. -/
def configFile : String := "HAS_FILTER_CONFIG"

/-- The variable that overrides the number of criteria. -/
def maxCriteria : String := "HAS_FILTER_MAX_CRITERIA"

/-- The variable that overrides the policy for criteria without values. -/
def emptyPolicy : String := "HAS_FILTER_EMPTY_VALUES"

/-- The variable that overrides escaping. -/
def escapeLike : String := "HAS_FILTER_ESCAPE_LIKE"

end Variable

namespace Settings

/-! ### One variable at a time -/

/-- Override the number of criteria. -/
def overrideMaxCriteria (settings : Settings) (text : String) : Except ConfigFault Settings :=
  match countOfText text with
  | .ok count => .ok { settings with maxCriteria := count }
  | .error fault => .error (.badCount Variable.maxCriteria text fault)

/-- Override the policy. -/
def overrideEmptyPolicy (settings : Settings) (text : String) : Except ConfigFault Settings :=
  match EmptyPolicy.ofWord? (plainWord text) with
  | some policy => .ok { settings with emptyPolicy := policy }
  | none => .error (.badPolicy Variable.emptyPolicy (plainWord text))

/-- Override escaping. -/
def overrideEscapeLike (settings : Settings) (text : String) : Except ConfigFault Settings :=
  match booleanOfText? text with
  | some value => .ok { settings with escapeLike := value }
  | none => .error (.badBoolean Variable.escapeLike text)

/-- A variable and what its value overrides. -/
structure Override where
  name : String
  apply : Settings → String → Except ConfigFault Settings

/-- The overrides in the order in which they are taken. -/
def overrides : List Override := [
  ⟨Variable.maxCriteria, overrideMaxCriteria⟩,
  ⟨Variable.emptyPolicy, overrideEmptyPolicy⟩,
  ⟨Variable.escapeLike, overrideEscapeLike⟩]

/-! ### All variables -/

/-- The settings after overriding, and the fault that ended it. -/
def overrideAll (lookup : String → Option String) (settings : Settings) :
    List Override → Settings × Option ConfigFault
  | [] => (settings, none)
  | override :: rest =>
    match lookup override.name with
    | none => overrideAll lookup settings rest
    | some text =>
      match override.apply settings text with
      | .ok changed => overrideAll lookup changed rest
      | .error fault => (settings, some fault)

/-- Override the settings by the variables that are set. -/
def applyOverrides (settings : Settings) (lookup : String → Option String) :
    Settings × Option ConfigFault :=
  overrideAll lookup settings overrides

/-! ### Validity -/

/-- Refuse limits of zero. -/
def validate (settings : Settings) : Except ConfigFault Unit :=
  if settings.maxCriteria = 0 then .error (.zeroLimit "max_criteria")
  else if settings.maxJsonBytes = 0 then .error (.zeroLimit "max_json_bytes")
  else .ok ()

end Settings

end AttributeFilter
