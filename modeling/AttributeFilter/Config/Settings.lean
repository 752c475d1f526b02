/-
**Settings.**

The limits and choices that filtering goes by, and their defaults.
-/

import AttributeFilter.Sql.Condition

namespace AttributeFilter

/-- What filtering goes by. -/
structure Settings where
  /-- How many criteria one request may have. -/
  maxCriteria : Nat
  /-- How many bytes the text of a request may have. -/
  maxJsonBytes : Nat
  emptyPolicy : EmptyPolicy
  /-- Whether values are escaped in patterns. -/
  escapeLike : Bool
deriving Repr, DecidableEq

namespace Settings

/-- The settings where nothing is configured. -/
def default : Settings := ⟨50, 64 * 1024, .reject, false⟩

instance : Inhabited Settings := ⟨default⟩

/-- The part of the settings that compiling conditions depends on. -/
def compileOptions (settings : Settings) : CompileOptions :=
  ⟨settings.emptyPolicy, settings.escapeLike⟩

end Settings

end AttributeFilter
