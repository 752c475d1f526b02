/-
**What is wrong with a configuration.**

A `ConfigFault` is a cause; `ConfigFault.chain` words it, from the outermost statement to the reason
behind it. What is wrong inside a file is not worded here: the file is named, and that is all.
-/

import AttributeFilter.Text.OsString

namespace AttributeFilter

/-- How a text fails to be a count. -/
inductive CountFault
  | empty
  | invalidDigit
  | tooLarge
deriving Repr, DecidableEq

/-- The wording of a fault. -/
def CountFault.message : CountFault → String
  | .empty => "cannot parse integer from empty string"
  | .invalidDigit => "invalid digit found in string"
  | .tooLarge => "number too large to fit in target type"

/-- Why a configuration was refused. -/
inductive ConfigFault
  /-- A word, trimmed and in lower case, that names no policy. -/
  | unknownPolicy (word : String)
  /-- A variable holds a text that is no count. -/
  | badCount (name text : String) (fault : CountFault)
  /-- A variable holds a word that names no policy. -/
  | badPolicy (name word : String)
  /-- A variable holds a text that is no truth value. -/
  | badBoolean (name text : String)
  | fileNotFound (path : OsString)
  | fileUnreadable (path : OsString)
  | fileMalformed (path : OsString)
  /-- A limit is zero. -/
  | zeroLimit (limit : String)
deriving Repr, DecidableEq

namespace ConfigFault

/-- The wording of a word that names no policy. -/
def unknownPolicyMessage (word : String) : String := "Unknown empty value policy: " ++ word

/-- The wording of a fault and the reasons behind it, outermost first. -/
def chain : ConfigFault → List String
  | .unknownPolicy word => [unknownPolicyMessage word]
  | .badCount name text fault => ["Invalid " ++ name ++ ": " ++ text, fault.message]
  | .badPolicy name word => ["Invalid " ++ name, unknownPolicyMessage word]
  | .badBoolean name text => ["Invalid " ++ name ++ ": " ++ text, "expected a boolean"]
  | .fileNotFound path => ["Config file not found: " ++ path.shown]
  | .fileUnreadable path => ["Failed to read config file: " ++ path.shown]
  | .fileMalformed path => ["Failed to parse config file: " ++ path.shown]
  | .zeroLimit limit => ["Configuration error: " ++ limit ++ " must be greater than 0"]

/-- The outermost wording of a fault. -/
def message (fault : ConfigFault) : String := fault.chain.headD ""

end ConfigFault

end AttributeFilter
