/-
**Loading the settings.**

The settings come in layers: the defaults, a configuration file, and the variables of the
environment. The file is the one that is named by path, else the one that a variable names, else the
local one if there is one. A file that is named has to exist; limits of zero are refused at the end,
so a variable can mend what a file got wrong.
-/

import AttributeFilter.Config.Environment
import AttributeFilter.Config.File
import AttributeFilter.Config.FileSystem

namespace AttributeFilter

/-- The name of the local configuration file. -/
def localConfigFile : OsString := .text "has_filter.json"

namespace Settings

/-- The path of the configuration file, if there is one to read. -/
def configPath (files : FileSystem) (environment : Environment) (path : Option OsString) :
    Except ConfigFault (Option OsString) :=
  match path.or (environment.value? Variable.configFile) with
  | some named => if files named = .missing then .error (.fileNotFound named) else .ok (some named)
  | none => .ok (if files localConfigFile = .missing then none else some localConfigFile)

/-- The settings of the file at a path. -/
def ofFile (files : FileSystem) (path : OsString) : Except ConfigFault Settings :=
  match files path with
  | .file content =>
    match FileSettings.ofText? content with
    | some file => .ok file.resolve
    | none => .error (.fileMalformed path)
  | _ => .error (.fileUnreadable path)

/-- The settings below the environment. -/
def baseLayer (files : FileSystem) (environment : Environment) (path : Option OsString) :
    Except ConfigFault Settings := do
  match ← configPath files environment path with
  | some found => ofFile files found
  | none => return Settings.default

/-- Load the settings. -/
def load (files : FileSystem) (environment : Environment) (path : Option OsString) :
    Except ConfigFault Settings := do
  let base ← baseLayer files environment path
  match base.applyOverrides environment.text? with
  | (_, some fault) => .error fault
  | (settings, none) => do
    settings.validate
    return settings

end Settings

end AttributeFilter
