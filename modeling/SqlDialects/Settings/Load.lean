import SqlDialects.Settings.Basic
import SqlDialects.Settings.Files
import SqlDialects.Toml.Reader

/-!
# Finding settings

Settings are looked for at the path that a variable names, then in the working directory, then in the
user's own directory; if there are none, the defaults hold.
-/

namespace SqlDialects

/-- What a run of the program can look at. -/
structure Surroundings where
  files : Files
  env : Environment
  /-- The directory that holds the user's settings, if it is known. -/
  userDirectory? : Option String

namespace Settings

/-- The variable that names the file of the settings. -/
def pathVariable : String := "QUILL_CONFIG"

/-- The file of the settings in the working directory. -/
def localPath : String := "quill.toml"

/-- The file of the settings in the user's directory. -/
def userPath (directory : String) : String := directory ++ "/quill/config.toml"

/-- The settings that a text holds. -/
def ofToml (text : String) : Except SettingsError Settings :=
  match (Json.ofToml? text).bind ofJson with
  | some s => .ok s
  | none => .error .malformed

/-- The settings in a file, which has to be there. -/
def ofFile (files : Files) (path : String) : Except SettingsError Settings :=
  match files path with
  | .ok text => ofToml text
  | .error fault =>
    if fault.isAbsence then .error (.fileNotFound path) else .error (.unreadable fault.message)

/-- The paths of settings that need not be there, in the order in which they are looked at. -/
def optionalPaths (w : Surroundings) : List String :=
  localPath :: (w.userDirectory?.map userPath).toList

/-- The settings of a run. -/
def load (w : Surroundings) : Except SettingsError Settings :=
  match w.env pathVariable with
  | some path => ofFile w.files path
  | none =>
    match (optionalPaths w).find? w.files.hasPath with
    | some path => ofFile w.files path
    | none => .ok {}

end Settings

end SqlDialects
