import SqlDialects.Dialect.Basic
import SqlDialects.Document.Decoder
import SqlDialects.Marshal.Representation
import SqlDialects.Marshal.Spelling
import SqlDialects.Settings.Expansion

/-!
# Settings

What a user can set: the dialect, whether IN lists may be bound as arrays, and how the driver wants the
elements of arrays. Texts may refer to variables of the environment, which are put in when a setting
is used.
-/

namespace SqlDialects

/-- Settings that cannot be used, or not even be read. -/
inductive SettingsError where
  /-- There is no file at the path. -/
  | fileNotFound (path : String)
  /-- The file is there but cannot be read. -/
  | unreadable (reason : String)
  /-- The file does not hold settings. -/
  | malformed
  /-- A variable is not set. -/
  | missingVariable (name : String)
  /-- No dialect has the name. -/
  | unknownDialect (name : String)
  /-- No type code has the name. -/
  | unknownTypeCode (name : String)
  /-- The preferred representation for a type code is none. -/
  | badPreference (code : TypeCode) (cause : MarshalError)

namespace SettingsError

/-- The wording of a failure. -/
def message : SettingsError → String
  | fileNotFound path => "Config file not found: " ++ path
  | unreadable reason => "Failed to read config file: " ++ reason
  | malformed => "Failed to parse config file: it does not hold settings"
  | missingVariable name => "Missing environment variable: " ++ name
  | unknownDialect name => "Invalid configuration: Unknown dialect: " ++ name
  | unknownTypeCode name => "Invalid configuration: Unknown SQL type code: " ++ name
  | badPreference code cause =>
    "Invalid configuration: preferred element for " ++ code.name ++ ": " ++ cause.message

end SettingsError

/-- Texts by name, in the order of the names. -/
abbrev SortedTexts := List (String × String)

namespace SortedTexts

/-- Puts a text in its place; one of the same name gives way. -/
def insert (name text : String) : SortedTexts → SortedTexts
  | [] => [(name, text)]
  | entry :: rest =>
    if name < entry.1 then (name, text) :: entry :: rest
    else if name = entry.1 then (name, text) :: rest
    else entry :: insert name text rest

/-- The entries in the order of their names; of equal names the last one counts. -/
def ofList (entries : List (String × String)) : SortedTexts :=
  entries.foldl (fun sorted entry => sorted.insert entry.1 entry.2) []

end SortedTexts

/-- What a user can set. -/
structure Settings where
  /-- The name of the dialect. -/
  dialectName : String := "hsql"
  /-- IN lists may be bound as arrays. -/
  arrayBinding : Bool := true
  /-- Preferred representations of array elements by the name of their type code. -/
  preferences : SortedTexts := []

namespace Settings

/-- A text with the values of the variables it refers to. -/
def expand (env : Environment) (text : String) : Except SettingsError String :=
  (env.expand text).mapError .missingVariable

/-- The chosen dialect. -/
def dialect (s : Settings) (env : Environment) : Except SettingsError Dialect := do
  let name ← expand env s.dialectName
  match Dialect.ofName? name with
  | some d => .ok d
  | none => .error (.unknownDialect name)

/-- The preference that an entry stands for. -/
def preference (env : Environment) (entry : String × String) :
    Except SettingsError (TypeCode × HostType) :=
  match TypeCode.ofName? entry.1 with
  | none => .error (.unknownTypeCode entry.1)
  | some code => do
    let spelling ← expand env entry.2
    match HostType.ofSpelling spelling with
    | .ok host => .ok (code, host)
    | .error cause => .error (.badPreference code cause)

/-- Adds the preferences of entries to a choice of representations; later ones for the same type code
win. -/
def addPreferences (env : Environment) :
    RepresentationMap → SortedTexts → Except SettingsError RepresentationMap
  | chosen, [] => .ok chosen
  | chosen, entry :: rest => do
    let (code, host) ← preference env entry
    addPreferences env (chosen.insert code host) rest

/-- The representations preferred for array elements. -/
def preferred (s : Settings) (env : Environment) : Except SettingsError RepresentationMap :=
  addPreferences env [] s.preferences

/-- The names of the variables that the settings refer to. -/
def variableNames (s : Settings) : List String :=
  (s.dialectName :: s.preferences.map (·.2)).flatMap fun text => (Template.ofString text).names

/-- Reads settings. Whatever is absent has its default, and unknown members are ignored. -/
def ofJson : Decoder Settings := fun j => do
  let ms ← Decoder.record ["translation", "driver"] j
  let translation ← Members.withDefault ms "translation" []
    (Decoder.record ["dialect", "in_list_array_binding"])
  let dialectName ← Members.withDefault translation "dialect" "hsql" Decoder.string
  let arrayBinding ← Members.withDefault translation "in_list_array_binding" true Decoder.bool
  let driver ← Members.withDefault ms "driver" [] (Decoder.record ["preferred_array_elements"])
  let preferences ← Members.withDefault driver "preferred_array_elements" [] textsOfJson
  some ⟨dialectName, arrayBinding, preferences⟩
where
  /-- Reads texts by name. -/
  textsOfJson : Decoder SortedTexts := fun j => do
    let ms ← Decoder.members j
    let entries ← ms.mapM fun (name, j) => (Decoder.string j).map (name, ·)
    some (SortedTexts.ofList entries)

/-- Writes settings. -/
def toJson (s : Settings) : Json :=
  .object [
    ("translation", .object [("dialect", .string s.dialectName),
      ("in_list_array_binding", .bool s.arrayBinding)]),
    ("driver", .object [("preferred_array_elements",
      .object (s.preferences.map fun entry => (entry.1, .string entry.2)))])]

end Settings

end SqlDialects
