import SqlDialects.Cli.Help
import SqlDialects.Document.Reader
import SqlDialects.Json.Writer
import SqlDialects.Render.Binding
import SqlDialects.Settings.Load

/-!
# Runs of the program

What a run prints and the status it ends with, as a function of its arguments and of what it can look
at. What has been printed before a failure stays printed.
-/

namespace SqlDialects.Cli

/-- What a run leaves behind. -/
structure Outcome where
  status : UInt8
  stdout : String
  stderr : String
deriving DecidableEq

/-- Why a run fails. -/
inductive Failure where
  | usage (error : UsageError)
  | configuration (error : SettingsError)
  | unreadable (path : String) (fault : FileFault)
  | invalidStatement (path : String)
  | invalidBindings (path : String)
  | translation (error : TranslationError)
  /-- The statement holds a number that cannot be written. -/
  | unwritable (obstacle : Unwritable)
  | binding (error : TranslationError)

namespace Failure

/-- The wording of a failure. -/
def message : Failure → String
  | usage error => error.message
  | configuration error => "Configuration error: " ++ error.message
  | unreadable path fault => "Error reading file '" ++ path ++ "': " ++ fault.message
  | invalidStatement path => "Invalid statement '" ++ path ++ "': it does not hold a statement"
  | invalidBindings path => "Invalid bindings '" ++ path ++ "': it does not hold bindings"
  | translation error => "Translation error: " ++ error.message
  | unwritable obstacle => obstacle.message
  | binding error => "Binding error: " ++ error.message

/-- The status that a failure ends a run with. -/
def status : Failure → UInt8
  | usage _ => 2
  | unwritable _ => 101
  | _ => 1

/-- The outcome of a run that fails after it has printed a text. -/
def outcome (printed : String) (f : Failure) : Outcome := ⟨f.status, printed, f.message ++ "\n"⟩

end Failure

/-- A line of text. -/
def line (text : String) : String := text ++ "\n"

/-! ### Listing dialects -/

/-- A name, filled up with blanks to a column. -/
def padded (width : Nat) (name : String) : String :=
  name ++ String.ofList (List.replicate (width - name.length) ' ')

/-- A capability and whether a dialect has it. -/
def capabilityLine (name value : String) : String := line ("  " ++ padded 32 name ++ value)

/-- A text that may be missing. -/
def orDash (s : String) : String := if s.isEmpty then "-" else s

/-- The name of a dialect and its capabilities. -/
def dialectListing (d : Dialect) : String :=
  let c := d.capabilities
  let flags := [
    ("array constructor", c.arrayConstructor),
    ("row value constructor", c.rowValues),
    ("with clause in subquery", c.withInSubquery),
    ("recursive array/row emulation", c.recursiveArrays),
    ("offset/fetch clause", c.offsetFetch),
    ("filter clause", c.filterClause),
    ("in-list array binding", c.arrayBinding)]
  line d.name
    ++ String.join (flags.map fun (name, has) => capabilityLine name (if has then "yes" else "no"))
    ++ capabilityLine "from dual" (orDash (Text.trim d.fromNothing))

/-- Every dialect with its capabilities. -/
def dialectsListing : String := String.join (Dialect.all.map dialectListing)

/-! ### Translating -/

/-- The text of a file. -/
def readFile (files : Files) (path : String) : Except Failure String :=
  match files path with
  | .ok text => .ok text
  | .error fault => .error (.unreadable path fault)

/-- The settings of a request. -/
def settingsFor (w : Surroundings) (r : TranslateRequest) : Except Failure Settings :=
  match r.config? with
  | some path => (Settings.ofFile w.files path).mapError .configuration
  | none => (Settings.load w).mapError .configuration

/-- The dialect of a request. -/
def dialectFor (w : Surroundings) (settings : Settings) (r : TranslateRequest) :
    Except Failure Dialect :=
  match r.dialect? with
  | some d => .ok d
  | none => (settings.dialect w.env).mapError .configuration

/-- The statement in a file. -/
def readStatement (files : Files) (path : String) : Except Failure Statement := do
  let text ← readFile files path
  match Statement.ofText? text with
  | some s => .ok s
  | none => .error (.invalidStatement path)

/-- The bindings in a file. -/
def readBindings (files : Files) (path : String) : Except Failure Bindings := do
  let text ← readFile files path
  match Bindings.ofText? text with
  | some b => .ok b
  | none => .error (.invalidBindings path)

/-- The bindings of a request, if it names any. -/
def bindingsFor (files : Files) (r : TranslateRequest) : Except Failure (Option Bindings) :=
  match r.bindings? with
  | some path => (readBindings files path).map some
  | none => .ok none

/-- The failure of a run whose translation fails. -/
def translationFailure : TranslationFailure → Failure
  | .rejected cause => .translation cause
  | .unwritable obstacle => .unwritable obstacle

/-- A translated statement with what is needed to bind its parameters. -/
structure Translated where
  settings : Settings
  bindings? : Option Bindings
  operation : Operation

/-- Translates the statement of a request. -/
def translated (w : Surroundings) (r : TranslateRequest) : Except Failure Translated := do
  let settings ← settingsFor w r
  let dialect ← dialectFor w settings r
  let statement ← readStatement w.files r.file
  let bindings? ← bindingsFor w.files r
  let ctx : TranslationContext := ⟨dialect, ⟨settings.arrayBinding⟩, .standard, bindings?⟩
  let operation ← (statement.translate ctx).mapError translationFailure
  .ok ⟨settings, bindings?, operation⟩

/-- Texts with their positions, the first of which has the given one. -/
def numbered (position : Nat) : List String → String
  | [] => ""
  | text :: texts =>
    line ("-- " ++ toString position ++ ": " ++ text) ++ numbered (position + 1) texts

/-- The list of parameters behind the SQL text, absent if there are none. -/
def parameterListing (parameters : List Parameter) : String :=
  if parameters.isEmpty then ""
  else line "" ++ line "-- Parameters"
    ++ numbered 1 (parameters.map fun p => p.source.diagnostic ++ " as " ++ p.type.name)

/-- An operation in the given format. -/
def operationListing (format : OutputFormat) (op : Operation) : String :=
  match format with
  | .sql => line op.sql ++ parameterListing op.parameters
  | .json => line (op.toJson Json.float).pretty

/-- The list of bound values. -/
def boundListing (values : List BoundValue) : String :=
  line "" ++ line "-- Bound values"
    ++ String.join (values.map fun b => line ("-- " ++ toString b.position ++ ": "
      ++ b.value.diagnostic ++ " (" ++ b.descriptor.code.name ++ ")"))

/-- Binds the parameters of a translated statement. -/
def bound (w : Surroundings) (t : Translated) (b : Bindings) : Except Failure (List BoundValue) := do
  let preferred ← (t.settings.preferred w.env).mapError .configuration
  (t.operation.bindValues b .standard preferred).mapError .binding

/-- The outcome of a translation: the operation, and the bound values if there are bindings. -/
def translate (w : Surroundings) (r : TranslateRequest) : Outcome :=
  match translated w r with
  | .error f => f.outcome ""
  | .ok t =>
    let listing := operationListing r.output t.operation
    match t.bindings?.map (bound w t) with
    | none => ⟨0, listing, ""⟩
    | some (.ok values) => ⟨0, listing ++ boundListing values, ""⟩
    | some (.error f) => f.outcome listing

/-- The outcome of a command. -/
def Command.outcome (w : Surroundings) : Command → Outcome
  | translate request => Cli.translate w request
  | dialects => ⟨0, dialectsListing, ""⟩
  | help topic => ⟨0, topic.text, ""⟩
  | version => ⟨0, versionText, ""⟩

/-- The outcome of a run with the given arguments. -/
def run (w : Surroundings) (args : List String) : Outcome :=
  match Command.ofArguments args with
  | .ok command => command.outcome w
  | .error error => (Failure.usage error).outcome ""

/-! ### What a run looks at -/

namespace Command

/-- The paths of the settings that a run may read. -/
def settingsPaths (w : Surroundings) : Command → List String
  | translate request =>
    match request.config?, w.env Settings.pathVariable with
    | some path, _ => [path]
    | none, some path => [path]
    | none, none => Settings.optionalPaths w
  | _ => []

/-- The paths of the statement and the bindings that a run may read. -/
def inputPaths : Command → List String
  | translate request => request.file :: request.bindings?.toList
  | _ => []

end Command

end SqlDialects.Cli
