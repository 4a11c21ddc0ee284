import SqlDialects.Cli.Run

/-!
# The program

Collects what a run looks at, runs it, and prints what it leaves behind. Nothing is decided here.
-/

namespace SqlDialects.Cli

/-- What is found at a path. -/
def readPath (path : String) : IO (Except FileFault String) := do
  if path.isEmpty then return .error .notFound
  try
    let bytes ← IO.FS.readBinFile path
    match String.fromUTF8? bytes with
    | some text => return .ok text
    | none => return .error .notText
  catch
    | .noFileOrDirectory .. => return .error .notFound
    | .permissionDenied .. => return .error .permissionDenied
    | .inappropriateType _ code _ => return .error (ofCode code)
    | .invalidArgument _ code _ => return .error (ofCode code)
    | _ => return .error .isDirectory
where
  /-- The fault that a code stands for, which may be negated. -/
  ofCode (code : UInt32) : FileFault :=
    if code = 20 ∨ code = -20 then .notDirectory
    else if code = 36 ∨ code = -36 then .nameTooLong
    else .isDirectory

/-- What is found at several paths. -/
def readPaths (paths : List String) : IO Files := do
  let found ← paths.mapM fun path => do return (path, ← readPath path)
  return fun path => (found.lookup path).getD (.error .notFound)

/-- The values of several variables. -/
def readVariables (names : List String) : IO Environment := do
  let found ← names.mapM fun name => do return (name, ← IO.getEnv name)
  return fun name => (found.lookup name).getD none

/-- The directory of the user's settings. -/
def userDirectory? : IO (Option String) := do
  match ← IO.getEnv "XDG_CONFIG_HOME" with
  | some directory =>
    if directory.startsWith "/" then return some directory else homeDirectory?
  | none => homeDirectory?
where
  /-- The directory of settings in the user's home. -/
  homeDirectory? : IO (Option String) := do
    return (← IO.getEnv "HOME").map (· ++ "/.config")

/-- Collects what a command looks at. -/
def collect (command : Command) : IO Surroundings := do
  let userDirectory? ← userDirectory?
  let env ← readVariables [Settings.pathVariable]
  let paths := command.settingsPaths ⟨fun _ => .error .notFound, env, userDirectory?⟩
  let settings ← paths.filterMapM fun path => do
    match ← readPath path with
    | .ok text => return (Settings.ofToml text).toOption
    | .error _ => return none
  let env ← readVariables (Settings.pathVariable :: settings.flatMap Settings.variableNames)
  let files ← readPaths (paths ++ command.inputPaths)
  return ⟨files, env, userDirectory?⟩

/-- Runs the program on its arguments and gives its status. -/
def start (args : List String) : IO UInt32 := do
  let surroundings ← match Command.ofArguments args with
    | .ok command => collect command
    | .error _ => pure ⟨fun _ => .error .notFound, .empty, none⟩
  let outcome := run surroundings args
  IO.print outcome.stdout
  IO.eprint outcome.stderr
  return outcome.status.toUInt32

end SqlDialects.Cli

/-- Runs the program on its arguments. -/
def main (args : List String) : IO UInt32 := SqlDialects.Cli.start args
