import SqlDialects.Dialect.Basic

/-!
# Command line arguments

The commands of the program and how they are given. Arguments are read from left to right, and the
first one that is at fault, or that asks for help, decides.
-/

namespace SqlDialects.Cli

/-- The form in which a translated statement is printed. -/
inductive OutputFormat where
  /-- The SQL text, followed by a list of the parameters. -/
  | sql
  /-- The whole operation as a document. -/
  | json
deriving DecidableEq, Repr

/-- A wish to translate a statement. -/
structure TranslateRequest where
  /-- The path of the statement. -/
  file : String
  dialect? : Option Dialect
  /-- The path of the settings. -/
  config? : Option String
  /-- The path of the bindings. -/
  bindings? : Option String
  output : OutputFormat

/-- What there is help about. -/
inductive HelpTopic where
  | program
  /-- The command that translates, in brief or at length. -/
  | translate (long : Bool)
  | dialects
  | help
deriving DecidableEq, Repr

/-- What the program is asked to do. -/
inductive Command where
  | translate (request : TranslateRequest)
  | dialects
  | help (topic : HelpTopic)
  | version

/-- Arguments that make no command. -/
inductive UsageError where
  | missingCommand
  | unknownCommand (name : String)
  | unexpected (argument : String)
  | missingValue (option : String)
  | invalidValue (option value : String)
  | repeated (option : String)
  | missingFile
deriving DecidableEq, Repr

/-- The wording of a usage error. -/
def UsageError.message : UsageError → String
  | missingCommand => "error: a command is required"
  | unknownCommand name => "error: unrecognized command '" ++ name ++ "'"
  | unexpected argument => "error: unexpected argument '" ++ argument ++ "'"
  | missingValue option => "error: a value is required for '" ++ option ++ "'"
  | invalidValue option value => "error: invalid value '" ++ value ++ "' for '" ++ option ++ "'"
  | repeated option => "error: the argument '" ++ option ++ "' cannot be used multiple times"
  | missingFile => "error: a statement file is required"

/-- The options of a translation, each of which takes a value. -/
inductive Setting where
  | dialect
  | config
  | bindings
  | output
deriving DecidableEq, Repr

namespace Setting

/-- Every option. -/
def all : List Setting := [dialect, config, bindings, output]

/-- The name of an option behind two dashes. -/
def longName : Setting → String
  | dialect => "dialect"
  | config => "config"
  | bindings => "bindings"
  | output => "output"

/-- The letter of an option behind one dash. -/
def letter : Setting → Char
  | dialect => 'd'
  | config => 'c'
  | bindings => 'b'
  | output => 'o'

/-- The option with its dashes. -/
def spelled (s : Setting) : String := "--" ++ s.longName

/-- The option of a name. -/
def ofLongName? (name : String) : Option Setting := all.find? (·.longName == name)

/-- The option of a letter. -/
def ofLetter? (c : Char) : Option Setting := all.find? (·.letter == c)

end Setting

/-- The arguments of a translation that have been read so far. -/
structure Gathered where
  file? : Option String := none
  dialect? : Option Dialect := none
  config? : Option String := none
  bindings? : Option String := none
  output? : Option OutputFormat := none

namespace Gathered

/-- A value that an option takes at most once. -/
def once {α : Type} (s : Setting) (earlier : Option α) (value : α) : Except UsageError (Option α) :=
  match earlier with
  | some _ => .error (.repeated s.spelled)
  | none => .ok (some value)

/-- A path, which is not empty. -/
def path (s : Setting) (value : String) : Except UsageError String :=
  if value.isEmpty then .error (.invalidValue s.spelled value) else .ok value

/-- The dialect of exactly the given name. -/
def dialectOf (value : String) : Except UsageError Dialect :=
  match Dialect.all.find? (·.name == value) with
  | some d => .ok d
  | none => .error (.invalidValue Setting.dialect.spelled value)

/-- The output format of a name. -/
def outputOf (value : String) : Except UsageError OutputFormat :=
  match value with
  | "sql" => .ok .sql
  | "json" => .ok .json
  | _ => .error (.invalidValue Setting.output.spelled value)

/-- Gives an option its value. -/
def give (g : Gathered) (s : Setting) (value : String) : Except UsageError Gathered :=
  match s with
  | .dialect => do
    let dialect? ← once s g.dialect? (← dialectOf value)
    .ok { g with dialect? }
  | .config => do
    let config? ← once s g.config? (← path s value)
    .ok { g with config? }
  | .bindings => do
    let bindings? ← once s g.bindings? (← path s value)
    .ok { g with bindings? }
  | .output => do
    let output? ← once s g.output? (← outputOf value)
    .ok { g with output? }

/-- Gives the path of the statement. -/
def giveFile (g : Gathered) (value : String) : Except UsageError Gathered :=
  match g.file? with
  | some _ => .error (.unexpected value)
  | none => if value.isEmpty then .error .missingFile else .ok { g with file? := some value }

/-- Gives the path of the statement by arguments that stand behind two dashes. -/
def giveFiles (g : Gathered) : List String → Except UsageError Gathered
  | [] => .ok g
  | arg :: args => do
    let g ← g.giveFile arg
    giveFiles g args

/-- The wish that the arguments amount to. -/
def request (g : Gathered) : Except UsageError Command :=
  match g.file? with
  | none => .error .missingFile
  | some file =>
    .ok (.translate ⟨file, g.dialect?, g.config?, g.bindings?, g.output?.getD .sql⟩)

end Gathered

/-- What a single argument is. -/
inductive Argument where
  /-- Two dashes, behind which nothing is an option any more. -/
  | dashes
  /-- An option by its name, with the value that is attached to it. -/
  | long (name : String) (value? : Option String)
  /-- An option by its letter, and the text behind it. -/
  | short (letter : Char) (rest : List Char)
  | plain (text : String)
deriving DecidableEq, Repr

namespace Argument

/-- An option by its name. -/
def ofLong (cs : List Char) : Argument :=
  match cs.dropWhile (· != '=') with
  | [] => long (String.ofList cs) none
  | _ :: value => long (String.ofList (cs.takeWhile (· != '='))) (some (String.ofList value))

/-- What an argument is. -/
def ofString (arg : String) : Argument :=
  match arg.toList with
  | ['-', '-'] => dashes
  | '-' :: '-' :: cs => ofLong cs
  | '-' :: c :: cs => short c cs
  | _ => plain arg

/-- The value that is attached to a letter; an equals sign may stand between them. -/
def attached? : List Char → Option String
  | [] => none
  | '=' :: cs => some (String.ofList cs)
  | cs => some (String.ofList cs)

end Argument

/-- Reads the arguments of a translation. An option whose value is still to come is pending. -/
def readTranslate (g : Gathered) : Option Setting → List String → Except UsageError Command
  | some s, [] => .error (.missingValue s.spelled)
  | none, [] => g.request
  | some s, arg :: args =>
    match Argument.ofString arg with
    | .plain value => do
      let g ← g.give s value
      readTranslate g none args
    | _ => .error (.missingValue s.spelled)
  | none, arg :: args =>
    match Argument.ofString arg with
    | .dashes => do
      let g ← g.giveFiles args
      g.request
    | .plain file => do
      let g ← g.giveFile file
      readTranslate g none args
    | .long "help" none => .ok (.help (.translate true))
    | .long name value? =>
      match Setting.ofLongName? name, value? with
      | some s, some value => do
        let g ← g.give s value
        readTranslate g none args
      | some s, none => readTranslate g (some s) args
      | none, _ => .error (.unexpected arg)
    | .short 'h' _ => .ok (.help (.translate false))
    | .short c rest =>
      match Setting.ofLetter? c, Argument.attached? rest with
      | some s, some value => do
        let g ← g.give s value
        readTranslate g none args
      | some s, none => readTranslate g (some s) args
      | none, _ => .error (.unexpected arg)

/-- Reads the arguments of the listing of dialects, which takes none. -/
def readDialects : List String → Except UsageError Command
  | [] => .ok .dialects
  | arg :: args =>
    match Argument.ofString arg, args with
    | .long "help" none, _ => .ok (.help .dialects)
    | .short 'h' _, _ => .ok (.help .dialects)
    | .dashes, [] => .ok .dialects
    | .dashes, arg :: _ => .error (.unexpected arg)
    | _, _ => .error (.unexpected arg)

/-- The topic of the help on a command. -/
def HelpTopic.ofCommand? : String → Option HelpTopic
  | "translate" => some (.translate true)
  | "dialects" => some .dialects
  | "help" => some .help
  | _ => none

/-- Reads what help is asked for. -/
def readHelp : List String → Except UsageError Command
  | [] => .ok (.help .program)
  | name :: more =>
    match HelpTopic.ofCommand? name, more with
    | none, _ => .error (.unknownCommand name)
    | some _, name :: _ => .error (.unknownCommand name)
    | some topic, [] => .ok (.help topic)

/-- The command that arguments give. -/
def Command.ofArguments : List String → Except UsageError Command
  | [] => .error .missingCommand
  | "translate" :: args => readTranslate {} none args
  | "dialects" :: args => readDialects args
  | "help" :: args => readHelp args
  | arg :: _ =>
    match Argument.ofString arg with
    | .long "help" none => .ok (.help .program)
    | .short 'h' _ => .ok (.help .program)
    | .long "version" none => .ok .version
    | .short 'V' _ => .ok .version
    | .plain name => .error (.unknownCommand name)
    | _ => .error (.unexpected arg)

end SqlDialects.Cli
