import SqlDialects.Text.Alphanumeric

/-!
# Variables in texts

A text may refer to variables of the environment, in braces or as a bare name behind a dollar sign.
`Template.ofString` cuts a text into characters and references, and `Template.expand` puts the values
in; a value is never looked into again.
-/

namespace SqlDialects

/-- The variables that are set, with their values. -/
abbrev Environment := String → Option String

namespace Environment

/-- No variable is set. -/
def empty : Environment := fun _ => none

/-- What follows a start of a list, if it is one. -/
def afterStart? : List Char → List Char → Option (List Char)
  | [], cs => some cs
  | s :: ss, c :: cs => if s = c then afterStart? ss cs else none
  | _ :: _, [] => none

/-- The value of a name in an entry of an environment block: what stands behind the name and an
equals sign. -/
def entryValue? (name : String) (entry : String × String) : Option String :=
  (afterStart? (name ++ "=").toList (entry.1 ++ "=" ++ entry.2).toList).map String.ofList

/-- The variables of an environment block; no variable has an empty name. -/
def ofEntries (entries : List (String × String)) : Environment := fun name =>
  if name.isEmpty then none else entries.findSome? (entryValue? name)

end Environment

/-- A piece of a text with references. -/
inductive Piece where
  | char (c : Char)
  | variable (name : String)
deriving DecidableEq, Repr

/-- A text cut into pieces. -/
abbrev Template := List Piece

namespace Template

/-- Where a reader of a text stands; the names of references are held in reverse. -/
inductive Position where
  | outside
  /-- Behind a dollar sign. -/
  | afterDollar
  /-- Inside the braces of a reference. -/
  | inBraces (name : List Char)
  /-- In the bare name of a reference, which is not empty. -/
  | inName (name : List Char)

/-- A reference to the variable of a name held in reverse. -/
def reference (name : List Char) : Piece := .variable (String.ofList name.reverse)

/-- The pieces of a text that is read from the given position on. -/
def scan : Position → List Char → Template
  | .outside, [] => []
  | .outside, c :: cs => if c = '$' then scan .afterDollar cs else .char c :: scan .outside cs
  | .afterDollar, [] => [.char '$']
  | .afterDollar, c :: cs =>
    if c = '\x7b' then scan (.inBraces []) cs
    else if Text.isNameChar c then scan (.inName [c]) cs
    else if c = '$' then .char '$' :: scan .afterDollar cs
    else .char '$' :: .char c :: scan .outside cs
  | .inBraces name, [] => [reference name]
  | .inBraces name, c :: cs =>
    if c = '\x7d' then reference name :: scan .outside cs else scan (.inBraces (c :: name)) cs
  | .inName name, [] => [reference name]
  | .inName name, c :: cs =>
    if Text.isNameChar c then scan (.inName (c :: name)) cs
    else if c = '$' then reference name :: scan .afterDollar cs
    else reference name :: .char c :: scan .outside cs

/-- The pieces of a text. -/
def ofString (text : String) : Template := scan .outside text.toList

/-- The names of the variables referred to, in order. -/
def names (t : Template) : List String :=
  t.filterMap fun
    | .variable name => some name
    | .char _ => none

/-- The text with the values of its variables, or the first name that is not set. -/
def expandChars (env : Environment) : Template → Except String (List Char)
  | [] => .ok []
  | .char c :: pieces => do
    let rest ← expandChars env pieces
    .ok (c :: rest)
  | .variable name :: pieces =>
    match env name with
    | none => .error name
    | some value => do
      let rest ← expandChars env pieces
      .ok (value.toList ++ rest)

/-- The text with the values of its variables, or the first name that is not set. -/
def expand (env : Environment) (t : Template) : Except String String :=
  (t.expandChars env).map String.ofList

end Template

/-- A text with the values of the variables it refers to, or the first name that is not set. -/
def Environment.expand (env : Environment) (text : String) : Except String String :=
  (Template.ofString text).expand env

end SqlDialects
