/-!
# Files

What a program finds at the paths it looks at: a text, or the reason why there is none. A `Tree` says
what is there, and `Files.ofTree` follows a path through it name by name.
-/

namespace SqlDialects

/-- Why no text can be read at a path. -/
inductive FileFault where
  | notFound
  /-- A part of the path that should be a directory is none. -/
  | notDirectory
  | isDirectory
  /-- The path, or a name on it, has more bytes than any file could have. -/
  | nameTooLong
  | permissionDenied
  /-- The bytes of the file are no text. -/
  | notText
deriving DecidableEq, Repr

namespace FileFault

/-- The wording of a fault. -/
def message : FileFault → String
  | notFound => "No such file or directory (os error 2)"
  | notDirectory => "Not a directory (os error 20)"
  | isDirectory => "Is a directory (os error 21)"
  | nameTooLong => "File name too long (os error 36)"
  | permissionDenied => "Permission denied (os error 13)"
  | notText => "stream did not contain valid UTF-8"

/-- Nothing is there at all. -/
def isAbsence : FileFault → Bool
  | notFound => true
  | notDirectory => true
  | nameTooLong => true
  | _ => false

end FileFault

/-- What is found at each path. -/
abbrev Files := String → Except FileFault String

/-- The names on the way from the root of a tree. -/
abbrev Way := List String

/-- What lies at the end of a way. -/
inductive Entry where
  | directory
  | file (text : String)

/-- Files and directories by their ways. The directories on a listed way need not be listed. -/
abbrev Tree := List (Way × Entry)

namespace Tree

/-- The number of bytes that a name may have. -/
def nameLimit : Nat := 255

/-- The number of bytes that a path has to stay below. -/
def pathLimit : Nat := 4096

/-- What lies at the end of a way, if anything does. -/
def entry? (tree : Tree) (way : Way) : Option Entry :=
  match tree.lookup way with
  | some entry => some entry
  | none => if tree.any fun listed => way.isPrefixOf listed.1 then some .directory else none

/-- Files below a directory, given by their paths from there. -/
def ofTexts (directory : Way) (texts : List (String × String)) : Tree :=
  texts.map fun (path, text) =>
    (directory ++ (path.splitOn "/").filter fun name => name ≠ "" ∧ name ≠ ".", .file text)

/-- Follows names from a directory on. Nothing lies above the root, and nothing below a file. -/
def follow (tree : Tree) (directory : Way) : List String → Except FileFault String
  | [] => .error .isDirectory
  | name :: rest =>
    if name = "" ∨ name = "." then follow tree directory rest
    else if name = ".." then follow tree directory.dropLast rest
    else if nameLimit < name.utf8ByteSize then .error .nameTooLong
    else
      match tree.entry? (directory ++ [name]) with
      | some .directory => follow tree (directory ++ [name]) rest
      | some (.file text) => if rest.isEmpty then .ok text else .error .notDirectory
      | none => .error .notFound

end Tree

namespace Files

/-- Something is there at a path, even if it cannot be read. -/
def hasPath (files : Files) (path : String) : Bool :=
  match files path with
  | .ok _ => true
  | .error fault => !fault.isAbsence

/-- The files of a tree. Paths start at its root or, without a slash in front, at the given
directory. -/
def ofTree (tree : Tree) (working : Way) : Files := fun path =>
  if path.isEmpty then .error .notFound
  else if Tree.pathLimit ≤ path.utf8ByteSize then .error .nameTooLong
  else tree.follow (if path.startsWith "/" then [] else working) (path.splitOn "/")

end Files

end SqlDialects
