import SqlDialects.Json.Basic

/-!
# Reading parts of documents

Readers of a JSON document. Records are objects in which unknown members are ignored and known ones
occur at most once, or arrays of their first members in order; choices are objects with one member, or
texts where nothing is attached to them.
-/

namespace SqlDialects

/-- A reader of documents. -/
abbrev Decoder (α : Type) := Json → Option α

/-- The members of a record. -/
abbrev Members := List (String × Json)

/-- What a document is read from. -/
inductive DocumentSource where
  /-- A text. Its numbers are rounded once, and contents of choices may be arrays. -/
  | text
  /-- A document that is there as a whole. Its numbers are doubles, and contents of choices are
  objects. -/
  | memory
deriving DecidableEq, Repr

namespace Decoder

/-- Reads a truth value. -/
def bool : Decoder Bool
  | .bool b => some b
  | _ => none

/-- Reads a text. -/
def string : Decoder String
  | .string s => some s
  | _ => none

/-- Reads a text of one character. -/
def char : Decoder Char
  | .string s =>
    match s.toList with
    | [c] => some c
    | _ => none
  | _ => none

/-- Reads an integer between two bounds. -/
def integerBetween (least greatest : Int) : Decoder Int
  | .integer n => if least ≤ n ∧ n ≤ greatest then some n else none
  | _ => none

/-- Reads a natural of thirty-two bits. -/
def word32 : Decoder UInt32 := fun j =>
  (integerBetween 0 ((Nat.pow 2 32 : Int) - 1) j).map fun n => UInt32.ofNat n.toNat

/-- Reads a list. -/
def list {α : Type} (d : Decoder α) : Decoder (List α)
  | .array items => items.mapM d
  | _ => none

/-- Reads a pair. -/
def pair {α β : Type} (d : Decoder α) (e : Decoder β) : Decoder (α × β)
  | .array [a, b] => do
    let a ← d a
    let b ← e b
    some (a, b)
  | _ => none

/-- Reads null as nothing. -/
def nullable {α : Type} (d : Decoder α) : Decoder (Option α)
  | .null => some none
  | j => (d j).map some

/-- The members of an object. -/
def members : Decoder Members
  | .object members => some members
  | _ => none

/-- The members of a record, whose names an array leaves out. -/
def record (names : List String) : Decoder Members
  | .array items => if items.length ≤ names.length then some (names.zip items) else none
  | j => members j

/-- The members of the contents of a choice. -/
def contents (names : List String) : DocumentSource → Decoder Members
  | .text => record names
  | .memory => members

/-- The name of a choice to which nothing is attached. -/
def tag : Decoder String
  | .string s => some s
  | .object [(s, .null)] => some s
  | _ => none

/-- The name of a choice and what is attached to it. -/
def choice : Decoder (String × Json)
  | .object [(s, j)] => some (s, j)
  | _ => none

/-- Reads one of some named values. -/
def oneOf {α : Type} (names : List (String × α)) : Decoder α := fun j =>
  (tag j).bind fun name => names.lookup name

end Decoder

namespace Members

/-- The member of a name, which may be absent but not repeated. -/
def get? (ms : Members) (name : String) : Option (Option Json) :=
  match ms.filter (·.1 == name) with
  | [] => some none
  | [m] => some (some m.2)
  | _ => none

/-- Reads a member that has to be present. -/
def required {α : Type} (ms : Members) (name : String) (d : Decoder α) : Option α := do
  let j? ← ms.get? name
  let j ← j?
  d j

/-- Reads a member that may be absent or null. -/
def optional {α : Type} (ms : Members) (name : String) (d : Decoder α) : Option (Option α) := do
  let j? ← ms.get? name
  match j? with
  | some j => Decoder.nullable d j
  | none => some none

/-- Reads a member that may be absent, in favour of the given value. -/
def withDefault {α : Type} (ms : Members) (name : String) (default : α) (d : Decoder α) : Option α := do
  let j? ← ms.get? name
  match j? with
  | some j => d j
  | none => some default

end Members

end SqlDialects
