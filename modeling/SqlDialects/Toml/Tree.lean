import SqlDialects.Json.Basic

/-!
# Tables under construction

The tables of a TOML document while its lines are read. A table may be named before it is declared, and
is declared at most once; a table that dotted keys have made is extended by dotted keys only. What has
been given a value is closed.
-/

namespace SqlDialects.Toml

/-- How a table came to be. -/
inductive Origin where
  /-- Named by the header of a table inside it. -/
  | implied
  /-- Declared by a header of its own. -/
  | declared
  /-- Made by dotted keys. -/
  | dotted
deriving DecidableEq, Repr

/-- What a key stands for. -/
inductive Node where
  | closed (value : Json)
  | table (origin : Origin) (members : List (String × Node))
  /-- An array of tables, the last one first. -/
  | tables (newestFirst : List (List (String × Node)))

/-- The members of an open table. -/
abbrev Members := List (String × Node)

namespace Node

mutual

/-- The document of a node. -/
def toJson : Node → Json
  | closed value => value
  | table _ members => .object (membersToJson members)
  | tables newestFirst => .array (tablesToJson newestFirst).reverse

/-- The documents of members, each with its key. -/
def membersToJson : List (String × Node) → List (String × Json)
  | [] => []
  | (key, node) :: rest => (key, node.toJson) :: membersToJson rest

/-- The documents of tables, one by one. -/
def tablesToJson : List (List (String × Node)) → List Json
  | [] => []
  | members :: rest => .object (membersToJson members) :: tablesToJson rest

end

end Node

namespace Members

/-- Replaces the node of a key, or adds it. -/
def set (key : String) (node : Node) : Members → Members
  | [] => [(key, node)]
  | member :: rest => if member.1 = key then (key, node) :: rest else member :: set key node rest

/-- Changes the members of the table at a path of keys, and makes the tables on the way that are
missing. A path of dotted keys ends at a table that a header has declared. -/
def modifyAt (byDots : Bool) (f : Members → Option Members) : List String → Members → Option Members
  | [], ms => f ms
  | key :: path, ms =>
    match ms.lookup key with
    | none => do
      let inner ← modifyAt byDots f path []
      some (ms.set key (.table (if byDots then .dotted else .implied) inner))
    | some (.table origin inner) =>
      if byDots && decide (origin = .declared) then none
      else do
        let inner ← modifyAt byDots f path inner
        some (ms.set key (.table origin inner))
    | some (.tables (newest :: older)) =>
      if byDots then none
      else do
        let newest ← modifyAt byDots f path newest
        some (ms.set key (.tables (newest :: older)))
    | some _ => none

/-- Gives a new key a value. -/
def assign (key : String) (value : Json) (ms : Members) : Option Members :=
  match ms.lookup key with
  | none => some (ms.set key (.closed value))
  | some _ => none

/-- Declares a table. -/
def declare (key : String) (ms : Members) : Option Members :=
  match ms.lookup key with
  | none => some (ms.set key (.table .declared []))
  | some (.table .implied inner) => some (ms.set key (.table .declared inner))
  | some _ => none

/-- Adds a table to an array of tables. -/
def push (key : String) (ms : Members) : Option Members :=
  match ms.lookup key with
  | none => some (ms.set key (.tables [[]]))
  | some (.tables newestFirst) => some (ms.set key (.tables ([] :: newestFirst)))
  | some _ => none

/-- Carries out a change at a dotted key: the last part names what changes, and the parts before it
the tables on the way. -/
def atKey (byDots : Bool) (f : String → Members → Option Members) (path : List String) (ms : Members) :
    Option Members :=
  match path.reverse with
  | [] => none
  | key :: before => modifyAt byDots (f key) before.reverse ms

/-- Gives a dotted key of a table a value. -/
def assignAt (table key : List String) (value : Json) (ms : Members) : Option Members :=
  modifyAt false (atKey true (fun last => assign last value) key) table ms

theorem lookup_set (key : String) (node : Node) (ms : Members) :
    (ms.set key node).lookup key = some node := by
  induction ms with
  | nil => simp [set]
  | cons m ms ih =>
    unfold set
    split
    · simp
    · next h =>
      have : (key == m.1) = false := by simpa using fun e => h e.symm
      obtain ⟨k, n⟩ := m
      simpa [List.lookup_cons, this] using ih

end Members

end SqlDialects.Toml
