import SqlDialects.Json.Basic
import SqlDialects.Number.Notation

/-!
# Writing documents

The two written forms of a JSON document: without any white space, and with one member or item a
line, indented by two blanks a level.
-/

namespace SqlDialects.Json

/-- The escape of a character inside a string. -/
def escapeChar (c : Char) : List Char :=
  if c = '"' then ['\\', '"']
  else if c = '\\' then ['\\', '\\']
  else if c = '\n' then ['\\', 'n']
  else if c = '\r' then ['\\', 'r']
  else if c = '\t' then ['\\', 't']
  else if c.toNat = 8 then ['\\', 'b']
  else if c.toNat = 12 then ['\\', 'f']
  else if c.toNat < 0x20 then
    ['\\', 'u', '0', '0', Nat.digitChar (c.toNat / 16), Nat.digitChar (c.toNat % 16)]
  else [c]

/-- A string between quotes. -/
def quoted (s : String) : String :=
  String.ofList ('"' :: (s.toList.flatMap escapeChar ++ ['"']))

/-- The text of a document that holds no other document. What cannot be written is null. -/
def scalarText : Json → String
  | null => "null"
  | bool true => "true"
  | bool false => "false"
  | integer n => toString n
  | float .double x => if x.isFinite then x.text .document else "null"
  | decimal negative d =>
    (Binary.ofDecimal negative d.digits d.exponent : Binary64).text .document
  | float .single x => if x.isFinite then x.text .singleDocument else "null"
  | string s => quoted s
  | unreadable => "null"
  | array _ => "[]"
  | object _ => "\x7b\x7d"

mutual

/-- The text of a document without white space. -/
def compact : Json → String
  | array items => "[" ++ compactItems items ++ "]"
  | object members => "\x7b" ++ compactMembers members ++ "\x7d"
  | scalar => scalar.scalarText

/-- Items separated by commas. -/
def compactItems : List Json → String
  | [] => ""
  | [item] => item.compact
  | item :: rest => item.compact ++ "," ++ compactItems rest

/-- Members separated by commas. -/
def compactMembers : List (String × Json) → String
  | [] => ""
  | [(name, value)] => quoted name ++ ":" ++ value.compact
  | (name, value) :: rest => quoted name ++ ":" ++ value.compact ++ "," ++ compactMembers rest

end

/-- A new line indented to the given level. -/
def newline (level : Nat) : String :=
  String.ofList ('\n' :: List.replicate (2 * level) ' ')

mutual

/-- The text of a document on several lines, the first of which is at the given level. -/
def indented (level : Nat) : Json → String
  | array (item :: rest) =>
    "[" ++ newline (level + 1) ++ item.indented (level + 1) ++ indentedItems (level + 1) rest
      ++ newline level ++ "]"
  | object ((name, value) :: rest) =>
    "\x7b" ++ newline (level + 1) ++ quoted name ++ ": " ++ value.indented (level + 1)
      ++ indentedMembers (level + 1) rest ++ newline level ++ "\x7d"
  | scalar => scalar.scalarText

/-- Items after the first one, each on a line of its own. -/
def indentedItems (level : Nat) : List Json → String
  | [] => ""
  | item :: rest => "," ++ newline level ++ item.indented level ++ indentedItems level rest

/-- Members after the first one, each on a line of its own. -/
def indentedMembers (level : Nat) : List (String × Json) → String
  | [] => ""
  | (name, value) :: rest =>
    "," ++ newline level ++ quoted name ++ ": " ++ value.indented level
      ++ indentedMembers level rest

end

/-- The text of a document on several lines. -/
def pretty (j : Json) : String := j.indented 0

end SqlDialects.Json
