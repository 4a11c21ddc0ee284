import SqlDialects.Number.Shortest

/-!
# Documents

The tree of a JSON document. Integers and floating point numbers are told apart, and the members of
an object keep their order and their repetitions. A part that is well formed but beyond what can be held
does no harm as long as nothing reads it.
-/

namespace SqlDialects

/-- A JSON document. -/
inductive Json where
  | null
  | bool (value : Bool)
  | integer (value : Int)
  | float (width : FloatWidth) (value : Binary width)
  /-- A number as it is written, not rounded yet. -/
  | decimal (negative : Bool) (magnitude : Decimal)
  | string (value : String)
  | array (items : List Json)
  | object (members : List (String × Json))
  /-- A part that is too large, too deep, or no text. -/
  | unreadable
deriving Inhabited

namespace Json

mutual

/-- Number of arrays and objects around the innermost node, plus one. -/
def depth : Json → Nat
  | array items => depthItems items + 1
  | object members => depthMembers members + 1
  | _ => 1

/-- The greatest depth among items. -/
def depthItems : List Json → Nat
  | [] => 0
  | item :: rest => max item.depth (depthItems rest)

/-- The greatest depth among members. -/
def depthMembers : List (String × Json) → Nat
  | [] => 0
  | (_, value) :: rest => max value.depth (depthMembers rest)

end

mutual

/-- No part of the document is unreadable. -/
def isWhole : Json → Bool
  | array items => itemsAreWhole items
  | object members => membersAreWhole members
  | unreadable => false
  | _ => true

/-- No item has an unreadable part. -/
def itemsAreWhole : List Json → Bool
  | [] => true
  | item :: rest => item.isWhole && itemsAreWhole rest

/-- No member has an unreadable part. -/
def membersAreWhole : List (String × Json) → Bool
  | [] => true
  | (_, value) :: rest => value.isWhole && membersAreWhole rest

end

/-- Puts a member into an object; a member of the same name gives way. -/
def putMember (name : String) (value : Json) : List (String × Json) → List (String × Json)
  | [] => [(name, value)]
  | member :: rest =>
    if member.1 = name then (name, value) :: rest else member :: putMember name value rest

mutual

/-- The document in which of equally named members only the last is kept. -/
def distinctMembers : Json → Json
  | array items => array (distinctItems items)
  | object members => object (distinctFields members [])
  | other => other

/-- `distinctMembers` on every item. -/
def distinctItems : List Json → List Json
  | [] => []
  | item :: rest => item.distinctMembers :: distinctItems rest

/-- Adds members, in order, to those that come before them. -/
def distinctFields : List (String × Json) → List (String × Json) → List (String × Json)
  | [], earlier => earlier
  | (name, value) :: rest, earlier =>
    distinctFields rest (putMember name value.distinctMembers earlier)

end

/-- The member of the given name, if the document is an object that has one. -/
def member? (name : String) : Json → Option Json
  | object members => members.lookup name
  | _ => none

end Json

end SqlDialects
