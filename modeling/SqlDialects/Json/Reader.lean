import SqlDialects.Json.Basic

/-!
# Reading documents

The reader of JSON texts, which refuses what is not well formed. Parts that are well formed but nested
too deeply, numbers too large for a double and strings with half of a surrogate pair are read as
unreadable, so that only who looks at them fails.
-/

namespace SqlDialects.Json.Reader

/-- Nesting at which arrays and objects are unreadable. -/
def nestingLimit : Nat := 128

/-- White space between tokens. -/
def isSpace (c : Char) : Bool := c == ' ' || c == '\n' || c == '\t' || c == '\r'

/-- The text without white space in front. -/
def skipSpace (cs : List Char) : List Char := cs.dropWhile isSpace

/-- The value of a hexadecimal digit. -/
def hexValue? (c : Char) : Option Nat :=
  if '0' ≤ c ∧ c ≤ '9' then some (c.toNat - '0'.toNat)
  else if 'a' ≤ c ∧ c ≤ 'f' then some (c.toNat - 'a'.toNat + 10)
  else if 'A' ≤ c ∧ c ≤ 'F' then some (c.toNat - 'A'.toNat + 10)
  else none

/-- Four hexadecimal digits and what follows them. -/
def hexUnit? : List Char → Option (Nat × List Char)
  | a :: b :: c :: d :: rest => do
    let a ← hexValue? a
    let b ← hexValue? b
    let c ← hexValue? c
    let d ← hexValue? d
    some (((a * 16 + b) * 16 + c) * 16 + d, rest)
  | _ => none

/-- The second half of a surrogate pair, if the escape of one comes next. -/
def lowSurrogate? : List Char → Option (Nat × List Char)
  | '\\' :: 'u' :: rest => do
    let (unit, rest) ← hexUnit? rest
    if 0xdc00 ≤ unit ∧ unit ≤ 0xdfff then some (unit, rest) else none
  | _ => none

/-- The character of an escape by code units, and what follows it. Half of a surrogate pair stands for no
character. -/
def escapedUnit? (cs : List Char) : Option (Option Char × List Char) := do
  let (unit, rest) ← hexUnit? cs
  if 0xdc00 ≤ unit ∧ unit ≤ 0xdfff then some (none, rest)
  else if 0xd800 ≤ unit ∧ unit ≤ 0xdbff then
    match lowSurrogate? rest with
    | some (low, rest) =>
      some (some (Char.ofNat ((unit - 0xd800) * 0x400 + (low - 0xdc00) + 0x10000)), rest)
    | none => some (none, rest)
  else some (some (Char.ofNat unit), rest)

/-- The character of an escape, read after its backslash. -/
def escaped? : List Char → Option (Option Char × List Char)
  | '"' :: rest => some ('"', rest)
  | '\\' :: rest => some ('\\', rest)
  | '/' :: rest => some ('/', rest)
  | 'b' :: rest => some (Char.ofNat 8, rest)
  | 'f' :: rest => some (Char.ofNat 12, rest)
  | 'n' :: rest => some ('\n', rest)
  | 'r' :: rest => some ('\r', rest)
  | 't' :: rest => some ('\t', rest)
  | 'u' :: rest => escapedUnit? rest
  | _ => none

/-- The characters of a string up to its closing quote, in reverse, and what follows. -/
def stringChars? (acc : List (Option Char)) :
    Nat → List Char → Option (List (Option Char) × List Char)
  | 0, _ => none
  | _ + 1, [] => none
  | fuel + 1, c :: rest =>
    if c = '"' then some (acc, rest)
    else if c = '\\' then do
      let (c, rest) ← escaped? rest
      stringChars? (c :: acc) fuel rest
    else if c.toNat < 0x20 then none
    else stringChars? (c :: acc) fuel rest

/-- A string read after its opening quote, whose text is missing if it holds what is no character. -/
def string? (cs : List Char) : Option (Option String × List Char) := do
  let (chars, rest) ← stringChars? [] (cs.length + 1) cs
  some ((chars.reverse.mapM id).map String.ofList, rest)

/-- The number written by digits. -/
def digitsValue (cs : List Char) : Nat :=
  cs.foldl (fun n c => n * 10 + (c.toNat - '0'.toNat)) 0

/-- An optional exponent: absent, or present with its value, and what follows. -/
def exponent? : List Char → Option (Option Int × List Char)
  | c :: rest =>
    if c = 'e' ∨ c = 'E' then
      let (negative, rest) := match rest with
        | '+' :: rest => (false, rest)
        | '-' :: rest => (true, rest)
        | rest => (false, rest)
      let digits := rest.takeWhile Char.isDigit
      if digits.isEmpty then none
      else
        let n : Int := digitsValue digits
        some (some (if negative then -n else n), rest.dropWhile Char.isDigit)
    else some (none, c :: rest)
  | [] => some (none, [])

/-- An optional fraction: its digits, or nothing, and what follows. -/
def fraction? : List Char → Option (Option (List Char) × List Char)
  | '.' :: rest =>
    let digits := rest.takeWhile Char.isDigit
    if digits.isEmpty then none else some (some digits, rest.dropWhile Char.isDigit)
  | rest => some (none, rest)

/-- The integer part of a number, which has no superfluous zero. -/
def integral? (cs : List Char) : Option (List Char × List Char) :=
  let digits := cs.takeWhile Char.isDigit
  match digits with
  | [] => none
  | ['0'] => some (digits, cs.dropWhile Char.isDigit)
  | '0' :: _ => none
  | _ => some (digits, cs.dropWhile Char.isDigit)

/-- The number `digits * 10 ^ exponent` with a sign, readable if some double is near it. -/
def decimal (negative : Bool) (digits : Nat) (exponent : Int) : Json :=
  if (Binary.ofDecimal negative digits exponent : Binary64).isFinite then
    .decimal negative ⟨digits, exponent⟩
  else .unreadable

/-- An integer. Only sixty-four bits of it are held; with a minus sign, zero and what needs the bit of
the sign are doubles. -/
def integer (negative : Bool) (n : Nat) : Json :=
  if Nat.pow 2 64 ≤ n then decimal negative n 0
  else if !negative then .integer n
  else if n = 0 ∨ Nat.pow 2 63 < n then .float .double (Binary.ofRatio negative n 1)
  else .integer (-(n : Int))

/-- A number. -/
def number? (cs : List Char) : Option (Json × List Char) := do
  let (negative, cs) := match cs with
    | '-' :: rest => (true, rest)
    | cs => (false, cs)
  let (integral, cs) ← integral? cs
  let (fraction, cs) ← fraction? cs
  let (exponent, cs) ← exponent? cs
  match fraction, exponent with
  | none, none => some (integer negative (digitsValue integral), cs)
  | _, _ =>
    let digits := fraction.getD []
    let n := digitsValue (integral ++ digits)
    some (decimal negative n (exponent.getD 0 - digits.length), cs)

/-- The text after a keyword, if it starts with it. -/
def keyword? : List Char → List Char → Option (List Char)
  | [], cs => some cs
  | k :: ks, c :: cs => if k = c then keyword? ks cs else none
  | _ :: _, [] => none

/-- A document inside so many arrays and objects, unless these are too many. -/
def nested (nesting : Nat) (j : Json) : Json :=
  if nestingLimit ≤ nesting + 1 then .unreadable else j

/-- A text that may be missing. -/
def textOf : Option String → Json
  | some s => .string s
  | none => .unreadable

/-- The object of some members, all of which need a name. -/
def objectOf (members : List (Option String × Json)) : Json :=
  match members.mapM fun (name, value) => name.map fun name => (name, value) with
  | some members => .object members
  | none => .unreadable

mutual

/-- A value inside so many arrays and objects, and what follows it. -/
def value? (nesting : Nat) : Nat → List Char → Option (Json × List Char)
  | 0, _ => none
  | fuel + 1, cs =>
    match skipSpace cs with
    | [] => none
    | '"' :: rest => do
      let (s, rest) ← string? rest
      some (textOf s, rest)
    | '[' :: rest =>
      match skipSpace rest with
      | ']' :: rest => some (nested nesting (.array []), rest)
      | _ => do
        let (items, rest) ← items? (nesting + 1) fuel rest
        some (nested nesting (.array items), rest)
    | '\x7b' :: rest =>
      match skipSpace rest with
      | '\x7d' :: rest => some (nested nesting (.object []), rest)
      | _ => do
        let (members, rest) ← members? (nesting + 1) fuel rest
        some (nested nesting (objectOf members), rest)
    | 'n' :: rest => do
      let rest ← keyword? ['u', 'l', 'l'] rest
      some (.null, rest)
    | 't' :: rest => do
      let rest ← keyword? ['r', 'u', 'e'] rest
      some (.bool true, rest)
    | 'f' :: rest => do
      let rest ← keyword? ['a', 'l', 's', 'e'] rest
      some (.bool false, rest)
    | rest => number? rest

/-- The items of an array that is not empty, up to its closing bracket. -/
def items? (nesting : Nat) : Nat → List Char → Option (List Json × List Char)
  | 0, _ => none
  | fuel + 1, cs => do
    let (item, rest) ← value? nesting fuel cs
    match skipSpace rest with
    | ',' :: rest => do
      let (items, rest) ← items? nesting fuel rest
      some (item :: items, rest)
    | ']' :: rest => some ([item], rest)
    | _ => none

/-- The members of an object that is not empty, up to its closing brace. -/
def members? (nesting : Nat) :
    Nat → List Char → Option (List (Option String × Json) × List Char)
  | 0, _ => none
  | fuel + 1, cs =>
    match skipSpace cs with
    | '"' :: rest => do
      let (name, rest) ← string? rest
      match skipSpace rest with
      | ':' :: rest => do
        let (value, rest) ← value? nesting fuel rest
        match skipSpace rest with
        | ',' :: rest => do
          let (members, rest) ← members? nesting fuel rest
          some ((name, value) :: members, rest)
        | '\x7d' :: rest => some ([(name, value)], rest)
        | _ => none
      | _ => none
    | _ => none

end

end SqlDialects.Json.Reader

namespace SqlDialects.Json

/-- The document that a text holds. Nothing but white space may follow it. -/
def ofString? (text : String) : Option Json :=
  let cs := text.toList
  match Reader.value? 0 (cs.length + 1) cs with
  | some (value, rest) => if (Reader.skipSpace rest).isEmpty then some value else none
  | none => none

end SqlDialects.Json
