import SqlDialects.Json.Reader
import SqlDialects.Toml.Tree

/-!
# Reading TOML

The reader of TOML texts, which yields the same documents as the reader of JSON. Dates and times are
checked for their form only, and read as an empty object.
-/

namespace SqlDialects.Toml.Reader

open SqlDialects.Json.Reader (digitsValue hexValue? keyword?)

/-- Blanks inside a line. -/
def isBlank (c : Char) : Bool := c == ' ' || c == '\t'

/-- The text without blanks in front. -/
def skipBlanks (cs : List Char) : List Char := cs.dropWhile isBlank

/-- Control characters, which only escapes can bring into a text; the tabulator is none. -/
def isControl (c : Char) : Bool := (c.toNat < 0x20 && c != '\t') || c.toNat == 0x7f

/-- The text behind a comment, if there is one. -/
def skipComment : List Char → List Char
  | '#' :: rest => rest.dropWhile fun c => !isControl c
  | cs => cs

/-- The text behind the end of a line, which may be the end of the text. -/
def lineEnd? : List Char → Option (List Char)
  | [] => some []
  | '\n' :: rest => some rest
  | '\r' :: '\n' :: rest => some rest
  | _ => none

/-- The text behind blanks and a comment that end a line. -/
def restOfLine? (cs : List Char) : Option (List Char) := lineEnd? (skipComment (skipBlanks cs))

/-- The text without blanks, comments and line ends in front. -/
def skipLines : Nat → List Char → List Char
  | 0, cs => cs
  | fuel + 1, cs =>
    match skipComment (skipBlanks cs) with
    | '\n' :: rest => skipLines fuel rest
    | '\r' :: '\n' :: rest => skipLines fuel rest
    | rest => rest

/-! ### Strings -/

/-- The character that hexadecimal digits stand for, and what follows so many of them. -/
def codePoint? (digits : Nat) (cs : List Char) : Option (Char × List Char) := do
  let values ← (cs.take digits).mapM hexValue?
  let n := values.foldl (fun n d => n * 16 + d) 0
  if values.length = digits ∧ n.isValidChar then some (Char.ofNat n, cs.drop digits) else none

/-- The character of an escape, read after its backslash. -/
def escaped? : List Char → Option (Char × List Char)
  | 'b' :: rest => some (Char.ofNat 8, rest)
  | 't' :: rest => some ('\t', rest)
  | 'n' :: rest => some ('\n', rest)
  | 'f' :: rest => some (Char.ofNat 12, rest)
  | 'r' :: rest => some ('\r', rest)
  | 'e' :: rest => some (Char.ofNat 0x1b, rest)
  | '"' :: rest => some ('"', rest)
  | '\\' :: rest => some ('\\', rest)
  | 'x' :: rest => codePoint? 2 rest
  | 'u' :: rest => codePoint? 4 rest
  | 'U' :: rest => codePoint? 8 rest
  | _ => none

/-- The characters of a string on one line up to its closing quote, in reverse, and what follows. -/
def lineChars? (quote : Char) (escapes : Bool) (acc : List Char) :
    Nat → List Char → Option (List Char × List Char)
  | 0, _ => none
  | _ + 1, [] => none
  | fuel + 1, c :: rest =>
    if c = quote then some (acc, rest)
    else if escapes && c == '\\' then do
      let (c, rest) ← escaped? rest
      lineChars? quote escapes (c :: acc) fuel rest
    else if isControl c then none
    else lineChars? quote escapes (c :: acc) fuel rest

/-- The text behind an escaped line end: blanks and line ends are left out. -/
def joinedLine? (cs : List Char) : Option (List Char) :=
  match lineEnd? (skipBlanks cs) with
  | some _ => some (cs.dropWhile fun c => isBlank c || c == '\n' || c == '\r')
  | none => none

/-- The text behind the quotes that close a string on several lines, and the number of quotes that
still belong to the string. -/
def closingQuotes? (quote : Char) (cs : List Char) : Option (Nat × List Char) :=
  let n := (cs.takeWhile (· == quote)).length
  if n < 3 then none else some (min n 5 - 3, cs.drop (min n 5))

/-- The characters of a string on several lines, in reverse, and what follows. -/
def blockChars? (quote : Char) (escapes : Bool) (acc : List Char) :
    Nat → List Char → Option (List Char × List Char)
  | 0, _ => none
  | _ + 1, [] => none
  | fuel + 1, c :: rest =>
    match closingQuotes? quote (c :: rest) with
    | some (own, rest) => some (List.replicate own quote ++ acc, rest)
    | none =>
      if escapes && c == '\\' then
        match joinedLine? rest with
        | some rest => blockChars? quote escapes acc fuel rest
        | none => do
          let (c, rest) ← escaped? rest
          blockChars? quote escapes (c :: acc) fuel rest
      else if c = '\r' then
        match rest with
        | '\n' :: rest => blockChars? quote escapes ('\n' :: c :: acc) fuel rest
        | _ => none
      else if isControl c && c != '\n' then none
      else blockChars? quote escapes (c :: acc) fuel rest

/-- A text from characters in reverse. -/
def textOf (found : List Char × List Char) : String × List Char :=
  (String.ofList found.1.reverse, found.2)

/-- The text of a string on several lines without the line end behind its opening quotes. -/
def skipFirstLineEnd : List Char → List Char
  | '\n' :: rest => rest
  | '\r' :: '\n' :: rest => rest
  | rest => rest

/-- A string of any form. -/
def string? (cs : List Char) : Option (String × List Char) :=
  match cs with
  | '"' :: '"' :: '"' :: rest =>
    (blockChars? '"' true [] (rest.length + 1) (skipFirstLineEnd rest)).map textOf
  | '\'' :: '\'' :: '\'' :: rest =>
    (blockChars? '\'' false [] (rest.length + 1) (skipFirstLineEnd rest)).map textOf
  | '"' :: rest => (lineChars? '"' true [] (rest.length + 1) rest).map textOf
  | '\'' :: rest => (lineChars? '\'' false [] (rest.length + 1) rest).map textOf
  | _ => none

/-! ### Keys -/

/-- Characters of a key without quotes. -/
def isKeyChar (c : Char) : Bool := c.isAlphanum || c == '_' || c == '-'

/-- A key without dots. -/
def simpleKey? (cs : List Char) : Option (String × List Char) :=
  match cs with
  | '"' :: rest => (lineChars? '"' true [] (rest.length + 1) rest).map textOf
  | '\'' :: rest => (lineChars? '\'' false [] (rest.length + 1) rest).map textOf
  | cs =>
    let name := cs.takeWhile isKeyChar
    if name.isEmpty then none else some (String.ofList name, cs.dropWhile isKeyChar)

/-- A key, as the keys between its dots. -/
def key? : Nat → List Char → Option (List String × List Char)
  | 0, _ => none
  | fuel + 1, cs => do
    let (key, rest) ← simpleKey? (skipBlanks cs)
    match skipBlanks rest with
    | '.' :: rest => do
      let (path, rest) ← key? fuel rest
      some (key :: path, rest)
    | rest => some ([key], rest)

/-! ### Numbers, dates and times -/

/-- Digits with an underscore between any two of them, or none if the text has another form. -/
def digits? (isDigit : Char → Bool) : List Char → Option (List Char)
  | [] => none
  | [c] => if isDigit c then some [c] else none
  | c :: '_' :: rest => if isDigit c then (digits? isDigit rest).map (c :: ·) else none
  | c :: rest => if isDigit c then (digits? isDigit rest).map (c :: ·) else none

/-- Whether a number has a minus sign, and the number without its sign. -/
def sign (cs : List Char) : Bool × List Char :=
  match cs with
  | '+' :: rest => (false, rest)
  | '-' :: rest => (true, rest)
  | rest => (false, rest)

/-- Digits of an integer part, which has no superfluous zero. -/
def integral? (cs : List Char) : Option (List Char) :=
  match digits? Char.isDigit cs with
  | some ('0' :: _ :: _) => none
  | other => other

/-- An integer in a base that its start names. -/
def based? : List Char → Option Int
  | '0' :: 'x' :: rest => value 16 (fun _ => true) rest
  | '0' :: 'o' :: rest => value 8 (fun d => d < 8) rest
  | '0' :: 'b' :: rest => value 2 (fun d => d < 2) rest
  | _ => none
where
  /-- The value of digits in a base. -/
  value (base : Nat) (isDigit : Nat → Bool) (cs : List Char) : Option Int := do
    let digits ← digits? (fun c => (hexValue? c).any isDigit) cs
    let values ← digits.mapM hexValue?
    some (values.foldl (fun n d => n * base + d) 0 : Nat)

/-- An integer in decimal. -/
def decimal? (cs : List Char) : Option Int :=
  let (negative, cs) := sign cs
  (integral? cs).map fun digits =>
    let n : Int := digitsValue digits
    if negative then -n else n

/-- The exponent of a number; zeros may stand in front of it. -/
def exponent? (cs : List Char) : Option Int :=
  let (negative, cs) := sign cs
  (digits? Char.isDigit cs).map fun digits =>
    let n : Int := digitsValue digits
    if negative then -n else n

/-- A number with a fraction, an exponent or both. -/
def decimalFloat? (cs : List Char) : Option Binary64 := do
  let (negative, cs) := sign cs
  let isE := fun c => c == 'e' || c == 'E'
  let mantissa := cs.takeWhile fun c => !isE c
  let exponent ← match cs.dropWhile fun c => !isE c with
    | [] => some none
    | _ :: rest => (exponent? rest).map some
  let whole ← integral? (mantissa.takeWhile (· != '.'))
  let fraction ← match mantissa.dropWhile (· != '.') with
    | [] => some none
    | _ :: rest => (digits? Char.isDigit rest).map some
  if exponent.isNone && fraction.isNone then none
  else
    let digits := fraction.getD []
    some (Binary.ofDecimal negative (digitsValue (whole ++ digits))
      (exponent.getD 0 - digits.length))

/-- A floating point number; infinities and undefined numbers have names. -/
def float? (cs : List Char) : Option Binary64 :=
  let (negative, rest) := sign cs
  let withSign := fun bits => Binary.ofBits (if negative then bits + Nat.pow 2 63 else bits)
  if rest = ['i', 'n', 'f'] then some (withSign 0x7ff0000000000000)
  else if rest = ['n', 'a', 'n'] then some (withSign 0x7ff8000000000000)
  else decimalFloat? cs

/-- So many digits and a number between two bounds that they make, with what follows. -/
def field? (digits least greatest : Nat) (cs : List Char) : Option (List Char) :=
  let front := cs.take digits
  let n := digitsValue front
  if front.length = digits ∧ front.all Char.isDigit ∧ least ≤ n ∧ n ≤ greatest then
    some (cs.drop digits)
  else none

/-- The text behind a character that it has to start with. -/
def after? (c : Char) : List Char → Option (List Char)
  | first :: rest => if first = c then some rest else none
  | [] => none

/-- The number of days of a month. -/
def daysOfMonth (year month : Nat) : Nat :=
  if month = 2 then
    if year % 4 = 0 ∧ (year % 100 ≠ 0 ∨ year % 400 = 0) then 29 else 28
  else if month = 4 ∨ month = 6 ∨ month = 9 ∨ month = 11 then 30
  else 31

/-- The text behind a date. -/
def afterDate? (cs : List Char) : Option (List Char) := do
  let year := digitsValue (cs.take 4)
  let cs ← field? 4 0 9999 cs
  let cs ← after? '-' cs
  let month := digitsValue (cs.take 2)
  let cs ← field? 2 1 12 cs
  let cs ← after? '-' cs
  field? 2 1 (daysOfMonth year month) cs

/-- The text behind a fraction of a second, if there is one. -/
def afterFraction? : List Char → Option (List Char)
  | '.' :: c :: rest => if c.isDigit then some (rest.dropWhile Char.isDigit) else none
  | '.' :: [] => none
  | cs => some cs

/-- The text behind a time of day, whose seconds may be left out. -/
def afterTime? (cs : List Char) : Option (List Char) := do
  let cs ← field? 2 0 23 cs
  let cs ← after? ':' cs
  let cs ← field? 2 0 59 cs
  match cs with
  | ':' :: cs => (field? 2 0 60 cs).bind afterFraction?
  | cs => some cs

/-- The text behind the distance from universal time, if there is one. -/
def afterOffset? (cs : List Char) : Option (List Char) :=
  match cs with
  | 'Z' :: rest => some rest
  | 'z' :: rest => some rest
  | '+' :: rest => hours rest
  | '-' :: rest => hours rest
  | cs => some cs
where
  /-- The text behind hours and minutes. -/
  hours (cs : List Char) : Option (List Char) := do
    let cs ← field? 2 0 23 cs
    let cs ← after? ':' cs
    field? 2 0 59 cs

/-- A date, a time or both. -/
def isMoment (cs : List Char) : Bool :=
  match afterDate? cs with
  | some [] => true
  | some (c :: rest) =>
    (c == 'T' || c == 't' || c == ' ') && (afterTime? rest).bind afterOffset? == some []
  | none => afterTime? cs == some []

/-- Integers that can be held. -/
def fits (n : Int) : Bool := -(Nat.pow 2 127 : Int) ≤ n && n < (Nat.pow 2 128 : Int)

/-- A number, a date or a time. -/
def plain? (cs : List Char) : Option Json :=
  match based? cs <|> decimal? cs with
  | some n => if fits n then some (.integer n) else none
  | none =>
    match float? cs with
    | some x => some (.float .double x)
    | none => if isMoment cs then some (.object []) else none

/-- Characters of numbers, dates and times. -/
def isPlainChar (c : Char) : Bool :=
  c.isAlphanum || c == '+' || c == '-' || c == '_' || c == '.' || c == ':'

/-- The characters of a number, a date or a time, and what follows. A blank may stand between a date and
a time. -/
def plainChars (cs : List Char) : List Char × List Char :=
  let front := cs.takeWhile isPlainChar
  match afterDate? front, cs.dropWhile isPlainChar with
  | some [], ' ' :: c :: rest =>
    if c.isDigit then
      (front ++ ' ' :: c :: rest.takeWhile isPlainChar, rest.dropWhile isPlainChar)
    else (front, ' ' :: c :: rest)
  | _, rest => (front, rest)

/-! ### Values -/

/-- Nesting at which reading is given up. -/
def nestingLimit : Nat := 80

mutual

/-- A value inside so many arrays and tables, and what follows it. -/
def value? (nesting : Nat) : Nat → List Char → Option (Json × List Char)
  | 0, _ => none
  | fuel + 1, cs =>
    match cs with
    | '"' :: _ => (string? cs).map fun (s, rest) => (.string s, rest)
    | '\'' :: _ => (string? cs).map fun (s, rest) => (.string s, rest)
    | 't' :: rest => (keyword? ['r', 'u', 'e'] rest).map fun rest => (.bool true, rest)
    | 'f' :: rest => (keyword? ['a', 'l', 's', 'e'] rest).map fun rest => (.bool false, rest)
    | '[' :: rest =>
      if nestingLimit ≤ nesting then none
      else do
        let (items, rest) ← items? (nesting + 1) fuel (skipLines rest.length rest)
        some (.array items, rest)
    | '\x7b' :: rest =>
      if nestingLimit ≤ nesting then none
      else do
        let (members, rest) ← members? (nesting + 1) fuel [] (skipLines rest.length rest)
        some (.object (Node.membersToJson members), rest)
    | cs => do
      let (chars, rest) := plainChars cs
      let value ← plain? chars
      some (value, rest)

/-- The items of an array up to its closing bracket; a comma may stand behind the last one. -/
def items? (nesting : Nat) : Nat → List Char → Option (List Json × List Char)
  | 0, _ => none
  | fuel + 1, cs =>
    match cs with
    | ']' :: rest => some ([], rest)
    | cs => do
      let (item, rest) ← value? nesting fuel cs
      match skipLines rest.length rest with
      | ',' :: rest => do
        let (items, rest) ← items? nesting fuel (skipLines rest.length rest)
        some (item :: items, rest)
      | ']' :: rest => some ([item], rest)
      | _ => none

/-- The members of a table in braces, added to those before them, up to its closing brace; a comma may
stand behind the last one. -/
def members? (nesting : Nat) : Nat → Members → List Char → Option (Members × List Char)
  | 0, _, _ => none
  | fuel + 1, earlier, cs =>
    match cs with
    | '\x7d' :: rest => some (earlier, rest)
    | cs => do
      let (key, rest) ← key? (cs.length + 1) cs
      let rest ← after? '=' rest
      let (value, rest) ← value? nesting fuel (skipBlanks rest)
      let members ← earlier.assignAt [] key value
      match skipLines rest.length rest with
      | ',' :: rest => members? nesting fuel members (skipLines rest.length rest)
      | '\x7d' :: rest => some (members, rest)
      | _ => none

end

/-! ### Documents -/

/-- The header of a table with its closing brackets, and what follows. -/
def header? (close : List Char) (cs : List Char) : Option (List String × List Char) := do
  let (path, rest) ← key? (cs.length + 1) cs
  let rest ← keyword? close rest
  some (path, rest)

/-- Reads the lines of a document into its tables. The path is that of the table declared last. -/
def lines? : Nat → List String → Members → List Char → Option Members
  | 0, _, _, _ => none
  | fuel + 1, path, root, cs =>
    match skipLines cs.length cs with
    | [] => some root
    | '[' :: '[' :: rest => do
      let (path, rest) ← header? [']', ']'] rest
      let root ← root.atKey false Members.push path
      let rest ← restOfLine? rest
      lines? fuel path root rest
    | '[' :: rest => do
      let (path, rest) ← header? [']'] rest
      let root ← root.atKey false Members.declare path
      let rest ← restOfLine? rest
      lines? fuel path root rest
    | cs => do
      let (key, rest) ← key? (cs.length + 1) cs
      let rest ← after? '=' rest
      let (value, rest) ← value? 0 (rest.length + 1) (skipBlanks rest)
      let root ← root.assignAt path key value
      let rest ← restOfLine? rest
      lines? fuel path root rest

/-- The text without a byte order mark in front. -/
def skipMark : List Char → List Char
  | c :: rest => if c.toNat = 0xfeff then rest else c :: rest
  | [] => []

end SqlDialects.Toml.Reader

namespace SqlDialects

/-- The document that a TOML text holds. -/
def Json.ofToml? (text : String) : Option Json :=
  let cs := Toml.Reader.skipMark text.toList
  (Toml.Reader.lines? (cs.length + 1) [] [] cs).map fun root =>
    .object (Toml.Node.membersToJson root)

end SqlDialects
