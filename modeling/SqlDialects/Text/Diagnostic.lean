import SqlDialects.Text.Printable

/-!
# Quoted diagnostic texts

Texts and characters as diagnostics show them: between quotes, with characters that have no visible
form of their own written as escapes.
-/

namespace SqlDialects.Text

/-- The escape of a character by its code point. -/
def codePointEscape (c : Char) : List Char :=
  '\\' :: 'u' :: '\x7b' :: (Nat.toDigits 16 c.toNat ++ ['\x7d'])

/-- A character inside quotes of the given sort. -/
def diagnosticChar (quote c : Char) : List Char :=
  if c.toNat = 0 then ['\\', '0']
  else if c = '\t' then ['\\', 't']
  else if c = '\r' then ['\\', 'r']
  else if c = '\n' then ['\\', 'n']
  else if c = '\\' then ['\\', '\\']
  else if c = quote then ['\\', c]
  else if isGraphemeExtend c then codePointEscape c
  else if isPrintable c then [c]
  else codePointEscape c

/-- A text between double quotes. -/
def diagnosticText (s : String) : String :=
  String.ofList ('"' :: (s.toList.flatMap (diagnosticChar '"') ++ ['"']))

/-- A character between single quotes. -/
def diagnosticQuotedChar (c : Char) : String :=
  String.ofList ('\'' :: (diagnosticChar '\'' c ++ ['\'']))

end SqlDialects.Text
