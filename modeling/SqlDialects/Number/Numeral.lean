/-!
# Decimal numerals

The scanner of decimal numerals: an optional sign, digits with an optional fraction, and an optional
exponent that has digits. A digit is needed before or after the point.
-/

namespace SqlDialects.Numeral

/-- The text without a sign in front. -/
def dropSign : List Char → List Char
  | '+' :: rest => rest
  | '-' :: rest => rest
  | cs => cs

/-- The text is a non-empty run of digits. -/
def isDigits (cs : List Char) : Bool := !cs.isEmpty && cs.all Char.isDigit

/-- What follows the mantissa is nothing, or an exponent. -/
def isExponent : List Char → Bool
  | [] => true
  | 'e' :: rest => isDigits (dropSign rest)
  | 'E' :: rest => isDigits (dropSign rest)
  | _ :: _ => false

/-- The text is a decimal numeral. -/
def isDecimal (cs : List Char) : Bool :=
  let unsigned := dropSign cs
  let integral := unsigned.takeWhile Char.isDigit
  match unsigned.dropWhile Char.isDigit with
  | '.' :: afterPoint =>
    let fraction := afterPoint.takeWhile Char.isDigit
    !(integral.isEmpty && fraction.isEmpty) && isExponent (afterPoint.dropWhile Char.isDigit)
  | rest => !integral.isEmpty && isExponent rest

end SqlDialects.Numeral
