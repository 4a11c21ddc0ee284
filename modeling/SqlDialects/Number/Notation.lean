import SqlDialects.Number.Shortest

/-!
# Written forms of floating point numbers

A written form has the shortest digits of a number, positionally or with an exponent. Which of the
two is chosen, whether integers keep a fraction of zero and whether exponents keep a plus sign, is the
choice of a `FloatNotation`; the forms in use here differ in nothing else.
-/

namespace SqlDialects

/-- Choices that fix the written form of a floating point number. -/
structure FloatNotation where
  tie : TieRule
  /-- Digits in front of the point below which an exponent is written, if any. -/
  least? : Option Int
  /-- Digits in front of the point above which an exponent is written, if any. -/
  most? : Option Int
  /-- Whether an integer written positionally ends in a fraction of zero. -/
  pointZero : Bool
  /-- Whether an exponent that is not negative has a sign. -/
  plusSign : Bool

namespace FloatNotation

/-- Numbers in SQL text: positional from `1e-5` to below `1e16`. -/
def literal : FloatNotation := ⟨.toEven, some (-4), some 16, true, false⟩

/-- Numbers in documents: as in SQL text, but for the sign of their exponents. -/
def document : FloatNotation := ⟨.toEven, some (-4), some 16, true, true⟩

/-- Single width numbers in documents: positional from `1e-6` to below `1e13`. -/
def singleDocument : FloatNotation := ⟨.toEven, some (-5), some 13, true, true⟩

/-- Numbers in diagnostic texts: positional from `1e-4` to below `1e16`. -/
def diagnostic : FloatNotation := ⟨.upward, some (-3), some 16, true, false⟩

/-- Numbers in messages: always positional, and integers without a fraction. -/
def message : FloatNotation := ⟨.upward, none, none, false, false⟩

/-- The number with so many digits in front of the point is written positionally. -/
def isPositional (f : FloatNotation) (place : Int) : Bool :=
  f.least?.all (· ≤ place) && f.most?.all (place ≤ ·)

end FloatNotation

namespace Decimal

/-- The digits of the decimal without its sign and point. -/
def digitChars (d : Decimal) : List Char := Nat.toDigits 10 d.digits

/-- Number of digits in front of the point; not positive for fractions below a tenth. -/
def place (d : Decimal) : Int := d.digitChars.length + d.exponent

/-- The decimal with a point and no exponent. -/
def positional (d : Decimal) (pointZero : Bool) : List Char :=
  let cs := d.digitChars
  match d.exponent with
  | .ofNat k => cs ++ List.replicate k '0' ++ (if pointZero then ['.', '0'] else [])
  | .negSucc k =>
    if cs.length ≤ k + 1 then '0' :: '.' :: (List.replicate (k + 1 - cs.length) '0' ++ cs)
    else cs.take (cs.length - (k + 1)) ++ '.' :: cs.drop (cs.length - (k + 1))

/-- An exponent with its sign, which is left out on request unless it is a minus. -/
def exponentText (plusSign : Bool) (n : Int) : List Char :=
  if plusSign ∧ 0 ≤ n then '+' :: (toString n).toList else (toString n).toList

/-- The decimal with one digit in front of the point, and an exponent. -/
def scientific (d : Decimal) (plusSign : Bool) : List Char :=
  let mantissa := match d.digitChars with
    | [] => []
    | [c] => [c]
    | c :: rest => c :: '.' :: rest
  mantissa ++ 'e' :: exponentText plusSign (d.place - 1)

end Decimal

namespace Binary

variable {w : FloatWidth}

/-- The written form of a finite number. -/
def finiteText (f : FloatNotation) (x : Binary w) : List Char :=
  let sign := if x.isNegative then ['-'] else []
  if x.significand = 0 then sign ++ (if f.pointZero then ['0', '.', '0'] else ['0']) else
  let d := x.shortest f.tie
  sign ++ (if f.isPositional d.place then d.positional f.pointZero
    else d.scientific f.plusSign)

/-- The written form of any number. -/
def text (f : FloatNotation) (x : Binary w) : String :=
  if x.isNaN then "NaN"
  else if x.isInfinite then (if x.isNegative then "-inf" else "inf")
  else String.ofList (x.finiteText f)

end Binary

end SqlDialects
