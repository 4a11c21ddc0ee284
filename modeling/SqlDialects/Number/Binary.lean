/-!
# Binary floating point numbers

Numbers of the two IEEE interchange formats, held as their bits. A finite number is
`significand * 2 ^ exponent` with a sign; `Binary.ofRatio` rounds a ratio of naturals to the nearest
number of a format, a half going to the even neighbour.
-/

namespace SqlDialects

/-- The two widths of floating point numbers. -/
inductive FloatWidth where
  | single
  | double
deriving DecidableEq, Repr

namespace FloatWidth

/-- Bits of a significand, the leading one included. -/
def precision : FloatWidth → Nat
  | single => 24
  | double => 53

/-- Bits of a significand that are stored. -/
def fractionBits (w : FloatWidth) : Nat := w.precision - 1

/-- Bits of the exponent field. -/
def exponentBits : FloatWidth → Nat
  | single => 8
  | double => 11

/-- Bits of a whole number. -/
def size : FloatWidth → Nat
  | single => 32
  | double => 64

/-- Exponent of the last place of the smallest numbers. -/
def minExponent : FloatWidth → Int
  | single => -149
  | double => -1074

/-- Bits of infinity, which bound those of every finite magnitude. -/
def infinityBits (w : FloatWidth) : Nat :=
  (Nat.pow 2 w.exponentBits - 1) * Nat.pow 2 w.fractionBits

/-- Weight of the sign bit. -/
def signBit (w : FloatWidth) : Nat := Nat.pow 2 (w.size - 1)

end FloatWidth

/-- A number of the given width, as its bits. -/
structure Binary (w : FloatWidth) where
  bits : BitVec w.size
deriving DecidableEq

namespace Binary

variable {w : FloatWidth}

/-- The number with the given bits. -/
def ofBits (n : Nat) : Binary w := ⟨BitVec.ofNat w.size n⟩

/-- The sign bit is set. -/
def isNegative (x : Binary w) : Bool := decide (w.signBit ≤ x.bits.toNat)

/-- The bits without the sign. -/
def magnitude (x : Binary w) : Nat := x.bits.toNat % w.signBit

/-- The bits stand for no number. -/
def isNaN (x : Binary w) : Bool := decide (w.infinityBits < x.magnitude)

/-- The number is one of the two infinities. -/
def isInfinite (x : Binary w) : Bool := x.magnitude == w.infinityBits

/-- The number is neither infinite nor undefined. -/
def isFinite (x : Binary w) : Bool := decide (x.magnitude < w.infinityBits)

/-- The exponent field. -/
def exponentField (x : Binary w) : Nat := x.magnitude / Nat.pow 2 w.fractionBits

/-- The stored part of the significand. -/
def fraction (x : Binary w) : Nat := x.magnitude % Nat.pow 2 w.fractionBits

/-- The significand of a finite number, an integer. -/
def significand (x : Binary w) : Nat :=
  if x.exponentField = 0 then x.fraction else x.fraction + Nat.pow 2 w.fractionBits

/-- The exponent of the last place of a finite number. -/
def exponent (x : Binary w) : Int :=
  if x.exponentField = 0 then w.minExponent else w.minExponent + (x.exponentField - 1 : Nat)

/-- The number with the given sign and magnitude bits. -/
def ofMagnitude (negative : Bool) (m : Nat) : Binary w :=
  ofBits (if negative then w.signBit + m else m)

/-- The infinity of the given sign. -/
def infinity (negative : Bool) : Binary w := ofMagnitude negative w.infinityBits

/-- The undefined number that operations return. -/
def nan : Binary w := ofMagnitude false (w.infinityBits + Nat.pow 2 (w.fractionBits - 1))

/-- The quotient of two naturals rounded to the nearest natural, a half to the even one. -/
def roundHalfEven (n d : Nat) : Nat :=
  let q := n / d
  let r := n % d
  if 2 * r < d then q else if d < 2 * r then q + 1 else q + q % 2

/-- A ratio of naturals divided by a power of two, as a ratio of naturals. -/
def scaleDown (n d : Nat) : Int → Nat × Nat
  | .ofNat e => (n, d * Nat.pow 2 e)
  | .negSucc e => (n * Nat.pow 2 (e + 1), d)

/-- The least exponent, not below the format's, at which a ratio has a significand that fits. -/
def exponentOf (w : FloatWidth) (n d : Nat) : Int :=
  let estimate : Int := (Nat.log2 n : Int) - Nat.log2 d - w.fractionBits
  let (a, b) := scaleDown n d estimate
  max w.minExponent (if a < b * Nat.pow 2 w.fractionBits then estimate - 1 else estimate)

/-- The number nearest to a ratio of naturals, infinite beyond the largest one. -/
def ofRatio (negative : Bool) (n d : Nat) : Binary w :=
  if n = 0 then ofMagnitude negative 0 else
  let e := exponentOf w n d
  let (a, b) := scaleDown n d e
  let m := (e - w.minExponent).toNat * Nat.pow 2 w.fractionBits + roundHalfEven a b
  ofMagnitude negative (min m w.infinityBits)

/-- The number nearest to an integer. -/
def ofInt (n : Int) : Binary w := ofRatio (decide (n < 0)) n.natAbs 1

/-- The number nearest to `digits * 10 ^ exponent`. Numbers far beyond the range of either width are
told by the place of their first digit. -/
def ofDecimal (negative : Bool) (digits : Nat) (exponent : Int) : Binary w :=
  if digits = 0 then ofMagnitude negative 0 else
  let place : Int := (Nat.toDigits 10 digits).length + exponent
  if 400 < place then infinity negative
  else if place < -400 then ofMagnitude negative 0
  else match exponent with
    | .ofNat e => ofRatio negative (digits * Nat.pow 10 e) 1
    | .negSucc e => ofRatio negative digits (Nat.pow 10 (e + 1))

/-- The number of another width nearest to this one. -/
def convert (v : FloatWidth) (x : Binary w) : Binary v :=
  if x.isNaN then nan
  else if x.isInfinite then infinity x.isNegative
  else match x.exponent with
    | .ofNat e => ofRatio x.isNegative (x.significand * Nat.pow 2 e) 1
    | .negSucc e => ofRatio x.isNegative x.significand (Nat.pow 2 (e + 1))

/-- The integer part of a finite number. -/
def truncated? (x : Binary w) : Option Int :=
  if x.isFinite then
    let m : Nat := match x.exponent with
      | .ofNat e => x.significand * Nat.pow 2 e
      | .negSucc e => x.significand / Nat.pow 2 (e + 1)
    some (if x.isNegative then -(m : Int) else m)
  else none

/-- The bits in hexadecimal, with as many digits as the width has. -/
def hexDigits (x : Binary w) : String :=
  let digits := Nat.toDigits 16 x.bits.toNat
  String.ofList (List.replicate (w.size / 4 - digits.length) '0' ++ digits)

end Binary

/-- A number of 32 bits. -/
abbrev Binary32 := Binary .single

/-- A number of 64 bits. -/
abbrev Binary64 := Binary .double

end SqlDialects
