import SqlDialects.Number.Binary

/-!
# Shortest decimal digits

The decimal with the fewest digits among those that round to a given binary number, and of these
the one nearest to it. Grids of decimals are tried from coarse to fine: a grid with a point in the
interval of rounding has such a point right below or right above the number itself.
-/

namespace SqlDialects

/-- The number `digits * 10 ^ exponent`. -/
structure Decimal where
  digits : Nat
  exponent : Int
deriving DecidableEq, Repr

/-- Which of two equally near decimals is taken. -/
inductive TieRule where
  /-- The one whose last digit is even. -/
  | toEven
  /-- The larger one. -/
  | upward
deriving DecidableEq, Repr

/-- An interval of ratios over a common denominator, around a point in it. -/
structure RoundingInterval where
  lower : Nat
  value : Nat
  upper : Nat
  denominator : Nat
  /-- The two ends belong to the interval. -/
  closed : Bool

namespace RoundingInterval

/-- The ratio of a natural to one lies in the interval. -/
def holds (i : RoundingInterval) (n : Nat) : Bool :=
  let m := n * i.denominator
  if i.closed then decide (i.lower ≤ m) && decide (m ≤ i.upper)
  else decide (i.lower < m) && decide (m < i.upper)

/-- The interval in units of `10 ^ place`. -/
def atPlace (i : RoundingInterval) : Int → RoundingInterval
  | .ofNat k => { i with denominator := i.denominator * Nat.pow 10 k }
  | .negSucc k =>
    let scale := Nat.pow 10 (k + 1)
    { i with lower := i.lower * scale, value := i.value * scale, upper := i.upper * scale }

/-- The natural nearest to the point among those in the interval. -/
def nearest? (tie : TieRule) (i : RoundingInterval) : Option Nat :=
  let below := i.value / i.denominator
  let above := below + 1
  let lowHit := decide (0 < below) && i.holds below
  if lowHit && i.holds above then
    let r := i.value % i.denominator
    let up := match tie with
      | .toEven => decide (i.denominator < 2 * r) || (i.denominator == 2 * r && below % 2 == 1)
      | .upward => decide (i.denominator ≤ 2 * r)
    some (if up then above else below)
  else if lowHit then some below
  else if i.holds above then some above
  else none

end RoundingInterval

namespace Binary

variable {w : FloatWidth}

/-- The ratios that round to a finite number, in quarters of its last place. -/
def roundingInterval (x : Binary w) : RoundingInterval :=
  let m := x.significand
  let atBinade := m == Nat.pow 2 w.fractionBits && decide (w.minExponent < x.exponent)
  let lower := if atBinade then 4 * m - 1 else 4 * m - 2
  let (scale, denominator) := match x.exponent with
    | .ofNat e => (Nat.pow 2 e, 4)
    | .negSucc e => (1, 4 * Nat.pow 2 (e + 1))
  ⟨lower * scale, 4 * m * scale, (4 * m + 2) * scale, denominator, m % 2 == 0⟩

/-- A place of which the number is no more than one unit. -/
def leadingPlace (i : RoundingInterval) : Int :=
  if i.denominator ≤ i.value then (Nat.toDigits 10 (i.value / i.denominator)).length
  else 1 - ((Nat.toDigits 10 (i.denominator / i.value)).length : Int)

/-- The first grid from `place` downwards with a point in the interval. -/
def searchGrids (tie : TieRule) (i : RoundingInterval) (place : Int) : Nat → Decimal
  | 0 => ⟨0, 0⟩
  | tries + 1 =>
    match (i.atPlace place).nearest? tie with
    | some digits => ⟨digits, place⟩
    | none => searchGrids tie i (place - 1) tries

/-- The shortest decimal of a finite number; its sign is left aside. Eighteen grids are enough, since
seventeen digits tell any two numbers apart. -/
def shortest (tie : TieRule) (x : Binary w) : Decimal :=
  if x.significand = 0 then ⟨0, 0⟩ else
  let i := x.roundingInterval
  searchGrids tie i (leadingPlace i) 20

end Binary

end SqlDialects
