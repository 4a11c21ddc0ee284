import Mathlib.Algebra.Order.Field.Basic
import Mathlib.Algebra.Order.Field.Power
import Mathlib.Data.Rat.Cast.Order
import Mathlib.Tactic.FieldSimp
import Mathlib.Tactic.Linarith
import Mathlib.Tactic.Ring
import SqlDialects.Proofs.Number.Widening

/-!
# Rounding to binary numbers

A ratio is divided by the place of its last digit and rounded to the nearest integer, which becomes the significand of
the result (`Binary.toRat_ofRatio`). The exponent is the least one that leaves the significand short enough, so the
result is as close to the ratio as a number of the width can be, and a ratio that some number equals is rounded to this
number (`Binary.toRat_ofRatio_of_eq`).
-/

namespace SqlDialects

/-- The exponent of the last place of the largest numbers. -/
def FloatWidth.maxExponent : FloatWidth → Int
  | .single => 104
  | .double => 971

theorem FloatWidth.infinityBits_eq (w : FloatWidth) :
    w.infinityBits = ((w.maxExponent - w.minExponent).toNat + 2) * Nat.pow 2 w.fractionBits := by
  cases w <;> decide +kernel

namespace Binary

open FloatWidth (infinityBits_eq)

variable {w : FloatWidth}

/-- The value of a finite number. -/
def toRat (x : Binary w) : ℚ := (if x.isNegative then -1 else 1) * (x.significand * 2 ^ x.exponent)

variable {n d : Nat} {e : Int}

theorem fractionBits_zpow (w : FloatWidth) : (2 : ℚ) ^ (w.fractionBits : Int) = (Nat.pow 2 w.fractionBits : Nat) := by
  rw [zpow_natCast, Nat.pow_eq, Nat.cast_pow, Nat.cast_ofNat]

theorem scaleDown_ratio (hd : d ≠ 0) (e : Int) :
    (scaleDown n d e).2 ≠ 0 ∧ ((scaleDown n d e).1 : ℚ) / (scaleDown n d e).2 = n / d / 2 ^ e := by
  cases e with
  | ofNat k =>
    refine ⟨Nat.mul_ne_zero hd (Nat.pow_pos (by decide)).ne', ?_⟩
    simp only [scaleDown, Nat.pow_eq, Nat.cast_mul, Nat.cast_pow, Nat.cast_ofNat, Int.ofNat_eq_natCast,
      zpow_natCast, div_div]
  | negSucc k =>
    refine ⟨hd, ?_⟩
    simp only [scaleDown, Nat.pow_eq, Nat.cast_mul, Nat.cast_pow, Nat.cast_ofNat, zpow_negSucc, div_inv_eq_mul,
      div_mul_eq_mul_div]

/-- The length of a number bounds it. -/
theorem log2_bounds (hn : n ≠ 0) : (2 : ℚ) ^ (n.log2 : Int) ≤ n ∧ (n : ℚ) < 2 ^ (n.log2 + 1 : Int) := by
  constructor
  · rw [zpow_natCast]
    exact_mod_cast Nat.log2_self_le hn
  · have above : n < 2 ^ (n.log2 + 1) := Nat.lt_log2_self
    exact_mod_cast above

/-- The lengths of its terms bound a ratio. -/
theorem ratio_bounds (hn : n ≠ 0) (hd : d ≠ 0) :
    (2 : ℚ) ^ (n.log2 - d.log2 - 1 : Int) ≤ n / d ∧ (n / d : ℚ) < 2 ^ (n.log2 - d.log2 + 1 : Int) := by
  obtain ⟨lowN, highN⟩ := log2_bounds hn
  obtain ⟨lowD, highD⟩ := log2_bounds hd
  have positive : (0 : ℚ) < d := by exact_mod_cast Nat.pos_of_ne_zero hd
  have two : (2 : ℚ) ≠ 0 := two_ne_zero
  constructor
  · rw [le_div_iff₀ positive]
    calc (2 : ℚ) ^ (n.log2 - d.log2 - 1 : Int) * d ≤ 2 ^ (n.log2 - d.log2 - 1 : Int) * 2 ^ (d.log2 + 1 : Int) :=
          mul_le_mul_of_nonneg_left highD.le (by positivity)
      _ = 2 ^ (n.log2 : Int) := by rw [← zpow_add₀ two]; congr 1; ring
      _ ≤ n := lowN
  · rw [div_lt_iff₀ positive]
    calc (n : ℚ) < 2 ^ (n.log2 + 1 : Int) := highN
      _ = 2 ^ (n.log2 - d.log2 + 1 : Int) * 2 ^ (d.log2 : Int) := by rw [← zpow_add₀ two]; congr 1; ring
      _ ≤ 2 ^ (n.log2 - d.log2 + 1 : Int) * d := mul_le_mul_of_nonneg_left lowD (by positivity)

/-- The exponent that a ratio would have if there were no smallest numbers. At this exponent its significand has full
length. -/
theorem exists_unbounded_exponent (w : FloatWidth) (hn : n ≠ 0) (hd : d ≠ 0) :
    ∃ e, exponentOf w n d = max w.minExponent e ∧ (n / d : ℚ) < 2 ^ (w.fractionBits + 1 + e : Int) ∧
      2 ^ (w.fractionBits + e : Int) ≤ (n / d : ℚ) := by
  obtain ⟨low, high⟩ := ratio_bounds hn hd
  obtain ⟨estimate, same⟩ : ∃ e : Int, (n.log2 : Int) - d.log2 - w.fractionBits = e := ⟨_, rfl⟩
  obtain ⟨nonzero, ratio⟩ := scaleDown_ratio (n := n) hd estimate
  have positive : (0 : ℚ) < (scaleDown n d estimate).2 := by exact_mod_cast Nat.pos_of_ne_zero nonzero
  have power : (0 : ℚ) < 2 ^ estimate := by positivity
  have test : (scaleDown n d estimate).1 < (scaleDown n d estimate).2 * Nat.pow 2 w.fractionBits ↔
      (n / d : ℚ) < 2 ^ (w.fractionBits + estimate : Int) := by
    rw [zpow_add₀ two_ne_zero, zpow_natCast, ← div_lt_iff₀ power, ← ratio, div_lt_iff₀ positive, mul_comm]
    exact_mod_cast Iff.rfl
  have form : exponentOf w n d = max w.minExponent
      (if (scaleDown n d estimate).1 < (scaleDown n d estimate).2 * Nat.pow 2 w.fractionBits then estimate - 1
        else estimate) := by
    rw [← same]
    rfl
  -- the lengths of the terms leave two exponents open, and the test decides between them
  refine ⟨_, form, ?_⟩
  simp only [test]
  split
  · next small =>
    refine ⟨by convert small using 2; ring, ?_⟩
    convert low using 2
    omega
  · next large =>
    refine ⟨?_, not_lt.1 large⟩
    convert high using 2
    omega

/-- The exponent of a ratio is the least one at which it has a significand that fits, or that of the smallest
numbers. -/
theorem exponentOf_spec (w : FloatWidth) (hn : n ≠ 0) (hd : d ≠ 0) :
    w.minExponent ≤ exponentOf w n d ∧
    (n / d : ℚ) < 2 ^ (w.fractionBits + 1 + exponentOf w n d : Int) ∧
    (exponentOf w n d = w.minExponent ∨ 2 ^ (w.fractionBits + exponentOf w n d : Int) ≤ (n / d : ℚ)) := by
  obtain ⟨e, he, below, above⟩ := exists_unbounded_exponent w hn hd
  rw [he]
  refine ⟨le_max_left _ _, below.trans_le (zpow_le_zpow_right₀ (by norm_num) (by omega)), ?_⟩
  rcases le_total e w.minExponent with least | least
  · exact .inl (max_eq_left least)
  · exact .inr (by rwa [max_eq_right least])

/-! ## Rounding to an integer -/

/-- A ratio is its quotient and a part of the next integer. -/
theorem ratio_eq_quotient_add (n : Nat) (hd : d ≠ 0) : (n / d : ℚ) = (n / d : Nat) + (n % d : Nat) / d := by
  have whole : ((d * (n / d) + n % d : Nat) : ℚ) = n := by rw [Nat.div_add_mod]
  have positive : (0 : ℚ) < d := by exact_mod_cast Nat.pos_of_ne_zero hd
  rw [eq_comm, ← whole]
  push_cast
  field_simp

/-- A ratio is rounded to an integer that is nearest to it, and to the even one of two. -/
theorem roundHalfEven_nearest (n : Nat) (hd : d ≠ 0) :
    |(roundHalfEven n d : ℚ) - n / d| ≤ 1 / 2 ∧
      (|(roundHalfEven n d : ℚ) - n / d| = 1 / 2 → Even (roundHalfEven n d)) := by
  have positive : (0 : ℚ) < d := by exact_mod_cast Nat.pos_of_ne_zero hd
  have part : (0 : ℚ) ≤ (n % d : Nat) / d := div_nonneg (Nat.cast_nonneg _) positive.le
  rw [ratio_eq_quotient_add n hd, roundHalfEven]
  split
  · next below =>
    have small : ((n % d : Nat) / d : ℚ) < 1 / 2 := by
      rw [div_lt_iff₀ positive]
      have cast : (2 * (n % d : Nat) : ℚ) < d := by exact_mod_cast below
      linarith
    have distance : |((n / d : Nat) : ℚ) - ((n / d : Nat) + (n % d : Nat) / d)| = (n % d : Nat) / d := by
      rw [sub_add_cancel_left, abs_neg, abs_of_nonneg part]
    rw [distance]
    exact ⟨small.le, fun tie => absurd tie small.ne⟩
  · split
    · next above =>
      have large : (1 / 2 : ℚ) < (n % d : Nat) / d := by
        rw [lt_div_iff₀ positive]
        have cast : (d : ℚ) < 2 * (n % d : Nat) := by exact_mod_cast above
        linarith
      have whole : ((n % d : Nat) / d : ℚ) < 1 := by
        rw [div_lt_one positive]
        exact_mod_cast Nat.mod_lt n (Nat.pos_of_ne_zero hd)
      have distance : |((n / d + 1 : Nat) : ℚ) - ((n / d : Nat) + (n % d : Nat) / d)| = 1 - (n % d : Nat) / d := by
        rw [Nat.cast_add, Nat.cast_one, add_sub_add_left_eq_sub, abs_of_nonneg (by linarith)]
      rw [distance]
      exact ⟨by linarith, fun tie => by linarith⟩
    · next notBelow notAbove =>
      have half : ((n % d : Nat) / d : ℚ) = 1 / 2 := by
        rw [div_eq_iff positive.ne']
        have cast : (2 * (n % d : Nat) : ℚ) = d := by exact_mod_cast (by omega : 2 * (n % d) = d)
        linarith
      rw [half]
      rcases Nat.mod_two_eq_zero_or_one (n / d) with even | odd
      · rw [even, Nat.add_zero, sub_add_cancel_left, abs_neg, abs_of_pos (by norm_num)]
        exact ⟨le_rfl, fun _ => Nat.even_iff.2 even⟩
      · rw [odd, Nat.cast_add, Nat.cast_one, add_sub_add_left_eq_sub, abs_of_nonneg (by norm_num)]
        exact ⟨by norm_num, fun _ => Nat.even_add_one.2 (Nat.not_even_iff.2 odd)⟩

theorem div_le_roundHalfEven (n d : Nat) : n / d ≤ roundHalfEven n d := by
  unfold roundHalfEven
  dsimp only
  split
  · omega
  · split <;> omega

/-! ## Numbers by their bits -/

section Bits

variable (negative : Bool) {k m : Nat}

theorem isNegative_ofMagnitude (h : m < w.signBit) : (ofMagnitude negative m : Binary w).isNegative = negative := by
  rw [isNegative, toNat_ofMagnitude negative h]
  cases negative with
  | false => exact decide_eq_false (Nat.not_le.2 h)
  | true => exact decide_eq_true (Nat.le_add_right _ _)

/-- The fields of a number, read off its bits. -/
theorem fields_of_magnitude {x : Binary w} {f r : Nat} (magnitude : x.magnitude = f * Nat.pow 2 w.fractionBits + r)
    (hr : r < Nat.pow 2 w.fractionBits) :
    x.exponentField = f ∧ x.fraction = r := by
  have positive : 0 < Nat.pow 2 w.fractionBits := Nat.pow_pos (by decide)
  rw [exponentField, fraction, magnitude, Nat.mul_comm]
  exact ⟨by rw [Nat.mul_add_div positive, Nat.div_eq_of_lt hr, Nat.add_zero],
    by rw [Nat.mul_add_mod, Nat.mod_eq_of_lt hr]⟩

/-- The value of a significand and an exponent that are put together as bits. A significand that is too long by one
place carries into the exponent. -/
theorem toRat_ofMagnitude (short : m ≤ 2 * Nat.pow 2 w.fractionBits) (normal : k = 0 ∨ Nat.pow 2 w.fractionBits ≤ m)
    (finite : k * Nat.pow 2 w.fractionBits + m < w.infinityBits) :
    (ofMagnitude negative (k * Nat.pow 2 w.fractionBits + m) : Binary w).toRat =
      (if negative then -1 else 1) * (m * 2 ^ (w.minExponent + k)) := by
  have positive : 0 < Nat.pow 2 w.fractionBits := Nat.pow_pos (by decide)
  have inside : k * Nat.pow 2 w.fractionBits + m < w.signBit := finite.trans (infinityBits_lt_signBit w)
  have magnitude := magnitude_ofMagnitude (w := w) negative inside
  rw [toRat, isNegative_ofMagnitude negative inside, significand, exponent]
  congr 1
  rcases Nat.lt_or_ge m (Nat.pow 2 w.fractionBits) with subnormal | long
  · obtain rfl : k = 0 := normal.resolve_right (by omega)
    obtain ⟨field, fraction⟩ := fields_of_magnitude magnitude subnormal
    rw [if_pos field, if_pos field, fraction]
    simp
  rcases Nat.lt_or_eq_of_le short with fits | carries
  · obtain ⟨field, fraction⟩ := fields_of_magnitude (f := k + 1) (r := m - Nat.pow 2 w.fractionBits)
      (by rw [magnitude, Nat.add_mul]; omega) (by omega)
    rw [if_neg (by omega), if_neg (by omega), field, fraction, Nat.sub_add_cancel long]
    simp
  · obtain ⟨field, fraction⟩ := fields_of_magnitude (f := k + 2) (r := 0)
      (by rw [magnitude, carries, Nat.add_mul]; omega) positive
    rw [if_neg (by omega), if_neg (by omega), field, fraction, carries]
    have two : (2 : ℚ) ≠ 0 := two_ne_zero
    have next : w.minExponent + ((k + 2 - 1 : Nat) : Int) = w.minExponent + k + 1 := by omega
    rw [next, zpow_add_one₀ two]
    push_cast
    ring

end Bits

/-! ## Rounding to a number -/

section Rounding

variable (negative : Bool)

/-- The significand of the number that a ratio is rounded to. -/
def roundedSignificand (w : FloatWidth) (n d : Nat) : Nat :=
  roundHalfEven (scaleDown n d (exponentOf w n d)).1 (scaleDown n d (exponentOf w n d)).2

/-- The significand is within half of its last place of the ratio. -/
theorem roundedSignificand_nearest (w : FloatWidth) (hd : d ≠ 0) :
    |(roundedSignificand w n d : ℚ) - n / d / 2 ^ exponentOf w n d| ≤ 1 / 2 ∧
    (|(roundedSignificand w n d : ℚ) - n / d / 2 ^ exponentOf w n d| = 1 / 2 →
      Even (roundedSignificand w n d)) := by
  obtain ⟨nonzero, ratio⟩ := scaleDown_ratio (n := n) hd (exponentOf w n d)
  rw [← ratio]
  exact roundHalfEven_nearest _ nonzero

theorem roundedSignificand_le (hn : n ≠ 0) (hd : d ≠ 0) :
    roundedSignificand w n d ≤ 2 * Nat.pow 2 w.fractionBits := by
  obtain ⟨nonzero, ratio⟩ := scaleDown_ratio (n := n) hd (exponentOf w n d)
  obtain ⟨-, below, -⟩ := exponentOf_spec w hn hd
  have positive : (0 : ℚ) < (scaleDown n d (exponentOf w n d)).2 := by exact_mod_cast Nat.pos_of_ne_zero nonzero
  have power : (0 : ℚ) < 2 ^ exponentOf w n d := by positivity
  have quotient : (scaleDown n d (exponentOf w n d)).1 / (scaleDown n d (exponentOf w n d)).2
      < 2 * Nat.pow 2 w.fractionBits := by
    rw [zpow_add₀ two_ne_zero, ← div_lt_iff₀ power, ← ratio, div_lt_iff₀ positive] at below
    rw [Nat.div_lt_iff_lt_mul (Nat.pos_of_ne_zero nonzero)]
    have cast : (2 : ℚ) ^ (w.fractionBits + 1 : Int) = (2 * Nat.pow 2 w.fractionBits : Nat) := by
      rw [zpow_add_one₀ two_ne_zero, fractionBits_zpow, mul_comm]
      push_cast
      rfl
    rw [cast] at below
    exact_mod_cast below
  exact (roundHalfEven_le _ _).trans quotient

/-- Numbers above the smallest exponent have significands of full length. -/
theorem le_roundedSignificand (hn : n ≠ 0) (hd : d ≠ 0) :
    exponentOf w n d = w.minExponent ∨ Nat.pow 2 w.fractionBits ≤ roundedSignificand w n d := by
  obtain ⟨nonzero, ratio⟩ := scaleDown_ratio (n := n) hd (exponentOf w n d)
  obtain ⟨-, -, above⟩ := exponentOf_spec w hn hd
  refine above.imp_right fun above => ?_
  have positive : (0 : ℚ) < (scaleDown n d (exponentOf w n d)).2 := by exact_mod_cast Nat.pos_of_ne_zero nonzero
  have power : (0 : ℚ) < 2 ^ exponentOf w n d := by positivity
  have quotient : Nat.pow 2 w.fractionBits
      ≤ (scaleDown n d (exponentOf w n d)).1 / (scaleDown n d (exponentOf w n d)).2 := by
    rw [zpow_add₀ two_ne_zero, ← le_div_iff₀ power, ← ratio, le_div_iff₀ positive, zpow_natCast] at above
    rw [Nat.le_div_iff_mul_le (Nat.pos_of_ne_zero nonzero)]
    exact_mod_cast above
  exact quotient.trans (div_le_roundHalfEven _ _)

/-- The bits of the number that a ratio is rounded to, before a number that is too large becomes infinite. -/
def roundedBits (w : FloatWidth) (n d : Nat) : Nat :=
  (exponentOf w n d - w.minExponent).toNat * Nat.pow 2 w.fractionBits + roundedSignificand w n d

theorem ofRatio_eq (hn : n ≠ 0) :
    (ofRatio negative n d : Binary w) = ofMagnitude negative (min (roundedBits w n d) w.infinityBits) := by
  rw [ofRatio, if_neg hn]
  rfl

theorem isFinite_ofRatio_iff (hn : n ≠ 0) :
    (ofRatio negative n d : Binary w).isFinite = true ↔ roundedBits w n d < w.infinityBits := by
  have inside : min (roundedBits w n d) w.infinityBits < w.signBit :=
    (Nat.min_le_right _ _).trans_lt (infinityBits_lt_signBit w)
  rw [ofRatio_eq negative hn, isFinite, magnitude_ofMagnitude negative inside, decide_eq_true_eq]
  omega

/-- A finite result of rounding is the nearest multiple of its last place. -/
theorem toRat_ofRatio (hn : n ≠ 0) (hd : d ≠ 0) (finite : roundedBits w n d < w.infinityBits) :
    (ofRatio negative n d : Binary w).toRat =
      (if negative then -1 else 1) * (roundedSignificand w n d * 2 ^ exponentOf w n d) := by
  obtain ⟨least, -, -⟩ := exponentOf_spec w hn hd
  have exponent : w.minExponent + ((exponentOf w n d - w.minExponent).toNat : Int) = exponentOf w n d := by omega
  have normal : (exponentOf w n d - w.minExponent).toNat = 0 ∨
      Nat.pow 2 w.fractionBits ≤ roundedSignificand w n d :=
    (le_roundedSignificand hn hd).imp_left fun same => by omega
  have value := toRat_ofMagnitude negative (roundedSignificand_le hn hd) normal finite
  rw [exponent] at value
  rw [ofRatio_eq negative hn, Nat.min_eq_left finite.le]
  exact value

/-! ## Ratios that some number equals -/

section Exact

variable {m : Nat} {k : Int}

/-- At an exponent above that of the ratio its significand would be too short. -/
theorem exponentOf_le_of_eq (hn : n ≠ 0) (hd : d ≠ 0) (value : (n / d : ℚ) = m * 2 ^ k)
    (short : m < 2 * Nat.pow 2 w.fractionBits) (least : w.minExponent ≤ k) : exponentOf w n d ≤ k := by
  obtain ⟨-, -, above⟩ := exponentOf_spec w hn hd
  rcases above with same | above
  · omega
  · have cast : (m : ℚ) < 2 * (Nat.pow 2 w.fractionBits : Nat) := by exact_mod_cast short
    have power : (2 : ℚ) ^ (w.fractionBits + exponentOf w n d : Int) < 2 ^ (w.fractionBits + (k + 1) : Int) :=
      calc (2 : ℚ) ^ (w.fractionBits + exponentOf w n d : Int) ≤ m * 2 ^ k := value ▸ above
        _ < 2 * (Nat.pow 2 w.fractionBits : Nat) * 2 ^ k := mul_lt_mul_of_pos_right cast (by positivity)
        _ = 2 ^ (w.fractionBits + (k + 1) : Int) := by
          rw [zpow_add₀ two_ne_zero, zpow_add_one₀ two_ne_zero, fractionBits_zpow]
          ring
    have exponents := (zpow_lt_zpow_iff_right₀ (by norm_num)).1 power
    omega

/-- A ratio that is a multiple of its last place is its significand at this place. -/
theorem roundedSignificand_of_eq (hd : d ≠ 0) (value : (n / d : ℚ) = m * 2 ^ exponentOf w n d) :
    roundedSignificand w n d = m := by
  have near := (roundedSignificand_nearest w hd (n := n)).1
  rw [value, mul_div_cancel_right₀ _ (zpow_ne_zero _ two_ne_zero)] at near
  have distance : |(roundedSignificand w n d : Int) - m| < 1 := by
    have less : |(roundedSignificand w n d : ℚ) - m| < 1 := near.trans_lt (by norm_num)
    exact_mod_cast less
  have same := Int.abs_lt_one_iff.1 distance
  omega

/-- A multiple of the last place is shorter than the next power of two. -/
theorem lt_of_eq_exponentOf (hn : n ≠ 0) (hd : d ≠ 0) (value : (n / d : ℚ) = m * 2 ^ exponentOf w n d) :
    m < 2 * Nat.pow 2 w.fractionBits := by
  obtain ⟨-, below, -⟩ := exponentOf_spec w hn hd
  rw [value, zpow_add₀ two_ne_zero, zpow_add_one₀ two_ne_zero, fractionBits_zpow] at below
  have cast := lt_of_mul_lt_mul_right below (by positivity)
  rw [mul_comm] at cast
  exact_mod_cast cast

/-- A ratio that some number equals is rounded to a number that equals it. -/
theorem toRat_ofRatio_of_eq (hd : d ≠ 0) (value : (n / d : ℚ) = m * 2 ^ k)
    (short : m < 2 * Nat.pow 2 w.fractionBits) (least : w.minExponent ≤ k) (greatest : k ≤ w.maxExponent) :
    (ofRatio negative n d : Binary w).isFinite = true ∧
      (ofRatio negative n d : Binary w).toRat = (if negative then -1 else 1) * (n / d : ℚ) := by
  by_cases hn : n = 0
  · subst hn
    have positive : 0 < w.infinityBits := by cases w <;> decide +kernel
    have zero : (ofRatio negative 0 d : Binary w) = ofMagnitude negative (0 * Nat.pow 2 w.fractionBits + 0) := by
      rw [ofRatio, if_pos rfl, Nat.zero_mul]
    have bits : 0 * Nat.pow 2 w.fractionBits + 0 < w.infinityBits := by omega
    rw [zero, toRat_ofMagnitude negative (Nat.zero_le _) (.inl rfl) bits]
    exact ⟨isFinite_ofMagnitude negative bits, by simp⟩
  have place := exponentOf_le_of_eq hn hd value short least
  -- the significand at the place of the ratio has some more zeros behind it
  obtain ⟨t, shift⟩ : ∃ t : Nat, k = exponentOf w n d + t := ⟨(k - exponentOf w n d).toNat, by omega⟩
  have shifted : (n / d : ℚ) = (m * 2 ^ t : Nat) * 2 ^ exponentOf w n d := by
    rw [value, shift, zpow_add₀ two_ne_zero, zpow_natCast]
    push_cast
    ring
  have significand := roundedSignificand_of_eq hd shifted
  have long := lt_of_eq_exponentOf hn hd shifted
  have bits : roundedBits w n d < w.infinityBits := by
    have steps : (exponentOf w n d - w.minExponent).toNat ≤ (w.maxExponent - w.minExponent).toNat := by omega
    have field := Nat.mul_le_mul_right (Nat.pow 2 w.fractionBits) steps
    rw [roundedBits, infinityBits_eq, Nat.add_mul, significand]
    omega
  refine ⟨(isFinite_ofRatio_iff negative hn).2 bits, ?_⟩
  rw [toRat_ofRatio negative hn hd bits, significand, ← shifted]

end Exact

end Rounding

end Binary

end SqlDialects
