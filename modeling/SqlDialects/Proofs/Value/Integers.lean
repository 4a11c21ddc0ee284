import SqlDialects.Proofs.Number.Rounding
import SqlDialects.Proofs.Value.Coercion

/-!
# Integers as floating point numbers

An integer equals a floating point number if it is a multiple of a power of two by a factor that is no longer than a
significand. Rounding leaves such an integer as it is, also on the way through doubles, and the integer part of any
other number is of this form; so the comparison of the rounded integer with the integer that it was made from finds
out exactly the integers that equal a number of the width (`Value.coerce_integer_floating`).
-/

namespace SqlDialects

/-- Some number of the width equals the integer, which has a factor of two for each place that it is too long. -/
def FloatWidth.Holds (w : FloatWidth) (n : Int) : Prop :=
  ∃ (m : Int) (e : Nat), n = m * 2 ^ e ∧ |m| ≤ 2 ^ w.precision

/-- What a narrower width holds is held by doubles. -/
theorem FloatWidth.Holds.double {w : FloatWidth} {n : Int} (h : w.Holds n) : FloatWidth.double.Holds n := by
  obtain ⟨m, e, rfl, short⟩ := h
  have places : w.precision ≤ FloatWidth.double.precision := by cases w <;> decide
  exact ⟨m, e, rfl, short.trans (pow_le_pow_right₀ (by decide) places)⟩

/-- An odd integer that is longer than a significand is not held. -/
theorem FloatWidth.not_holds_of_odd {w : FloatWidth} {n : Int} (odd : n % 2 = 1) (long : 2 ^ w.precision < |n|) :
    ¬w.Holds n := by
  rintro ⟨m, e, rfl, short⟩
  cases e with
  | zero =>
    rw [pow_zero, mul_one] at long
    exact absurd short (not_le.2 long)
  | succ e =>
    rw [pow_succ, ← mul_assoc] at odd
    omega

/-- The least long integer is the longest one. -/
theorem FixedInt.natAbs_le {u : IntegerWidth} (n : FixedInt u) : n.value.natAbs ≤ 2 ^ 63 := by
  obtain ⟨value, low, high⟩ := n
  have least : -2 ^ 63 ≤ u.least := by cases u <;> decide +kernel
  have greatest : u.greatest ≤ 2 ^ 63 - 1 := by cases u <;> decide +kernel
  show value.natAbs ≤ 2 ^ 63
  omega

namespace Binary

variable {w v : FloatWidth} {n : Int} {x : Binary w}

theorem precision_eq (w : FloatWidth) : (2 : Nat) ^ w.precision = 2 * Nat.pow 2 w.fractionBits := by
  cases w <;> decide +kernel

/-! ## Integers that a width holds -/

/-- An integer that is held has a significand and an exponent. -/
theorem exists_significand_of_holds (h : w.Holds n) (bound : n.natAbs ≤ 2 ^ 63) :
    ∃ m k : Nat, n.natAbs = m * 2 ^ k ∧ m < 2 * Nat.pow 2 w.fractionBits ∧ k ≤ 64 := by
  obtain ⟨m, e, rfl, short⟩ := h
  have product : (m * 2 ^ e : Int).natAbs = m.natAbs * 2 ^ e := by
    rw [Int.natAbs_mul, Int.natAbs_pow]
    rfl
  rw [product] at bound ⊢
  have positive : 0 < Nat.pow 2 w.fractionBits := Nat.pow_pos (by decide)
  have factor : m.natAbs ≤ 2 * Nat.pow 2 w.fractionBits := by
    rw [← precision_eq]
    have cast : (m.natAbs : Int) ≤ (2 ^ w.precision : Nat) := by
      rw [Int.natCast_natAbs]
      exact_mod_cast short
    exact_mod_cast cast
  by_cases zero : m.natAbs = 0
  · exact ⟨0, 0, by rw [zero, Nat.zero_mul, Nat.zero_mul], by omega, by omega⟩
  have exponent : e ≤ 63 := by
    have power : 2 ^ e ≤ 2 ^ 63 := (Nat.le_mul_of_pos_left _ (Nat.pos_of_ne_zero zero)).trans bound
    exact (Nat.pow_le_pow_iff_right (by decide)).1 power
  rcases Nat.lt_or_eq_of_le factor with fits | carries
  · exact ⟨m.natAbs, e, rfl, fits, by omega⟩
  · refine ⟨Nat.pow 2 w.fractionBits, e + 1, ?_, by omega, by omega⟩
    rw [carries, Nat.pow_succ]
    ring

theorem significand_lt_precision (x : Binary w) : x.significand < 2 ^ w.precision := by
  rw [precision_eq]
  exact x.significand_lt

/-- The integer part of a number is held by its width. -/
theorem holds_of_truncated (h : x.truncated? = some n) : w.Holds n := by
  have significand : (x.significand : Int) ≤ 2 ^ w.precision := by exact_mod_cast x.significand_lt_precision.le
  have short {m : Nat} (small : m ≤ x.significand) (negative : Bool) :
      |if negative then -(m : Int) else m| ≤ 2 ^ w.precision := by
    have cast : (m : Int) ≤ 2 ^ w.precision := le_trans (by exact_mod_cast small) significand
    cases negative with
    | false => rwa [if_neg Bool.false_ne_true, abs_of_nonneg (Int.natCast_nonneg m)]
    | true => rwa [if_pos rfl, abs_neg, abs_of_nonneg (Int.natCast_nonneg m)]
  unfold truncated? at h
  split at h
  · split at h
    · next e _ =>
      refine ⟨if x.isNegative then -(x.significand : Int) else x.significand, e, ?_, short le_rfl _⟩
      rw [← Option.some.inj h]
      cases x.isNegative <;> simp [Nat.pow_eq]
    · next e _ =>
      refine ⟨n, 0, by simp, ?_⟩
      rw [← Option.some.inj h]
      exact short (Nat.div_le_self _ _) _
  · cases h

/-! ## Values that are integers -/

/-- The magnitude of a number that equals an integer. -/
theorem magnitude_of_toRat (value : x.toRat = n) : (x.significand * 2 ^ x.exponent : ℚ) = n.natAbs := by
  have positive : (0 : ℚ) ≤ x.significand * 2 ^ x.exponent := by positivity
  rw [Nat.cast_natAbs, Int.cast_abs, ← value, toRat]
  split
  · rw [neg_one_mul, abs_neg, abs_of_nonneg positive]
  · rw [one_mul, abs_of_nonneg positive]

/-- A finite number that equals an integer has this integer part. -/
theorem truncated_of_toRat (finite : x.isFinite = true) (value : x.toRat = n) : x.truncated? = some n := by
  have magnitude := magnitude_of_toRat value
  have signed : (if x.isNegative then -(n.natAbs : Int) else n.natAbs) = n := by
    rw [toRat, magnitude] at value
    refine Rat.intCast_injective ?_
    rw [← value]
    cases x.isNegative with
    | true => rw [if_pos rfl, if_pos rfl, neg_one_mul, Int.cast_neg, Int.cast_natCast]
    | false => rw [if_neg Bool.false_ne_true, if_neg Bool.false_ne_true, one_mul, Int.cast_natCast]
  rw [truncated?, if_pos finite]
  refine congrArg some (Eq.trans (congrArg (fun m : Nat => if x.isNegative then -(m : Int) else m) ?_) signed)
  split
  · next e exponent =>
    rw [exponent, Int.ofNat_eq_natCast, zpow_natCast] at magnitude
    exact_mod_cast magnitude
  · next e exponent =>
    have power : (0 : ℚ) < 2 ^ (e + 1) := by positivity
    rw [exponent, zpow_negSucc, ← div_eq_mul_inv, div_eq_iff power.ne'] at magnitude
    have product : x.significand = n.natAbs * Nat.pow 2 (e + 1) := by exact_mod_cast magnitude
    rw [product]
    exact Nat.mul_div_cancel _ (Nat.pow_pos (by decide))

/-- The number that an integer is rounded to, if it is held, equals the integer. -/
theorem toRat_ofRatio_of_holds {a b : Nat} {negative : Bool} (hb : b ≠ 0) (h : w.Holds n) (bound : n.natAbs ≤ 2 ^ 63)
    (value : (a / b : ℚ) = n.natAbs) (sign : (if negative then -1 else 1 : ℚ) * n.natAbs = n) :
    (ofRatio negative a b : Binary w).isFinite = true ∧ (ofRatio negative a b : Binary w).toRat = n := by
  obtain ⟨m, k, product, short, small⟩ := exists_significand_of_holds h bound
  have power : (a / b : ℚ) = m * 2 ^ (k : Int) := by
    rw [value, product]
    push_cast
    rw [zpow_natCast]
  have least : w.minExponent ≤ k := by
    have negative : w.minExponent ≤ 0 := by cases w <;> decide
    omega
  have greatest : (k : Int) ≤ w.maxExponent := by
    have large : 64 ≤ w.maxExponent := by cases w <;> decide
    omega
  obtain ⟨finite, rounded⟩ := toRat_ofRatio_of_eq (w := w) negative hb power short least greatest
  rw [value, sign] at rounded
  exact ⟨finite, rounded⟩

/-- An integer that is held is rounded to a number that equals it. -/
theorem toRat_ofInt (h : w.Holds n) (bound : n.natAbs ≤ 2 ^ 63) :
    (ofInt n : Binary w).isFinite = true ∧ (ofInt n : Binary w).toRat = n := by
  refine toRat_ofRatio_of_holds one_ne_zero h bound (by rw [Nat.cast_one, div_one]) ?_
  rw [Nat.cast_natAbs, Int.cast_abs]
  rcases Int.lt_or_le n 0 with negative | nonnegative
  · have cast : (n : ℚ) < 0 := by exact_mod_cast negative
    rw [decide_eq_true negative, if_pos rfl, abs_of_neg cast, neg_one_mul, neg_neg]
  · have cast : (0 : ℚ) ≤ n := by exact_mod_cast nonnegative
    rw [decide_eq_false (by omega), if_neg Bool.false_ne_true, abs_of_nonneg cast, one_mul]

/-- A finite number in another width is the ratio that it equals, rounded. -/
theorem convert_of_isFinite (finite : x.isFinite = true) (v : FloatWidth) : ∃ a b : Nat, b ≠ 0 ∧
    x.convert v = ofRatio x.isNegative a b ∧ (a / b : ℚ) = x.significand * 2 ^ x.exponent := by
  have below : x.magnitude < w.infinityBits := of_decide_eq_true finite
  have number : x.isNaN = false := decide_eq_false (by omega)
  have bounded : x.isInfinite = false := by
    rw [isInfinite, beq_eq_false_iff_ne]
    omega
  rw [convert, number, bounded]
  simp only [Bool.false_eq_true, if_false]
  split
  · next e exponent =>
    refine ⟨_, 1, one_ne_zero, rfl, ?_⟩
    rw [exponent, Nat.cast_one, div_one, Int.ofNat_eq_natCast, zpow_natCast]
    push_cast [Nat.pow_eq]
    rfl
  · next e exponent =>
    refine ⟨_, _, (Nat.pow_pos (by decide)).ne', rfl, ?_⟩
    rw [exponent, zpow_negSucc, div_eq_mul_inv]
    push_cast [Nat.pow_eq]
    rfl

/-- A number that equals an integer does so in every width that holds the integer. -/
theorem toRat_convert (finite : x.isFinite = true) (value : x.toRat = n) (h : v.Holds n)
    (bound : n.natAbs ≤ 2 ^ 63) :
    (x.convert v).isFinite = true ∧ (x.convert v).toRat = n := by
  obtain ⟨a, b, hb, converted, ratio⟩ := convert_of_isFinite finite v
  rw [converted]
  have magnitude := magnitude_of_toRat value
  refine toRat_ofRatio_of_holds hb h bound (ratio.trans magnitude) ?_
  rw [← magnitude]
  exact value

end Binary

namespace Value

open Binary

variable {w : FloatWidth} {n : Int}

/-- An integer that is held stays as it is on its way to the width. -/
theorem toRat_roundedInteger (h : w.Holds n) (bound : n.natAbs ≤ 2 ^ 63) :
    (roundedInteger w n).isFinite = true ∧ (roundedInteger w n).toRat = n := by
  obtain ⟨finite, value⟩ := toRat_ofInt h.double bound
  cases w with
  | double => exact ⟨finite, value⟩
  | single => exact toRat_convert finite value h bound

/-- An integer is coerced to a floating point number if and only if some number of the width equals it, which is the
case if it is a product of a power of two and an integer of no more than the width's precision, 53 bits for doubles and
24 bits for singles. The result is finite and equals the integer. Every other integer is out of range. -/
theorem coerce_integer_floating {u : IntegerWidth} (n : FixedInt u) {target : HostType}
    (kind : target.kind? = some (.floating w)) :
    (w.Holds n.value → ∃ x : Binary w, (integer u n).coerce target = .ok (floating w x) ∧
      x.isFinite = true ∧ x.toRat = n.value) ∧
    (¬w.Holds n.value → (integer u n).coerce target =
      .error (.outOfRange (toString n.value) (PrimitiveKind.floating w).boxedName)) := by
  have rounded : (integer u n).coerce target = floatingOfInteger w n.value := by
    rw [coerce_of_kind? kind (integer u n) nofun]
    exact if_neg nofun
  rw [rounded, floatingOfInteger]
  constructor
  · intro holds
    obtain ⟨finite, value⟩ := toRat_roundedInteger holds n.natAbs_le
    exact ⟨_, if_pos (truncated_of_toRat finite value), finite, value⟩
  · exact fun misses => if_neg fun same => misses (holds_of_truncated same)

/-- Beyond the precision of doubles every other integer is coerced to one. -/
theorem coerce_integer_floating_above_precision :
    HostType.kind? (.boxed (.floating .double)) = some (.floating .double) ∧
    (∃ x : Binary64, (integer .long ⟨2 ^ 53 + 2, by decide⟩).coerce (.boxed (.floating .double)) =
      .ok (floating .double x) ∧ x.isFinite = true ∧ x.toRat = (2 ^ 53 + 2 : Int)) ∧
    (integer .long ⟨2 ^ 53 + 1, by decide⟩).coerce (.boxed (.floating .double)) =
      .error (.outOfRange "9007199254740993" "Double") := by
  refine ⟨rfl, (coerce_integer_floating (w := .double) ⟨2 ^ 53 + 2, _⟩ rfl).1 ⟨2 ^ 52 + 1, 1, rfl, by decide⟩,
    (coerce_integer_floating (w := .double) ⟨2 ^ 53 + 1, _⟩ rfl).2 (FloatWidth.not_holds_of_odd (by decide) ?_)⟩
  decide

end Value

end SqlDialects
