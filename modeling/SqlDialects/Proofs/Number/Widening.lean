import SqlDialects.Value.Literal

/-!
# Widening floating point numbers

A finite number stays finite as a double. Its exponent is far below the greatest one of doubles, and the
significand that `Binary.ofRatio` rounds at the chosen exponent is at most two places longer than a
significand is (`Binary.scaleDown_lt`), so that rounding cannot reach infinity.
-/

namespace SqlDialects

namespace Binary

variable {w : FloatWidth}

theorem infinityBits_lt_signBit (w : FloatWidth) : w.infinityBits < w.signBit := by
  cases w <;> decide +kernel

/-- The bits of a number with the given sign and magnitude. -/
theorem toNat_ofMagnitude (negative : Bool) {m : Nat} (h : m < w.signBit) :
    (ofMagnitude negative m : Binary w).bits.toNat = if negative then w.signBit + m else m := by
  have size : 2 ^ w.size = w.signBit + w.signBit := by cases w <;> decide +kernel
  rw [ofMagnitude, ofBits, BitVec.toNat_ofNat, Nat.mod_eq_of_lt]
  cases negative with
  | false => exact Nat.lt_of_lt_of_le h (size ▸ Nat.le_add_right _ _)
  | true => exact size ▸ Nat.add_lt_add_left h _

/-- Magnitude bits are those of the number made of them. -/
theorem magnitude_ofMagnitude (negative : Bool) {m : Nat} (h : m < w.signBit) :
    (ofMagnitude negative m : Binary w).magnitude = m := by
  rw [magnitude, toNat_ofMagnitude negative h]
  cases negative with
  | false => exact Nat.mod_eq_of_lt h
  | true => exact (Nat.add_mod_left _ _).trans (Nat.mod_eq_of_lt h)

theorem isFinite_ofMagnitude (negative : Bool) {m : Nat} (h : m < w.infinityBits) :
    (ofMagnitude negative m : Binary w).isFinite = true := by
  have inside : m < w.signBit := Nat.lt_trans h (infinityBits_lt_signBit w)
  rw [isFinite, magnitude_ofMagnitude negative inside]
  exact decide_eq_true h

/-! ## Rounding a ratio -/

theorem roundHalfEven_le (n d : Nat) : roundHalfEven n d ≤ n / d + 1 := by
  have parity : n / d % 2 ≤ 1 := by omega
  unfold roundHalfEven
  dsimp only
  split
  · omega
  · split
    · omega
    · omega

/-- The exponent of a ratio is at most one below the difference of the lengths of its terms, counted from the
last place of a significand. -/
theorem le_exponentOf (w : FloatWidth) (n d : Nat) :
    (n.log2 : Int) - d.log2 - w.fractionBits - 1 ≤ exponentOf w n d := by
  unfold exponentOf
  dsimp only
  split <;> omega

theorem exponentOf_le (w : FloatWidth) (n d : Nat) :
    exponentOf w n d ≤ max w.minExponent ((n.log2 : Int) - d.log2 - w.fractionBits) := by
  unfold exponentOf
  dsimp only
  split <;> omega

/-- A ratio that is divided by a power of two near its own is small. -/
theorem scaleDown_lt {n d t : Nat} {e : Int} (hd : d ≠ 0) (h : (n.log2 : Int) - d.log2 ≤ e + t) :
    (scaleDown n d e).1 / (scaleDown n d e).2 < Nat.pow 2 (t + 1) := by
  have above : n < 2 ^ (n.log2 + 1) := Nat.lt_log2_self
  have below : 2 ^ d.log2 ≤ d := Nat.log2_self_le hd
  have positive : 0 < d := Nat.pos_of_ne_zero hd
  cases e with
  | ofNat k =>
    have lengths : n.log2 + 1 ≤ t + 1 + (d.log2 + k) := by
      simp only [Int.ofNat_eq_natCast] at h
      omega
    have scaled : 0 < d * 2 ^ k := Nat.mul_pos positive (Nat.pow_pos (by decide))
    refine (Nat.div_lt_iff_lt_mul scaled).2 ?_
    calc n < 2 ^ (n.log2 + 1) := above
      _ ≤ 2 ^ (t + 1 + (d.log2 + k)) := Nat.pow_le_pow_right (by decide) lengths
      _ = 2 ^ (t + 1) * (2 ^ d.log2 * 2 ^ k) := by
        rw [Nat.pow_add 2 (t + 1), Nat.pow_add 2 d.log2]
      _ ≤ 2 ^ (t + 1) * (d * 2 ^ k) := Nat.mul_le_mul_left _ (Nat.mul_le_mul_right _ below)
  | negSucc k =>
    have lengths : n.log2 + 1 + (k + 1) ≤ t + 1 + d.log2 := by omega
    refine (Nat.div_lt_iff_lt_mul positive).2 ?_
    calc n * 2 ^ (k + 1) < 2 ^ (n.log2 + 1) * 2 ^ (k + 1) :=
          Nat.mul_lt_mul_of_pos_right above (Nat.pow_pos (by decide))
      _ = 2 ^ (n.log2 + 1 + (k + 1)) := (Nat.pow_add 2 _ _).symm
      _ ≤ 2 ^ (t + 1 + d.log2) := Nat.pow_le_pow_right (by decide) lengths
      _ = 2 ^ (t + 1) * 2 ^ d.log2 := Nat.pow_add 2 _ _
      _ ≤ 2 ^ (t + 1) * d := Nat.mul_le_mul_left _ below

theorem ofRatio_of_ne_zero (negative : Bool) {n : Nat} (hn : n ≠ 0) (d : Nat) :
    (ofRatio negative n d : Binary w) =
      let e := exponentOf w n d
      ofMagnitude negative (min ((e - w.minExponent).toNat * Nat.pow 2 w.fractionBits
        + roundHalfEven (scaleDown n d e).1 (scaleDown n d e).2) w.infinityBits) := by
  rw [ofRatio, if_neg hn]

/-- A ratio below a thousand bits is no infinite double. -/
theorem isFinite_ofRatio_double (negative : Bool) {n d : Nat} (hd : d ≠ 0) (hn : n.log2 ≤ 1000) :
    (ofRatio negative n d : Binary64).isFinite = true := by
  have infinity : FloatWidth.double.infinityBits = 2047 * Nat.pow 2 52 := by decide +kernel
  have positive : 0 < Nat.pow 2 52 := Nat.pow_pos (by decide)
  by_cases zero : n = 0
  · have bound : 0 < FloatWidth.double.infinityBits := by omega
    rw [ofRatio, if_pos zero]
    exact isFinite_ofMagnitude negative bound
  · have low := le_exponentOf .double n d
    have high := exponentOf_le .double n d
    have bits : FloatWidth.double.fractionBits = 52 := rfl
    have least : FloatWidth.double.minExponent = -1074 := rfl
    rw [ofRatio_of_ne_zero negative zero]
    simp only
    obtain ⟨e, exponent⟩ : ∃ e, exponentOf .double n d = e := ⟨_, rfl⟩
    rw [exponent] at low high ⊢
    rw [bits] at low high
    rw [least] at high
    have quotient := scaleDown_lt (n := n) (t := 53) (e := e) hd (by omega)
    have rounded := roundHalfEven_le (scaleDown n d e).1 (scaleDown n d e).2
    have place : (e + 1074).toNat ≤ 2022 := by omega
    have field : (e + 1074).toNat * Nat.pow 2 52 ≤ 2022 * Nat.pow 2 52 := Nat.mul_le_mul_right _ place
    refine isFinite_ofMagnitude negative (Nat.lt_of_le_of_lt (Nat.min_le_left _ _) ?_)
    rw [bits, least, infinity, Int.sub_neg]
    rw [show Nat.pow 2 (53 + 1) = 4 * Nat.pow 2 52 by decide +kernel] at quotient
    generalize Nat.pow 2 52 = unit at *
    omega

/-! ## Conversion -/

theorem log2_le_of_lt {n k : Nat} (h : n < Nat.pow 2 (k + 1)) : n.log2 ≤ k := by
  by_cases zero : n = 0
  · rw [zero, Nat.log2_zero]
    exact Nat.zero_le k
  · exact Nat.le_of_lt_succ ((Nat.log2_lt zero).2 h)

theorem significand_lt (x : Binary w) : x.significand < 2 * Nat.pow 2 w.fractionBits := by
  have fraction : x.fraction < Nat.pow 2 w.fractionBits := Nat.mod_lt _ (Nat.pow_pos (by decide))
  unfold significand
  split
  · omega
  · omega

/-- The exponent of a finite number of 32 bits. -/
theorem exponent_le_of_isFinite {x : Binary32} (h : x.isFinite = true) : x.exponent ≤ 104 := by
  have below : x.magnitude < FloatWidth.single.infinityBits := of_decide_eq_true h
  have field : x.exponentField < 255 := by
    refine (Nat.div_lt_iff_lt_mul (Nat.pow_pos (by decide))).2 ?_
    exact below
  have least : FloatWidth.single.minExponent = -149 := rfl
  unfold exponent
  split <;> omega

/-- A finite number of 32 bits is a finite double. -/
theorem isFinite_convert_double {x : Binary32} (h : x.isFinite = true) :
    (x.convert .double).isFinite = true := by
  have below : x.magnitude < FloatWidth.single.infinityBits := of_decide_eq_true h
  have number : x.isNaN = false := decide_eq_false (by omega)
  have bounded : x.isInfinite = false := by
    rw [isInfinite, beq_eq_false_iff_ne]
    omega
  have significand : x.significand < 2 ^ 24 := x.significand_lt
  have exponent := exponent_le_of_isFinite h
  rw [convert, number, bounded]
  simp only [Bool.false_eq_true, if_false]
  split
  · next e power =>
    have small : e ≤ 104 := by
      rw [power, Int.ofNat_eq_natCast] at exponent
      omega
    have product : x.significand * 2 ^ e < 2 ^ (127 + 1) :=
      calc x.significand * 2 ^ e < 2 ^ 24 * 2 ^ e :=
            Nat.mul_lt_mul_of_pos_right significand (Nat.pow_pos (by decide))
        _ = 2 ^ (24 + e) := (Nat.pow_add 2 24 e).symm
        _ ≤ 2 ^ (127 + 1) := Nat.pow_le_pow_right (by decide) (by omega)
    have length := log2_le_of_lt product
    exact isFinite_ofRatio_double _ (by decide) (by rw [Nat.pow_eq]; omega)
  · next e power =>
    have length := log2_le_of_lt (k := 23) significand
    exact isFinite_ofRatio_double _ (Nat.ne_of_gt (Nat.pow_pos (by decide : 0 < 2))) (by omega)

end Binary

/-- A finite number stays finite as a double. -/
theorem Value.isFinite_widen {w : FloatWidth} {x : Binary w} (h : x.isFinite = true) :
    (widen w x).isFinite = true := by
  cases w with
  | single => exact Binary.isFinite_convert_double h
  | double => exact h

end SqlDialects
