import Mathlib
import Unreferenced.Numeric.Double

/-!
# Doubles and the numbers they stand for

Every operation on doubles rounds an exact quotient once, and the error of this is at most the
2⁵³rd part of the quotient (`Double.abs_toRat_ofRatio_sub_le`).  So the error of a sum and of a
quotient is as small (`Double.abs_toRat_add_sub_le`, `Double.abs_toRat_div_sub_le`), and a
natural number of few digits is kept as it is (`Double.num_ofNat`, `Double.toRat_ofNat`).  With
one decimal place a double is shown in tenths, with an error of at most half a tenth
(`Double.abs_tenths_sub_le`).
-/

namespace Unreferenced
namespace Numeric

/-- The rounded quotient is within half a unit of the quotient. -/
theorem abs_roundDiv_sub_le (num : Nat) {den : Nat} (pos : 0 < den) :
    |(roundDiv num den : ℚ) - num / den| ≤ 1 / 2 := by
  obtain ⟨above, below⟩ := roundDiv_near num den pos
  have above : (2 : ℚ) * (roundDiv num den * den) ≤ 2 * num + den := by exact_mod_cast above
  have below : (2 : ℚ) * num ≤ 2 * (roundDiv num den * den) + den := by exact_mod_cast below
  have pos : (0 : ℚ) < den := by exact_mod_cast pos
  have whole : (roundDiv num den : ℚ) - num / den = (roundDiv num den * den - num) / den := by
    rw [sub_div, mul_div_cancel_right₀ _ pos.ne']
  rw [whole, abs_div, abs_of_pos pos, div_le_iff₀ pos, abs_le]
  constructor <;> linarith

namespace Double

/-! ## Exact values -/

/-- The exact value of a double. -/
def toRat (x : Double) : ℚ := x.num / x.den

theorem two_zpow_eq (e : ℤ) :
    (2 : ℚ) ^ e = (Nat.pow 2 e.toNat : Nat) / (Nat.pow 2 (-e).toNat : Nat) := by
  rw [Nat.pow_eq, Nat.pow_eq, Nat.cast_pow, Nat.cast_pow, ← zpow_natCast, ← zpow_natCast,
    Nat.cast_ofNat, ← zpow_sub₀ two_ne_zero, Int.toNat_sub_toNat_neg]

theorem toRat_eq (x : Double) : x.toRat = x.significand * 2 ^ x.exponent := by
  rw [toRat, num, den, two_zpow_eq, Nat.cast_mul, mul_div_assoc]

/-! ## Rounding -/

/-- The exponent leaves a quotient all digits of a significand before it is rounded. -/
theorem le_div_of_exponentFor {num den : Nat} (hn : num ≠ 0) (hd : 0 < den) :
    (2 : ℚ) ^ 52 * 2 ^ exponentFor num den ≤ num / den := by
  have pos : (0 : ℚ) < den := by exact_mod_cast hd
  simp only [exponentFor]
  split
  · -- by their binary digits the quotient is above this power of two
    have low : (2 : ℚ) ^ num.log2 ≤ num := by exact_mod_cast Nat.log2_self_le hn
    have high : (den : ℚ) ≤ 2 ^ (den.log2 + 1) := by exact_mod_cast Nat.lt_log2_self.le
    calc (2 : ℚ) ^ 52 * 2 ^ ((num.log2 : ℤ) - den.log2 - (precision - 1 : Nat) - 1)
        = 2 ^ num.log2 / 2 ^ (den.log2 + 1) := by
          rw [← zpow_natCast, ← zpow_natCast, ← zpow_natCast, ← zpow_add₀ two_ne_zero,
            ← zpow_sub₀ two_ne_zero]
          congr 1
          simp only [precision]
          omega
      _ ≤ num / den := div_le_div₀ (Nat.cast_nonneg _) low pos high
  · next enough =>
    rw [two_zpow_eq, ← mul_div_assoc, div_le_div_iff₀ (by exact_mod_cast Nat.two_pow_pos _) pos]
    have enough := Nat.not_lt.mp enough
    rw [mul_right_comm, mul_assoc]
    exact_mod_cast enough

/-- A significand with one digit too many stands for the same number as its half with the
next exponent. -/
theorem toRat_carry (m : Nat) (e : ℤ) :
    (if m = Nat.pow 2 precision then (⟨Nat.pow 2 (precision - 1), e + 1⟩ : Double)
      else ⟨m, e⟩).toRat = m * 2 ^ e := by
  split
  · next full =>
    have half : (m : ℚ) = 2 ^ 52 * 2 := by
      rw [full]
      norm_num [precision]
    have top : ((Nat.pow 2 (precision - 1) : Nat) : ℚ) = 2 ^ 52 := by norm_num [precision]
    rw [toRat_eq, half, zpow_add_one₀ two_ne_zero, top]
    ring
  · rw [toRat_eq]

/-- A quotient is rounded with an error of at most its 2⁵³rd part. -/
theorem abs_toRat_ofRatio_sub_le (num : Nat) {den : Nat} (hd : 0 < den) :
    |(ofRatio num den).toRat - num / den| ≤ num / den / 2 ^ 53 := by
  by_cases hn : num = 0
  · simp [hn, ofRatio, toRat_eq, zero]
  · have full := le_div_of_exponentFor hn hd
    rw [ofRatio, if_neg hn]
    generalize exponentFor num den = e at full
    have unit : (0 : ℚ) < 2 ^ e := zpow_pos two_pos e
    have scaled : ((num * Nat.pow 2 (-e).toNat : Nat) : ℚ) / (den * Nat.pow 2 e.toNat : Nat) =
        num / den / 2 ^ e := by
      rw [two_zpow_eq, Nat.cast_mul, Nat.cast_mul, div_div_div_eq]
    have room : 0 < den * Nat.pow 2 e.toNat := Nat.mul_pos hd (Nat.two_pow_pos _)
    have near := abs_roundDiv_sub_le (num * Nat.pow 2 (-e).toNat) room
    rw [scaled] at near
    dsimp only
    rw [toRat_carry]
    generalize roundDiv _ _ = m at near
    calc |(m : ℚ) * 2 ^ e - num / den|
        = |(m : ℚ) - num / den / 2 ^ e| * 2 ^ e := by
          rw [← abs_of_pos unit, ← abs_mul, abs_of_pos unit, sub_mul, div_mul_cancel₀ _ unit.ne']
      _ ≤ 1 / 2 * 2 ^ e := mul_le_mul_of_nonneg_right near unit.le
      _ ≤ num / den / 2 ^ 53 := by
          rw [le_div_iff₀ (by positivity)]
          linarith

/-! ## Small numbers -/

theorem exponentFor_neg {n : Nat} (pos : n ≠ 0) (small : n < Nat.pow 2 52) :
    exponentFor n 1 < 0 := by
  have log : n.log2 < 52 := (Nat.log2_lt pos).mpr small
  have guess : (n.log2 : Int) - (1 : Nat).log2 - (precision - 1 : Nat) < 0 := by
    rw [show (1 : Nat).log2 = 0 by decide]
    simp only [precision]
    omega
  simp only [exponentFor]
  split
  · omega
  · exact guess

/-- A natural number of few digits is kept as it is. -/
theorem toRat_ofNat {n : Nat} (small : n < Nat.pow 2 52) : (ofNat n).toRat = n := by
  rw [ofNat, ofRatio]
  by_cases hn : n = 0
  · simp [hn, toRat_eq, zero]
  · have neg := exponentFor_neg hn small
    rw [if_neg hn]
    generalize exponentFor n 1 = e at neg
    have up : e.toNat = 0 := by omega
    have whole : roundDiv (n * Nat.pow 2 (-e).toNat) (1 * Nat.pow 2 e.toNat) =
        n * Nat.pow 2 (-e).toNat := by
      have exact := roundDiv_mul_right (n * Nat.pow 2 (-e).toNat) 1 Nat.one_pos
      rw [Nat.mul_one] at exact
      rwa [up]
    have room : ((Nat.pow 2 (-e).toNat : Nat) : ℚ) ≠ 0 := by
      exact_mod_cast (Nat.two_pow_pos _).ne'
    dsimp only
    rw [toRat_carry, whole, two_zpow_eq, up, Nat.cast_mul, mul_assoc, mul_div_cancel₀ _ room]
    simp

theorem num_ofNat {n : Nat} (small : n < Nat.pow 2 52) : (ofNat n).num = n * (ofNat n).den := by
  have same := toRat_ofNat small
  rw [toRat, div_eq_iff (by exact_mod_cast (den_pos _).ne')] at same
  exact_mod_cast same

/-! ## Arithmetic -/

/-- A sum is rounded once. -/
theorem abs_toRat_add_sub_le (x y : Double) :
    |(x.add y).toRat - (x.toRat + y.toRat)| ≤ (x.toRat + y.toRat) / 2 ^ 53 := by
  have hx : (x.den : ℚ) ≠ 0 := by exact_mod_cast x.den_pos.ne'
  have hy : (y.den : ℚ) ≠ 0 := by exact_mod_cast y.den_pos.ne'
  have sum : ((x.num * y.den + y.num * x.den : Nat) : ℚ) / (x.den * y.den : Nat) =
      x.toRat + y.toRat := by
    rw [toRat, toRat, div_add_div _ _ hx hy]
    push_cast
    ring
  rw [add, ← sum]
  exact abs_toRat_ofRatio_sub_le _ (Nat.mul_pos x.den_pos y.den_pos)

/-- A quotient is rounded once. -/
theorem abs_toRat_div_sub_le (x : Double) {y : Double} (hy : 0 < y.num) :
    |(x.div y).toRat - x.toRat / y.toRat| ≤ x.toRat / y.toRat / 2 ^ 53 := by
  have quotient : ((x.num * y.den : Nat) : ℚ) / (x.den * y.num : Nat) = x.toRat / y.toRat := by
    rw [toRat, toRat, div_div_div_eq, Nat.cast_mul, Nat.cast_mul]
  rw [div, ← quotient]
  exact abs_toRat_ofRatio_sub_le _ (Nat.mul_pos x.den_pos hy)

/-! ## Decimal notation -/

/-- The number of tenths that one decimal place shows. -/
def tenths (x : Double) : Nat := roundDiv (x.num * 10) x.den

theorem fixed_one (x : Double) :
    x.fixed 1 = toString (x.tenths / 10) ++ "." ++ toString (x.tenths % 10) := by
  have one : Nat.toDigits 10 (x.tenths % 10) = [(x.tenths % 10).digitChar] :=
    Nat.toDigits_of_lt_base (Nat.mod_lt _ (by decide))
  have last : toString (x.tenths % 10) = String.ofList (Nat.toDigits 10 (x.tenths % 10)) :=
    Nat.repr_eq_ofList_toDigits
  show toString (x.tenths / 10) ++ "." ++ String.ofList
    (List.replicate (1 - (Nat.toDigits 10 (x.tenths % 10)).length) '0' ++
      Nat.toDigits 10 (x.tenths % 10)) = _
  rw [last, one]
  rfl

theorem abs_tenths_sub_le (x : Double) : |(x.tenths : ℚ) - x.toRat * 10| ≤ 1 / 2 := by
  have near := abs_roundDiv_sub_le (x.num * 10) x.den_pos
  rwa [Nat.cast_mul, mul_div_right_comm] at near

end Double
end Numeric
end Unreferenced
