import Mathlib.Data.Int.Log
import Mathlib.Data.Rat.Floor
import Mathlib.Tactic.Linarith

/-!
# Binary floating-point formats

A format has a number of bits and a least exponent. A number is rounded to the nearest multiple of the unit of its binade, halves to the even one. Infinities, the two zeros and the largest exponent are left out: a rounded number is a rational.

Rounding does not pass an integer that the format holds.
-/

structure BinaryFormat where
  precision : Nat
  minExponent : Int
  precision_pos : 0 < precision
  minExponent_nonpos : minExponent ≤ 0

namespace BinaryFormat

def roundEven (x : ℚ) : Int :=
  let below := ⌊x⌋
  if x - below < 1 / 2 then below
  else if 1 / 2 < x - below then below + 1
  else if below % 2 = 0 then below
  else below + 1

def exponent (f : BinaryFormat) (x : ℚ) : Int := max (Int.log 2 |x| + 1 - f.precision) f.minExponent

def round (f : BinaryFormat) (x : ℚ) : ℚ := roundEven (x / 2 ^ f.exponent x) * 2 ^ f.exponent x

def truncate (x : ℚ) : Int := x.num.tdiv x.den

def binary32 : BinaryFormat := ⟨24, -149, by decide, by decide⟩
def binary64 : BinaryFormat := ⟨53, -1074, by decide, by decide⟩

/-! ### Rounding between integers -/

theorem le_roundEven {n : Int} {x : ℚ} (h : n ≤ x) : n ≤ roundEven x := by
  have hfloor : n ≤ ⌊x⌋ := Int.le_floor.mpr h
  unfold roundEven
  dsimp only
  split
  · exact hfloor
  split
  · exact hfloor.trans (Int.le_add_one le_rfl)
  split
  · exact hfloor
  · exact hfloor.trans (Int.le_add_one le_rfl)

theorem roundEven_le {n : Int} {x : ℚ} (h : x ≤ n) : roundEven x ≤ n := by
  have hfloor : ⌊x⌋ ≤ n := Int.cast_le.mp ((Int.floor_le x).trans h)
  have habove (hhalf : ¬ x - ⌊x⌋ < 1 / 2) : ⌊x⌋ + 1 ≤ n := by
    have hlt : (⌊x⌋ : ℚ) < n := by linarith
    exact Int.cast_lt.mp hlt
  unfold roundEven
  dsimp only
  split
  · exact hfloor
  rename_i hhalf
  split
  · exact habove hhalf
  split
  · exact hfloor
  · exact habove hhalf

variable {f : BinaryFormat}

theorem round_nonneg {x : ℚ} (h : 0 ≤ x) : 0 ≤ f.round x := by
  have hunit : (0 : ℚ) < 2 ^ f.exponent x := zpow_pos (by norm_num) _
  have hscaled : ((0 : Int) : ℚ) ≤ x / 2 ^ f.exponent x := by
    rw [Int.cast_zero]
    exact div_nonneg h hunit.le
  exact mul_nonneg (Int.cast_nonneg (le_roundEven hscaled)) hunit.le

theorem exponent_nonpos {x : ℚ} (h : 0 ≤ x) (hlt : x < 2 ^ f.precision) : f.exponent x ≤ 0 := by
  have hprecision := f.precision_pos
  refine max_le ?_ f.minExponent_nonpos
  rcases h.eq_or_lt with rfl | hpos
  · rw [abs_zero, Int.log_zero_right]
    omega
  · have hlog : Int.log 2 x < f.precision := by
      refine (Int.lt_zpow_iff_log_lt (by norm_num) hpos).mp ?_
      rw [zpow_natCast]
      exact_mod_cast hlt
    rw [abs_of_pos hpos]
    omega

theorem round_le {x : ℚ} {n : Nat} (h : 0 ≤ x) (hle : x ≤ n) (hn : n < 2 ^ f.precision) : f.round x ≤ n := by
  have hlt : x < 2 ^ f.precision := hle.trans_lt (by exact_mod_cast hn)
  obtain ⟨k, hk⟩ : ∃ k : Nat, f.exponent x = -k := Int.exists_eq_neg_ofNat (exponent_nonpos h hlt)
  have hunit : (0 : ℚ) < 2 ^ k := by positivity
  have hscaled : x * 2 ^ k ≤ ((n * 2 ^ k : Int) : ℚ) := by
    push_cast
    exact mul_le_mul_of_nonneg_right hle hunit.le
  have hround : f.round x = roundEven (x * 2 ^ k) / 2 ^ k := by
    rw [round, hk, zpow_neg, zpow_natCast, div_inv_eq_mul, div_eq_mul_inv]
  have hbound : (roundEven (x * 2 ^ k) : ℚ) ≤ n * 2 ^ k := by exact_mod_cast roundEven_le hscaled
  rw [hround]
  exact div_le_of_le_mul₀ hunit.le n.cast_nonneg hbound

end BinaryFormat
