import Mathlib.Algebra.Order.Ring.Int
import Mathlib.Tactic.NormNum

/-!
# Narrowing integer conversions

Two's complement conversions between integer types, as functions on integers: a conversion keeps the low bits of its argument and reads them back in the target type.
-/

namespace Narrowing

/-- Conversion to the signed type of `w` bits. -/
def signed (w : Nat) (x : Int) : Int := x.bmod (2 ^ w)

/-- Conversion to the unsigned type of `w` bits. -/
def unsigned (w : Nat) (x : Int) : Nat := (x % 2 ^ w).toNat

theorem unsigned_lt (w : Nat) (x : Int) : unsigned w x < 2 ^ w := by
  have hpos : (0 : Int) < 2 ^ w := by positivity
  have hlt := Int.emod_lt_of_pos x hpos
  have hnonneg := Int.emod_nonneg x hpos.ne'
  have hcast : ((2 ^ w : Nat) : Int) = (2 : Int) ^ w := by push_cast; rfl
  unfold unsigned
  omega

theorem unsigned_of_lt {w n : Nat} (h : n < 2 ^ w) : unsigned w n = n := by
  have hcast : ((2 ^ w : Nat) : Int) = (2 : Int) ^ w := by push_cast; rfl
  rw [unsigned, Int.emod_eq_of_lt (by omega) (by omega), Int.toNat_natCast]

theorem unsigned_eq_iff {w : Nat} {x : Int} : (unsigned w x : Int) = x ↔ 0 ≤ x ∧ x < 2 ^ w := by
  constructor
  · intro h
    have hlt := unsigned_lt w x
    have hcast : ((2 ^ w : Nat) : Int) = (2 : Int) ^ w := by push_cast; rfl
    omega
  · rintro ⟨hnonneg, hlt⟩
    rw [unsigned, Int.emod_eq_of_lt hnonneg hlt, Int.toNat_of_nonneg hnonneg]

theorem signed_of_lt {w : Nat} {x : Int} (hlow : -2 ^ w ≤ x) (hhigh : x < 2 ^ w) : signed (w + 1) x = x := by
  have hcast : ((2 ^ (w + 1) : Nat) : Int) = 2 ^ w * 2 := by
    push_cast
    rw [pow_succ]
  apply Int.bmod_eq_of_le_mul_two <;> omega

theorem signed32_mem (x : Int) : -2 ^ 31 ≤ signed 32 x ∧ signed 32 x < 2 ^ 31 := by
  rw [signed, Int.bmod_def]
  split <;> omega

theorem signed32_nonneg_iff {n : Nat} (h : n < 2 ^ 32) : 0 ≤ signed 32 n ↔ n < 2 ^ 31 := by
  rw [signed, Int.bmod_def]
  split <;> omega

/-- A sum of two conversions that is in the range is the conversion of the sum. -/
theorem signed32_add {x y : Int} (hlow : -2 ^ 31 ≤ signed 32 x + signed 32 y) (hhigh : signed 32 x + signed 32 y < 2 ^ 31) :
    signed 32 (x + y) = signed 32 x + signed 32 y := by
  simp only [signed, Int.bmod_def] at hlow hhigh ⊢
  omega

/-- The unsigned index of a number that may be negative is in a range where the number is. -/
theorem unsigned64_lt_iff {x : Int} {n : Nat} (hlow : -2 ^ 31 ≤ x) (hhigh : x < 2 ^ 31) (hn : n ≤ 2 ^ 63) :
    unsigned 64 x < n ↔ 0 ≤ x ∧ x < n := by
  unfold unsigned
  omega

/-! ### A signed number of 64 bits in two halves -/

def highHalf (total : Int64) : UInt32 := (total >>> 32).toUInt64.toUInt32

def lowHalf (total : Int64) : UInt32 := (total &&& 0xFFFFFFFF).toUInt64.toUInt32

def joinHalves (high low : UInt32) : Int64 := (high.toUInt64.toInt64 <<< 32) ||| low.toUInt64.toInt64

theorem toNat_toUInt64 (x : Int64) : (x.toUInt64.toNat : Int) = x.toInt % 2 ^ 64 := by
  have hlt := x.toBitVec.isLt
  change (x.toBitVec.toNat : Int) = x.toBitVec.toInt % 2 ^ 64
  rw [BitVec.toInt_eq_toNat_bmod, Int.bmod_def]
  split <;> omega

/-- The or of the halves is their sum, since they share no bit. -/
theorem toNat_joinHalves (high low : UInt32) :
    (joinHalves high low).toUInt64.toNat = high.toNat * 2 ^ 32 + low.toNat := by
  have hlow := low.toNat_lt
  have hhigh := high.toNat_lt
  have hshift : (high.toUInt64.toInt64 <<< 32).toUInt64.toNat = high.toNat <<< 32 % 2 ^ 64 := by
    change (high.toUInt64.toInt64 <<< 32).toBitVec.toNat = _
    rw [Int64.toBitVec_shiftLeft]
    simp
  have hsmall : high.toNat <<< 32 < 2 ^ 64 := by
    rw [Nat.shiftLeft_eq]
    omega
  rw [joinHalves, Int64.toUInt64_or, UInt64.toNat_or, hshift, Nat.mod_eq_of_lt hsmall]
  change _ ||| low.toUInt64.toNat = _
  rw [UInt32.toNat_toUInt64, ← Nat.shiftLeft_add_eq_or_of_lt hlow, Nat.shiftLeft_eq]

theorem lowHalf_ofInt (total : Int) : lowHalf (.ofInt total) = .ofNat (unsigned 32 total) := by
  apply UInt32.toNat_inj.mp
  have hmask : (Int64.ofInt total &&& 0xFFFFFFFF).toUInt64.toNat = (Int64.ofInt total).toUInt64.toNat % 2 ^ 32 := by
    rw [Int64.toUInt64_and, UInt64.toNat_and]
    exact Nat.and_two_pow_sub_one_eq_mod _ 32
  have hword := toNat_toUInt64 (Int64.ofInt total)
  have hwrap : total.bmod Int64.size % 2 ^ 64 = total % 2 ^ 64 := Int.bmod_emod
  rw [Int64.toInt_ofInt, hwrap] at hword
  rw [UInt32.toNat_ofNat_of_lt' (unsigned_lt 32 total), lowHalf, UInt64.toNat_toUInt32, hmask, Nat.mod_mod, unsigned]
  omega

/-- The arithmetic shift of a negative number still has the high half in its low bits. -/
theorem highHalf_ofInt (total : Int) : highHalf (.ofInt total) = .ofNat (unsigned 32 (total / 2 ^ 32)) := by
  apply UInt32.toNat_inj.mp
  have hshift : (Int64.ofInt total >>> 32).toInt = total.bmod (2 ^ 64) / 2 ^ 32 := by
    rw [← Int64.toInt_toBitVec, Int64.toBitVec_shiftRight]
    simp [BitVec.toInt_sshiftRight, Int.shiftRight_eq_div_pow]
  have hword := toNat_toUInt64 (Int64.ofInt total >>> 32)
  rw [hshift, Int.bmod_def] at hword
  rw [UInt32.toNat_ofNat_of_lt' (unsigned_lt 32 _), highHalf, UInt64.toNat_toUInt32, unsigned]
  split at hword <;> omega

end Narrowing
