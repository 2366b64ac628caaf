import Mathlib.Data.Nat.Notation
import Mathlib.Tactic.Ring

/-!
# Values of bit vector operations

Concatenations and slices as arithmetic of the unsigned value, the form in which
linear arithmetic decides them.
-/

namespace FpgaNes.Hdl

variable {v w : ℕ}

/-- Concatenation places the left vector above the right one. -/
theorem toNat_append (high : BitVec v) (low : BitVec w) :
    (high ++ low).toNat = high.toNat * 2 ^ w + low.toNat := by
  rw [BitVec.toNat_append, ← Nat.shiftLeft_add_eq_or_of_lt low.isLt, Nat.shiftLeft_eq]

/-- A slice is a quotient and a remainder. -/
theorem toNat_slice (word : BitVec w) (start len : ℕ) :
    (word.extractLsb' start len).toNat = word.toNat / 2 ^ start % 2 ^ len := by
  rw [BitVec.extractLsb'_toNat, Nat.shiftRight_eq_div_pow]

/-- A selected bit is the parity of a quotient. -/
theorem toNat_bit (word : BitVec w) (i : ℕ) :
    (word.getLsbD i).toNat = word.toNat / 2 ^ i % 2 := by
  rw [BitVec.getLsbD, Nat.toNat_testBit]

/-- A selected bit, by the value of its vector. -/
theorem bit_eq (word : BitVec w) (i : ℕ) :
    word.getLsbD i = decide (word.toNat / 2 ^ i % 2 = 1) := by
  rw [Bool.eq_iff_iff, decide_eq_true_eq, ← toNat_bit]
  cases word.getLsbD i <;> decide

/-- A slice is zero when its value is. -/
theorem slice_zero (word : BitVec w) (start len : ℕ) :
    (word.extractLsb' start len == 0) = decide (word.toNat / 2 ^ start % 2 ^ len = 0) := by
  rw [Bool.eq_iff_iff, beq_iff_eq, decide_eq_true_eq, ← BitVec.toNat_inj, toNat_slice]
  rfl

/-- A one-bit vector has the value of its bit. -/
theorem toNat_flag (flag : Bool) : (BitVec.ofBool flag).toNat = flag.toNat :=
  BitVec.toNat_ofBool flag

/-- A bit vector read back from its own value. -/
theorem ofNat_toNat_self (word : BitVec w) : BitVec.ofNat w word.toNat = word := by
  simp

/-- Two flags with one value are one flag. -/
theorem flag_ext {left right : Bool} (same : left.toNat = right.toNat) : left = right := by
  cases left <;> cases right <;> simp_all

end FpgaNes.Hdl
