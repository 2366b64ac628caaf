import FpgaNes.T65.Alu
import FpgaNes.Mos6502.Semantics
import FpgaNes.Hdl.Bits

/-!
# The processor: arithmetic in integers

With the decimal mode out of use, the nibble sums of the ALU are the sum and the difference
of whole bytes, and each operation gives the result and the flags of its instruction.
-/

namespace FpgaNes

namespace T65

open Mos6502 (Flags Regs addCarry subBorrow compare)

/-- The flags of `P` that a program sees. -/
def Status.flags (p : Status) : Flags := ⟨p.n, p.v, p.d, p.i, p.z, p.c⟩

namespace Alu

/-! ## Nibbles -/

/-- The value of the low nibble. -/
theorem low_toNat (a : Byte) : (a.extractLsb 3 0).toNat = a.toNat % 16 := by
  simp [BitVec.extractLsb]

/-- The value of the high nibble. -/
theorem high_toNat (a : Byte) : (a.extractLsb 7 4).toNat = a.toNat / 16 := by
  have bound := a.isLt
  simp only [BitVec.extractLsb, Hdl.toNat_slice]
  omega

/-- The sign of a byte, as a bound on its value. -/
theorem sign_eq (a : Byte) : a.getLsbD 7 = decide (128 ≤ a.toNat) := by
  simpa [BitVec.msb_eq_getLsbD_last] using BitVec.msb_eq_decide a

/-- A carry counts as the quotient it is. -/
theorem carry_toNat {n : ℕ} (bound : n < 32) : (decide (16 ≤ n)).toNat = n / 16 := by
  by_cases beyond : 16 ≤ n
  · rw [decide_eq_true beyond, Bool.toNat_true]
    omega
  · rw [decide_eq_false beyond, Bool.toNat_false]
    omega

variable (a b : BitVec 4) (carry : Bool)

/-- The sum of two nibbles, with its flags. A binary sum has no second carry. -/
theorem nibbleAdd_spec :
    let sum := a.toNat + b.toNat + carry.toNat
    ((nibbleAdd a b carry).extractLsb 4 1).toNat = sum % 16 ∧
      ((nibbleAdd a b carry).extractLsb 4 1 == 0) = decide (sum % 16 = 0) ∧
      (nibbleAdd a b carry).getLsbD 4 = decide (8 ≤ sum % 16) ∧
      (nibbleAdd a b carry).getLsbD 5 = decide (16 ≤ sum) ∧
      (nibbleAdd a b carry).getLsbD 6 = false := by
  intro sum
  have unit := carry.toNat_le
  have left := a.isLt
  have right := b.isLt
  have value : (nibbleAdd a b carry).toNat = 2 * (a.toNat + b.toNat) + carry.toNat + 1 := by
    simp only [nibbleAdd, BitVec.toNat_add, BitVec.toNat_setWidth, Hdl.toNat_append,
      Hdl.toNat_flag, BitVec.toNat_ofNat]
    omega
  simp only [BitVec.extractLsb, Hdl.slice_zero, Hdl.toNat_slice, Hdl.bit_eq, value,
    decide_eq_decide, decide_eq_false_iff_not, sum]
  omega

/-- The difference of two low nibbles, with its flags. -/
theorem nibbleSub_spec :
    let difference := a.toNat + 15 - b.toNat + carry.toNat
    ((nibbleSub a b carry).extractLsb 4 1).toNat = difference % 16 ∧
      ((nibbleSub a b carry).extractLsb 4 1 == 0) = decide (difference % 16 = 0) ∧
      (nibbleSub a b carry).getLsbD 5 = !decide (16 ≤ difference) := by
  intro difference
  have unit := carry.toNat_le
  have left := a.isLt
  have right := b.isLt
  have value : (nibbleSub a b carry).toNat =
      (2 ^ 7 + 2 * a.toNat + carry.toNat - (2 * b.toNat + 1)) % 2 ^ 7 := by
    simp only [nibbleSub, BitVec.toNat_sub, BitVec.toNat_setWidth, Hdl.toNat_append,
      Hdl.toNat_flag, BitVec.toNat_ofNat]
    omega
  simp only [BitVec.extractLsb, Hdl.slice_zero, Hdl.toNat_slice, Hdl.bit_eq, value,
    decide_eq_decide, ← decide_not, difference]
  omega

/-- The difference of two high nibbles, after a borrow or none, with its flags. -/
theorem nibbleBorrow_spec :
    let difference := a.toNat + 15 - b.toNat + carry.toNat
    ((nibbleBorrow a b (!carry)).extractLsb 4 1).toNat = difference % 16 ∧
      ((nibbleBorrow a b (!carry)).extractLsb 4 1 == 0) = decide (difference % 16 = 0) ∧
      (nibbleBorrow a b (!carry)).getLsbD 4 = decide (8 ≤ difference % 16) ∧
      (nibbleBorrow a b (!carry)).getLsbD 5 = !decide (16 ≤ difference) := by
  intro difference
  have unit := carry.toNat_le
  have left := a.isLt
  have right := b.isLt
  have borrow : (!carry).toNat = 1 - carry.toNat := by cases carry <;> rfl
  have value : (nibbleBorrow a b (!carry)).toNat =
      (2 ^ 6 + 2 * a.toNat - (2 * b.toNat + (1 - carry.toNat))) % 2 ^ 6 := by
    simp only [nibbleBorrow, BitVec.toNat_sub, BitVec.toNat_setWidth, Hdl.toNat_append,
      Hdl.toNat_flag, BitVec.toNat_ofNat, borrow]
    omega
  simp only [BitVec.extractLsb, Hdl.slice_zero, Hdl.toNat_slice, Hdl.bit_eq, value,
    decide_eq_decide, ← decide_not, difference]
  omega

/-! ## Bytes -/

/-- The sum and the flags of `ADC` out of decimal mode. -/
theorem adc_binary (a b : Byte) (p : Status) :
    adc false a b p =
      { z := a + b + BitVec.ofNat 8 p.c.toNat == 0
        c := 2 ^ 8 ≤ a.toNat + b.toNat + p.c.toNat
        v :=
          a.toInt + b.toInt + p.c.toNat < -2 ^ 7 ∨ 2 ^ 7 ≤ a.toInt + b.toInt + p.c.toNat
        n := (a + b + BitVec.ofNat 8 p.c.toNat).msb
        q := a + b + BitVec.ofNat 8 p.c.toNat } := by
  have bound := p.c.toNat_lt
  have ha := a.isLt
  have hb := b.isLt
  have carry := carry_toNat (n := a.toNat % 16 + b.toNat % 16 + p.c.toNat) (by omega)
  have sum : (a + b + BitVec.ofNat 8 p.c.toNat).toNat =
      (a.toNat + b.toNat + p.c.toNat) % 256 := by
    simp
  simp only [adc, Bool.and_false, Bool.false_eq_true, and_false, if_false, AddSub.mk.injEq,
    nibbleAdd_spec, low_toNat, high_toNat, carry, sign_eq, Bool.false_or,
    BitVec.toInt_eq_toNat_cond, BitVec.msb_eq_decide, sum]
  refine ⟨?_, ?_, ?_, ?_, ?_⟩
  · rw [Bool.eq_iff_iff, beq_iff_eq, ← BitVec.toNat_inj, sum]
    simp only [Bool.and_eq_true, decide_eq_true_eq, BitVec.ofNat_eq_ofNat, BitVec.toNat_ofNat]
    omega
  · simp only [decide_eq_decide]
    omega
  · rw [Bool.eq_iff_iff]
    simp
    omega
  · simp only [decide_eq_decide]
    omega
  · apply BitVec.eq_of_toNat_eq
    rw [Hdl.toNat_append, sum]
    simp only [nibbleAdd_spec, low_toNat, high_toNat, carry]
    omega

/-- The difference and the flags of `SBC` and of a comparison out of decimal mode. -/
theorem sbc_binary (op : AluOp) (a b : Byte) (p : Status) :
    let borrow := !(p.c || !takesCarry op)
    sbc false op a b p =
      ({ z := a - b - BitVec.ofNat 8 borrow.toNat == 0
         c := b.toNat + borrow.toNat ≤ a.toNat
         v :=
           a.toInt - b.toInt - borrow.toNat < -2 ^ 7 ∨ 2 ^ 7 ≤ a.toInt - b.toInt - borrow.toNat
         n := (a - b - BitVec.ofNat 8 borrow.toNat).msb
         q := a - b - BitVec.ofNat 8 borrow.toNat },
        a - b - BitVec.ofNat 8 borrow.toNat) := by
  intro borrow
  have ha := a.isLt
  have hb := b.isLt
  have carryIn : (p.c || !takesCarry op) = !borrow := (Bool.not_not _).symm
  have bound := borrow.toNat_lt
  have unit : (!borrow).toNat = 1 - borrow.toNat := by cases borrow <;> rfl
  have carry := carry_toNat (n := a.toNat % 16 + 15 - b.toNat % 16 + (1 - borrow.toNat)) (by omega)
  have difference : (a - b - BitVec.ofNat 8 borrow.toNat).toNat =
      (a.toNat + 512 - b.toNat - borrow.toNat) % 256 := by
    simp only [BitVec.toNat_sub, BitVec.toNat_ofNat]
    omega
  have result :
      (nibbleBorrow (a.extractLsb 7 4) (b.extractLsb 7 4)
          ((nibbleSub (a.extractLsb 3 0) (b.extractLsb 3 0) (!borrow)).getLsbD 5)).extractLsb 4 1 ++
        (nibbleSub (a.extractLsb 3 0) (b.extractLsb 3 0) (!borrow)).extractLsb 4 1 =
      a - b - BitVec.ofNat 8 borrow.toNat := by
    apply BitVec.eq_of_toNat_eq
    rw [Hdl.toNat_append, difference]
    simp only [nibbleSub_spec, nibbleBorrow_spec, unit, low_toNat, high_toNat, carry]
    omega
  simp only [sbc, Bool.and_false, Bool.false_eq_true, if_false, carryIn, result, Prod.mk.injEq,
    and_true, AddSub.mk.injEq]
  simp only [nibbleSub_spec, nibbleBorrow_spec, unit, low_toNat, high_toNat, carry, sign_eq,
    Bool.not_not, BitVec.toInt_eq_toNat_cond, BitVec.msb_eq_decide, difference]
  refine ⟨?_, ?_, ?_, ?_⟩
  · rw [Bool.eq_iff_iff, beq_iff_eq, ← BitVec.toNat_inj, difference]
    simp only [Bool.and_eq_true, decide_eq_true_eq, BitVec.ofNat_eq_ofNat, BitVec.toNat_ofNat]
    omega
  · simp only [decide_eq_decide]
    omega
  · rw [Bool.eq_iff_iff]
    simp
    omega
  · simp only [decide_eq_decide]
    omega

end Alu
end T65
end FpgaNes
