import FpgaNes.Ppu.Blocks
import FpgaNes.Hdl.Bits

/-!
# The scroll register as a number

The fields of `loopy_reg` and its fifteen raw bits are two views of one register. The
lemmas here pass between them, so that a field assignment and a slice assignment of
the source can be compared.
-/

namespace FpgaNes

open Hdl

namespace LoopyReg

/-- The fields in numbers are bounded by their widths. -/
theorem bounds (reg : LoopyReg) :
    reg.fineY.toNat < 8 ∧ reg.nametableY.toNat < 2 ∧ reg.nametableX.toNat < 2 ∧
      reg.coarseY.toNat < 32 ∧ reg.coarseX.toNat < 32 :=
  ⟨reg.fineY.isLt, Bool.toNat_lt _, Bool.toNat_lt _, reg.coarseY.isLt, reg.coarseX.isLt⟩

/-- The packed value, field by field. -/
theorem bits_toNat (reg : LoopyReg) :
    reg.bits.toNat =
      4096 * reg.fineY.toNat + 2048 * reg.nametableY.toNat + 1024 * reg.nametableX.toNat +
        32 * reg.coarseY.toNat + reg.coarseX.toNat := by
  simp only [bits, toNat_append, toNat_flag]
  omega

/-- Fifteen bits assigned to the struct are read back unchanged. -/
@[simp] theorem bits_ofBits (word : BitVec 15) : (ofBits word).bits = word := by
  apply BitVec.eq_of_toNat_eq
  have bound := word.isLt
  rw [bits_toNat]
  simp only [ofBits, toNat_slice, toNat_bit]
  omega

/-- The packed bits determine every field. -/
theorem bits_injective {left right : LoopyReg} (same : left.bits = right.bits) :
    left = right := by
  have value := congrArg BitVec.toNat same
  rw [bits_toNat, bits_toNat] at value
  have bounds := left.bounds
  have bounds' := right.bounds
  ext1
  · exact BitVec.eq_of_toNat_eq (by omega)
  · exact flag_ext (by omega)
  · exact flag_ext (by omega)
  · exact BitVec.eq_of_toNat_eq (by omega)
  · exact BitVec.eq_of_toNat_eq (by omega)

/-- The struct is recovered from its packed bits. -/
@[simp] theorem ofBits_bits (reg : LoopyReg) : ofBits reg.bits = reg :=
  bits_injective (bits_ofBits reg.bits)

end LoopyReg

end FpgaNes
