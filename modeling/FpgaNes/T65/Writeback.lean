import FpgaNes.T65.Arithmetic
import FpgaNes.T65.Program
import Mathlib.Tactic.FinCases

/-!
# The processor: results of instructions

The ALU operation and the bus A source that a microprogram latches give, at the writeback,
the registers and flags of its instruction.
-/

namespace FpgaNes

namespace T65

open Mos6502 (Flags Regs ReadOp ModifyOp ImpliedOp Instruction decode addCarry subBorrow compare)

/-! ## Operations of the ALU -/

/-- The flags `N` and `Z` of a result. -/
def Status.nz (p : Status) (result : Byte) : Status :=
  { p with n := result.getLsbD 7, z := result == 0 }

/-- A program sees the flags of a result. -/
@[simp] theorem Status.flags_nz (p : Status) (result : Byte) :
    (p.nz result).flags = p.flags.nz result := by
  rw [Status.nz, Flags.nz, BitVec.msb_eq_getLsbD_last]
  rfl

/-- Most operations give a result and its flags `N` and `Z`. -/
theorem alu_nz (op : AluOp) (a b : Byte) (p : Status)
    (plain : op ∈ [AluOp.or, .and, .eor, .eq2, .dec, .inc]) :
    alu false op a b p = (p.nz (Alu.result false op a b p), Alu.result false op a b p) := by
  fin_cases plain <;> rfl

/-- `ADC` gives the sum with the carry. -/
theorem alu_adc (r : Regs) (operand : Byte) (p : Status) (same : p.flags = r.flags) :
    let out := alu false .adc r.a operand p
    out.2 = (addCarry r operand).a ∧ out.1.flags = (addCarry r operand).flags := by
  simp only [alu, Alu.result, Alu.carries, Alu.adc_binary, addCarry, ← same, Flags.nz,
    Status.flags, reduceCtorEq, false_and, if_false]
  exact ⟨trivial, trivial⟩

/-- `SBC` gives the difference with the borrow. -/
theorem alu_sbc (r : Regs) (operand : Byte) (p : Status) (same : p.flags = r.flags) :
    let out := alu false .sbc r.a operand p
    out.2 = (subBorrow r operand).a ∧ out.1.flags = (subBorrow r operand).flags := by
  simp only [alu, Alu.result, Alu.carries, Alu.sbc_binary, subBorrow, ← same, Flags.nz,
    Status.flags, Alu.takesCarry, Bool.not_true, Bool.or_false, reduceCtorEq, false_and, if_false]
  exact ⟨trivial, trivial⟩

/-- `CMP` keeps the register and gives the flags of the difference. -/
theorem alu_cmp (register operand : Byte) (p : Status) :
    let out := alu false .cmp register operand p
    out.2 = register ∧ out.1.flags = Mos6502.compare p.flags register operand := by
  simp only [alu, Alu.result, Alu.carries, Alu.sbc_binary, Mos6502.compare, Flags.nz,
    Status.flags, Alu.takesCarry, reduceCtorEq, false_and, if_false]
  simp

/-- A shift to the left, by slices. -/
theorem shiftLeft_slices (a : Byte) : a.extractLsb 6 0 ++ 0#1 = a <<< 1 := by
  apply BitVec.eq_of_toNat_eq
  simp only [Hdl.toNat_append, BitVec.extractLsb, Hdl.toNat_slice, BitVec.toNat_shiftLeft,
    Nat.shiftLeft_eq, BitVec.toNat_ofNat]
  omega

/-- A shift to the right, by slices. -/
theorem shiftRight_slices (a : Byte) : 0#1 ++ a.extractLsb 7 1 = a >>> 1 := by
  have bound := a.isLt
  apply BitVec.eq_of_toNat_eq
  simp only [Hdl.toNat_append, BitVec.extractLsb, Hdl.toNat_slice, BitVec.toNat_ushiftRight,
    Nat.shiftRight_eq_div_pow, BitVec.toNat_ofNat]
  omega

/-- A rotation to the left, by slices. -/
theorem rotateLeft_slices (a : Byte) (carry : Bool) :
    a.extractLsb 6 0 ++ BitVec.ofBool carry = a <<< 1 ||| BitVec.ofNat 8 carry.toNat := by
  have bit : BitVec.ofNat 8 carry.toNat = 0#7 ++ BitVec.ofBool carry := by cases carry <;> rfl
  rw [← shiftLeft_slices, bit]
  exact (BitVec.or_append.trans (by rw [BitVec.or_zero, BitVec.zero_or])).symm

/-- A rotation to the right, by slices. -/
theorem rotateRight_slices (a : Byte) (carry : Bool) :
    BitVec.ofBool carry ++ a.extractLsb 7 1 = a >>> 1 ||| BitVec.ofNat 8 (carry.toNat * 2 ^ 7) := by
  have bit : BitVec.ofNat 8 (carry.toNat * 2 ^ 7) = BitVec.ofBool carry ++ 0#7 := by
    cases carry <;> rfl
  rw [← shiftRight_slices, bit]
  exact (BitVec.or_append.trans (by rw [BitVec.or_zero, BitVec.zero_or])).symm

/-- A read-modify-write operation gives its value and its flags. -/
theorem alu_modify (op : ModifyOp) (operand busB : Byte) (p : Status) :
    let out := alu false (modifyAlu op) operand busB p
    out.2 = op.value p.flags.c operand ∧ out.1.flags = op.flags p.flags operand := by
  have value : Alu.result false (modifyAlu op) operand busB p = op.value p.c operand := by
    cases op
    case asl => exact shiftLeft_slices operand
    case lsr => exact shiftRight_slices operand
    case rol => exact rotateLeft_slices operand p.c
    case ror => exact rotateRight_slices operand p.c
    case dec => rfl
    case inc => rfl
  have flags : (alu false (modifyAlu op) operand busB p).1.flags =
      { p.flags.nz (op.value p.c operand) with
        c := (Alu.carries false (modifyAlu op) operand busB p).c } := by
    rw [← value, ← Status.flags_nz]
    cases op <;> rfl
  constructor
  · exact Eq.trans (by cases op <;> rfl) value
  · rw [flags]
    cases op <;> rfl

/-! ## Writebacks -/

/-- What a microprogram puts on bus A. -/
def busSource (source : BusATo) (r : Regs) (operand : Byte) : Byte :=
  match source with
  | .di => operand
  | .x => r.x
  | .y => r.y
  | .s => r.s
  | _ => r.a

/-- The registers after a writeback. -/
def Writeback.result (w : Writeback) (operand : Byte) (p : Status) (r : Regs) : Regs :=
  let out := alu false w.op (busSource w.source r operand) operand p
  { r with
    a := if w.lda then out.2 else r.a
    x := if w.ldx then out.2 else r.x
    y := if w.ldy then out.2 else r.y
    s := if w.lds then out.2 else r.s
    flags :=
      if w.ldp then (Status.ofByte out.2).flags
      else if w.lda || w.ldx || w.ldy || w.saveP then out.1.flags
      else r.flags }

/-- The writeback of an operation that reads its operand is its effect. -/
theorem read_result (op : ReadOp) (operand : Byte) (p : Status) (r : Regs)
    (same : p.flags = r.flags) :
    (readWriteback op).result operand p r = op.apply operand r := by
  cases op
  case adc =>
    obtain ⟨sum, flags⟩ := alu_adc r operand p same
    simp [readWriteback, Writeback.result, busSource, sum, flags, ReadOp.apply, addCarry]
  case sbc =>
    obtain ⟨difference, flags⟩ := alu_sbc r operand p same
    simp [readWriteback, Writeback.result, busSource, difference, flags, ReadOp.apply, subBorrow]
  case cmp =>
    obtain ⟨kept, flags⟩ := alu_cmp r.a operand p
    simp [readWriteback, Writeback.result, busSource, kept, flags, ReadOp.apply, same]
  case cpx =>
    obtain ⟨kept, flags⟩ := alu_cmp r.x operand p
    simp [readWriteback, Writeback.result, busSource, kept, flags, ReadOp.apply, same]
  case cpy =>
    obtain ⟨kept, flags⟩ := alu_cmp r.y operand p
    simp [readWriteback, Writeback.result, busSource, kept, flags, ReadOp.apply, same]
  case bit =>
    rw [ReadOp.apply, ← same]
    rfl
  all_goals
    simp [readWriteback, Writeback.result, busSource, alu_nz, Alu.result, ReadOp.apply, same]

/-- An operation on registers alone, but for the flags that it sets or clears by name. -/
def registerEffect (op : ImpliedOp) (r : Regs) : Regs :=
  match op with
  | .clc | .sec | .cli | .sei | .clv | .cld | .sed => r
  | _ => op.apply r

/-- The writeback of a shift of the accumulator. -/
theorem accumulator_result (shift : ModifyOp) (operand : Byte) (p : Status) (r : Regs)
    (same : p.flags = r.flags) :
    Writeback.result { op := modifyAlu shift, lda := true } operand p r = shift.accumulator r := by
  have shifted := alu_modify shift r.a operand p
  rw [same] at shifted
  rw [ModifyOp.accumulator, ← shifted.1, ← shifted.2]
  rfl

/-- The writeback of an operation on registers is its effect on them. -/
theorem implied_result (op : ImpliedOp) (operand : Byte) (p : Status) (r : Regs)
    (same : p.flags = r.flags) :
    (impliedWriteback op).result operand p r = registerEffect op r := by
  cases op
  case asl => exact accumulator_result .asl operand p r same
  case rol => exact accumulator_result .rol operand p r same
  case lsr => exact accumulator_result .lsr operand p r same
  case ror => exact accumulator_result .ror operand p r same
  case txs => rfl
  all_goals
    simp [impliedWriteback, Writeback.result, busSource, alu_nz, Alu.result, registerEffect,
      ImpliedOp.apply, same]

/-- A pull of the accumulator writes it back with its flags. -/
theorem pla_result (operand : Byte) (p : Status) (r : Regs) (same : p.flags = r.flags) :
    (writeback .pla).result operand p r = { r with a := operand, flags := r.flags.nz operand } := by
  simp [writeback, Writeback.result, busSource, alu_nz, Alu.result, same]

/-- A pull of the flags writes them back. -/
theorem plp_result (operand : Byte) (p : Status) (r : Regs) :
    (writeback .plp).result operand p r = { r with flags := (Status.ofByte operand).flags } := by
  simp [writeback, Writeback.result, busSource, alu_nz, Alu.result]

end T65
end FpgaNes
