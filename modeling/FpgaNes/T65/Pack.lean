import FpgaNes.Ppu.State
import FpgaNes.Hdl.Bits

/-!
# The processor: types

`T65_Pack.vhd`: the flag numbers of `P`, the machine cycles, the selectors of the buses and
of the address, and the operations of the ALU.
-/

namespace FpgaNes

namespace T65

/-- A machine cycle, `T_Lcycle`. Cycle 0 is `Cycle_sync`, the opcode fetch. -/
abbrev Cycle := BitVec 3

/-- The register `P`, one flag for each of the bit numbers `Flag_C` to `Flag_N`. -/
structure Status where
  /-- Carry. -/
  c : Bool
  /-- Zero. -/
  z : Bool
  /-- Interrupt disable. -/
  i : Bool
  /-- Decimal mode. -/
  d : Bool
  /-- Break. -/
  b : Bool
  /-- `Flag_1`, the bit that is always set. -/
  one : Bool
  /-- Overflow. -/
  v : Bool
  /-- Negative. -/
  n : Bool
  deriving DecidableEq

namespace Status

/-- `P` as the byte it is. -/
def toByte (p : Status) : Byte :=
  BitVec.ofBool p.n ++ BitVec.ofBool p.v ++ BitVec.ofBool p.one ++ BitVec.ofBool p.b ++
    BitVec.ofBool p.d ++ BitVec.ofBool p.i ++ BitVec.ofBool p.z ++ BitVec.ofBool p.c

/-- `P` from a byte. -/
def ofByte (byte : Byte) : Status where
  c := byte.getLsbD 0
  z := byte.getLsbD 1
  i := byte.getLsbD 2
  d := byte.getLsbD 3
  b := byte.getLsbD 4
  one := byte.getLsbD 5
  v := byte.getLsbD 6
  n := byte.getLsbD 7

/-- Flags read back from their byte. -/
@[simp] theorem ofByte_toByte (p : Status) : ofByte p.toByte = p := by
  obtain ⟨c, z, i, d, b, one, v, n⟩ := p
  revert c z i d b one v n
  decide

/-- A byte read back from its flags. -/
@[simp] theorem toByte_ofByte (byte : Byte) : (ofByte byte).toByte = byte := by
  have bound := byte.isLt
  apply BitVec.eq_of_toNat_eq
  simp only [toByte, ofByte, Hdl.toNat_append, Hdl.toNat_flag, Hdl.toNat_bit]
  omega

end Status

/-- `T_Set_BusA_To`. -/
inductive BusATo
  | di | abc | x | y | s | p | da | dao | dax | aax
  deriving DecidableEq

/-- `T_Set_Addr_To`. -/
inductive AddrTo
  | pbr | sp | zpg | ba
  deriving DecidableEq

/-- `T_Write_Data`. -/
inductive WriteData
  | dl | abc | x | y | s | p | pcl | pch | ax | axb | xb | yb
  deriving DecidableEq

/-- `T_ALU_OP`. -/
inductive AluOp
  | or | and | eor | adc | eq1 | eq2 | cmp | sbc | asl | rol | lsr | ror | bit | dec | inc
  | arr | anc | sax | xaa
  deriving DecidableEq

/-- The output `Jump` of the microcode: none, `++`, `DIDL`, relative. -/
inductive Jump
  | none | inc | diDl | rel
  deriving DecidableEq

/-- The output `BAAdd` of the microcode: none, increment, add, adjust. -/
inductive BaAdd
  | none | inc | add | adj
  deriving DecidableEq

/-- The output `BAQuirk` of the microcode: none, and, copy. -/
inductive BaQuirk
  | none | and | copy
  deriving DecidableEq

end T65

end FpgaNes
