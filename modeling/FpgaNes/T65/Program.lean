import FpgaNes.T65.MCode
import FpgaNes.Mos6502.Instruction

/-!
# The processor: microprograms

The microcode of the documented opcodes as a table by instruction: an addressing part, which
depends on the addressing mode, a data part, which depends on whether the operand is read,
written or both, and what the next opcode fetch writes into the registers. The microcode
computes this table.
-/

namespace FpgaNes

namespace T65

open Mos6502 (Instruction ReadOp StoreOp ModifyOp ImpliedOp Mode decode)

/-- A machine cycle as far as an instruction determines it: what it moves and, where that
matters, what it puts on bus A, in the ALU and on the data bus. -/
structure MicroStep extends Moves where
  /-- The operand of the ALU, where the cycle settles it. -/
  source : Option BusATo := none
  /-- The operation of the ALU, where the cycle settles it. -/
  op : Option AluOp := none
  /-- The byte that is written, where the cycle settles it. -/
  data : Option WriteData := none

/-- An output of the microcode is that of a machine cycle of an instruction that ends with
some cycle. -/
def MicroStep.fits (step : MicroStep) (last : Cycle) (u : Micro) : Bool :=
  decide (u.toMoves = { step.toMoves with lCycle := last }) &&
    step.source.all (u.setBusATo == ·) && step.op.all (u.aluOp == ·) &&
    step.data.all (u.writeData == ·)

/-- What an opcode fetch writes into the registers, from the operation, the register and the
operand that the cycle before it latched. -/
structure Writeback where
  /-- The operation of the ALU. -/
  op : AluOp := .eq1
  /-- Its operand. -/
  source : BusATo := .abc
  /-- The accumulator is loaded. -/
  lda : Bool := false
  /-- X is loaded. -/
  ldx : Bool := false
  /-- Y is loaded. -/
  ldy : Bool := false
  /-- The stack pointer is loaded. -/
  lds : Bool := false
  /-- The flags are loaded. -/
  ldp : Bool := false
  /-- The flags are saved. -/
  saveP : Bool := false
  deriving DecidableEq

/-- The last cycle of an instruction latches the operation and the register, if the writeback
is not empty. -/
def Writeback.latch (w : Writeback) (step : MicroStep) : MicroStep :=
  if w = {} then step else { step with source := some w.source, op := some w.op }

/-- The writeback of an operation that reads its operand. -/
def readWriteback : ReadOp → Writeback
  | .ora => { op := .or, lda := true }
  | .and => { op := .and, lda := true }
  | .eor => { op := .eor, lda := true }
  | .adc => { op := .adc, lda := true }
  | .sbc => { op := .sbc, lda := true }
  | .cmp => { op := .cmp, lda := true }
  | .lda => { op := .eq2, source := .di, lda := true }
  | .ldx => { op := .eq2, source := .di, ldx := true }
  | .ldy => { op := .eq2, source := .di, ldy := true }
  | .cpx => { op := .cmp, source := .x, ldx := true }
  | .cpy => { op := .cmp, source := .y, ldy := true }
  | .bit => { op := .bit, saveP := true }

/-- The writeback of an operation on registers. -/
def impliedWriteback : ImpliedOp → Writeback
  | .tax => { op := .eq2, ldx := true }
  | .tay => { op := .eq2, ldy := true }
  | .txa => { op := .eq2, source := .x, lda := true }
  | .tya => { op := .eq2, source := .y, lda := true }
  | .tsx => { op := .eq2, source := .s, ldx := true }
  | .txs => { op := .eq1, source := .x, lds := true }
  | .inx => { op := .inc, source := .x, ldx := true }
  | .iny => { op := .inc, source := .y, ldy := true }
  | .dex => { op := .dec, source := .x, ldx := true }
  | .dey => { op := .dec, source := .y, ldy := true }
  | .asl => { op := .asl, lda := true }
  | .rol => { op := .rol, lda := true }
  | .lsr => { op := .lsr, lda := true }
  | .ror => { op := .ror, lda := true }
  | .clc | .sec | .cli | .sei | .clv | .cld | .sed | .nop => {}

/-- The writeback of an instruction. -/
def writeback : Instruction → Writeback
  | .read op _ => readWriteback op
  | .implied op => impliedWriteback op
  | .pla => { op := .eq2, source := .di, lda := true, saveP := true }
  | .plp => { op := .eq2, source := .di, ldp := true, saveP := true }
  | _ => {}

/-- A read-modify-write operation of the ALU. -/
def modifyAlu : ModifyOp → AluOp
  | .asl => .asl
  | .rol => .rol
  | .lsr => .lsr
  | .ror => .ror
  | .dec => .dec
  | .inc => .inc

/-- The data a store puts on the bus. -/
def storeData : StoreOp → WriteData
  | .sta => .abc
  | .stx => .x
  | .sty => .y

/-! ## Addressing -/

/-- The byte after the opcode is the zero page address. -/
def fetchAd : MicroStep := { jump := .inc, ldad := true, setAddrTo := .zpg }

/-- The byte after the opcode is the low byte of the address. -/
def fetchBal : MicroStep := { jump := .inc, ldbal := true }

/-- The index is added to the low byte while the high byte is fetched. -/
def fetchIndexed (index : BusATo) : MicroStep :=
  { jump := .inc, baAdd := .add, ldbah := true, setAddrTo := .ba, source := some index }

/-- The low byte of a pointer is fetched. -/
def fetchPointer : MicroStep := { baAdd := .inc, ldbal := true, setAddrTo := .zpg }

/-- The latch that holds the operand address. -/
def operandLatch : Mode → AddrTo
  | .immediate => .pbr
  | .zeroPage | .zeroPageX | .zeroPageY => .zpg
  | _ => .ba

/-- The cycles that leave the operand address in its latch, but for the last of them. -/
def approach : Mode → List MicroStep
  | .immediate | .zeroPage => []
  | .zeroPageX | .zeroPageY => [fetchAd]
  | .absolute => [fetchBal]
  | .absoluteX => [fetchBal, fetchIndexed .x]
  | .absoluteY => [fetchBal, fetchIndexed .y]
  | .indexedIndirect => [fetchAd, { adAdd := true, setAddrTo := .zpg }, fetchPointer]
  | .indirectIndexed =>
    [fetchAd, fetchPointer,
      { baAdd := .add, ldbah := true, setAddrTo := .ba, source := some .y }]

/-- The last cycle before the operand address is on the bus. -/
def arrive : Mode → MicroStep
  | .immediate => {}
  | .zeroPage => fetchAd
  | .zeroPageX => { adAdd := true, setAddrTo := .zpg }
  | .zeroPageY => { adAdd := true, addY := true, setAddrTo := .zpg }
  | .absolute => { jump := .inc, ldbah := true, setAddrTo := .ba }
  | .indexedIndirect => { ldbah := true, setAddrTo := .ba }
  | .absoluteX | .absoluteY | .indirectIndexed => { baAdd := .adj, setAddrTo := .ba }

/-- The modes whose last addressing cycle is the last of all when no page is crossed. -/
def indexed : Mode → Bool
  | .absoluteX | .absoluteY | .indirectIndexed => true
  | _ => false

/-! ## Instructions -/

/-- The machine cycles of an instruction after its opcode fetch. The condition of a branch
decides its length. -/
def program (taken : Bool) : Instruction → List MicroStep
  | .read op .immediate => [(readWriteback op).latch { jump := .inc }]
  | .read op mode =>
    let last := (readWriteback op).latch {}
    if indexed mode then
      approach mode ++ [(readWriteback op).latch { arrive mode with breakAtNA := true }, last]
    else approach mode ++ [arrive mode, last]
  | .store op mode =>
    approach mode ++ [{ arrive mode with write := true, data := some (storeData op) }, {}]
  | .modify op mode =>
    let address := operandLatch mode
    approach mode ++
      [ arrive mode,
        { lddi := true, write := true, data := some .dl, setAddrTo := address,
          source := some .di, op := some (modifyAlu op) },
        { ldalu := true, saveP := true, write := true, data := some .dl, setAddrTo := address },
        {} ]
  | .implied op => [(impliedWriteback op).latch {}]
  | .jmp => [{ jump := .inc, lddi := true }, { jump := .diDl }]
  | .jmpIndirect =>
    [ { jump := .inc, lddi := true, ldbal := true },
      { ldbah := true, setAddrTo := .ba },
      { lddi := true, setAddrTo := .ba, baAdd := .inc },
      { jump := .diDl } ]
  | .jsr =>
    [ { jump := .inc, lddi := true, setAddrTo := .sp },
      { setAddrTo := .sp, write := true, data := some .pch },
      { decS := true, setAddrTo := .sp, write := true, data := some .pcl },
      { decS := true },
      { jump := .diDl } ]
  | .rts =>
    [ { setAddrTo := .sp },
      { incS := true, setAddrTo := .sp },
      { incS := true, lddi := true, setAddrTo := .sp },
      { jump := .diDl },
      { jump := .inc } ]
  | .rti =>
    [ { setAddrTo := .sp },
      { incS := true, setAddrTo := .sp },
      { incS := true, setAddrTo := .sp, source := some .di, op := some .eq1 },
      { ldp := true, incS := true, lddi := true, setAddrTo := .sp },
      { jump := .diDl } ]
  | .brk =>
    [ { setAddrTo := .sp, write := true, data := some .pch },
      { decS := true, setAddrTo := .sp, write := true, data := some .pcl },
      { decS := true, setAddrTo := .sp, write := true, data := some .p },
      { decS := true, setAddrTo := .ba },
      { lddi := true, setAddrTo := .ba },
      { jump := .diDl } ]
  | .pha => [{ setAddrTo := .sp, write := true, data := some .abc }, { decS := true }]
  | .php => [{ setAddrTo := .sp, write := true, data := some .p }, { decS := true }]
  | .pla =>
    [{ setAddrTo := .sp }, { incS := true, setAddrTo := .sp }, (writeback .pla).latch {}]
  | .plp =>
    [ { setAddrTo := .sp }, { incS := true, setAddrTo := .sp },
      { (writeback .plp).latch {} with ldp := true } ]
  | .branch _ _ =>
    { jump := .inc, lddi := true } ::
      if taken then [{ jump := .rel, pcAdd := true }, {}] else []

/-- The microcode of an opcode is a list of machine cycles. -/
def Encodes (opcode : Byte) (taken : Bool) (steps : List MicroStep) : Prop :=
  ∀ k : Fin steps.length,
    steps[k].fits (BitVec.ofNat 3 steps.length) (mcode opcode false taken (BitVec.ofNat 3 (k + 1)))

instance (opcode : Byte) (taken : Bool) (steps : List MicroStep) :
    Decidable (Encodes opcode taken steps) :=
  inferInstanceAs (Decidable (∀ k : Fin steps.length,
    steps[k].fits (BitVec.ofNat 3 steps.length)
      (mcode opcode false taken (BitVec.ofNat 3 (k + 1))) = true))

/-- A microprogram fits in the machine cycles after an opcode fetch. -/
theorem length_program_le (taken : Bool) (i : Instruction) : (program taken i).length ≤ 7 := by
  cases i with
  | read op mode => cases mode <;> simp [program, approach, indexed]
  | store op mode => cases mode <;> simp [program, approach]
  | modify op mode => cases mode <;> simp [program, approach]
  | branch flag value => cases taken <;> simp [program]
  | _ => simp [program]

/-- Only a branch has a condition. -/
theorem program_unconditional {i : Instruction} (other : ∀ flag value, i ≠ .branch flag value)
    (taken taken' : Bool) : program taken i = program taken' i := by
  cases i with
  | branch flag value => exact absurd rfl (other flag value)
  | read op mode => cases mode <;> rfl
  | _ => rfl

/-! ## The table of opcodes -/

/-- The instructions that are no interrupt entry and that touch the flags only where their
microprogram says so. -/
def plain : Instruction → Bool
  | .brk | .implied _ => false
  | _ => true

/-- The row of a flag instruction in its column. -/
def flagRow : Instruction → Option (BitVec 3)
  | .implied .clc => some 0
  | .implied .sec => some 1
  | .implied .cli => some 2
  | .implied .sei => some 3
  | .implied .clv => some 5
  | .implied .cld => some 6
  | .implied .sed => some 7
  | _ => none

/-- The row of a branch in its column. -/
def branchRow : Instruction → Option (BitVec 3)
  | .branch .n false => some 0
  | .branch .n true => some 1
  | .branch .v false => some 2
  | .branch .v true => some 3
  | .branch .c false => some 4
  | .branch .c true => some 5
  | .branch .z false => some 6
  | .branch .z true => some 7
  | _ => none

/-- The instructions that opcodes decode to: stores and read-modify-writes have no immediate
operand, and no operand of the latter is at a pointer. -/
def documented : Instruction → Bool
  | .store _ mode => mode ≠ .immediate
  | .modify _ mode => mode ∈ [.zeroPage, .zeroPageX, .absolute, .absoluteX]
  | _ => true

/-- What the microcode does in the opcode fetch after an instruction: its writeback, and no
move. -/
def FetchWrites (opcode : Byte) (taken : Bool) (i : Instruction) : Prop :=
  let u := mcode opcode false taken 0
  let w := writeback i
  u.lda = w.lda ∧ u.ldx = w.ldx ∧ u.ldy = w.ldy ∧ u.lds = w.lds ∧
    u.toMoves = { lCycle := u.lCycle, ldp := w.ldp, saveP := w.saveP } ∧ u.lCycle ≠ 0

instance (opcode : Byte) (taken : Bool) (i : Instruction) :
    Decidable (FetchWrites opcode taken i) := inferInstanceAs (Decidable (_ ∧ _))

/-- The opcodes of the instructions, by cases: all that later lemmas say about opcodes. -/
theorem opcode_table : ∀ opcode : Byte, ∀ i ∈ decode opcode,
    (∀ taken, Encodes opcode taken (program taken i) ∧ FetchWrites opcode taken i) ∧
      (plain i = true → opcode ≠ 0 ∧ opcode.extractLsb 4 0 ≠ 0b11000) ∧
      (∀ row ∈ flagRow i, opcode.extractLsb 4 0 = 0b11000 ∧ opcode.extractLsb 7 5 = row) ∧
      (flagRow i = none → opcode.extractLsb 4 0 ≠ 0b11000 ∨ opcode.extractLsb 7 5 = 4) ∧
      (∀ row ∈ branchRow i, opcode.extractLsb 7 5 = row) ∧
      (i = .brk → opcode = 0) ∧ documented i = true := by
  decide +kernel

section

variable {opcode : Byte} {i : Instruction}

/-- The microcode of a documented opcode is the microprogram of its instruction. -/
theorem encodes_program (taken : Bool) (decoded : i ∈ decode opcode) :
    Encodes opcode taken (program taken i) :=
  ((opcode_table opcode i decoded).1 taken).1

/-- The opcode fetch after an instruction makes its writeback and moves nothing. -/
theorem fetchWrites (taken : Bool) (decoded : i ∈ decode opcode) : FetchWrites opcode taken i :=
  ((opcode_table opcode i decoded).1 taken).2

/-- The opcode of a plain instruction is not that of `BRK` or of a flag instruction. -/
theorem plain_opcode (decoded : i ∈ decode opcode) (ordinary : plain i = true) :
    opcode ≠ 0 ∧ opcode.extractLsb 4 0 ≠ 0b11000 :=
  (opcode_table opcode i decoded).2.1 ordinary

/-- The flag instructions are their column, but for `TYA`. -/
theorem flagRow_opcode (decoded : i ∈ decode opcode) :
    (∀ row ∈ flagRow i, opcode.extractLsb 4 0 = 0b11000 ∧ opcode.extractLsb 7 5 = row) ∧
      (flagRow i = none → opcode.extractLsb 4 0 ≠ 0b11000 ∨ opcode.extractLsb 7 5 = 4) :=
  ⟨(opcode_table opcode i decoded).2.2.1, (opcode_table opcode i decoded).2.2.2.1⟩

/-- The branches are their column. -/
theorem branchRow_opcode (decoded : i ∈ decode opcode) :
    ∀ row ∈ branchRow i, opcode.extractLsb 7 5 = row :=
  (opcode_table opcode i decoded).2.2.2.2.1

/-- `BRK` is opcode zero. -/
theorem decode_brk (decoded : .brk ∈ decode opcode) : opcode = 0 :=
  (opcode_table opcode .brk decoded).2.2.2.2.2.1 rfl

/-- Every opcode decodes to an instruction with a documented mode. -/
theorem decode_documented (decoded : i ∈ decode opcode) : documented i = true :=
  (opcode_table opcode i decoded).2.2.2.2.2.2

end

end T65

end FpgaNes
