import FpgaNes.T65.Stage

/-!
# The processor: between instructions

At an opcode fetch the last instruction has made all its moves and its writeback is still to
come: the fetch makes it. The registers a program sees are those after the writeback.
-/

namespace FpgaNes

open Hdl
open Mos6502 (Regs Instruction ImpliedOp Memory decode)

namespace T65

/-- The registers after the writeback of the opcode fetch. -/
def commit (s : T65) : Regs where
  a := if s.micro.lda then s.aluOut.2 else s.abc
  x := if s.micro.ldx then s.aluOut.2 else s.x
  y := if s.micro.ldy then s.aluOut.2 else s.y
  s := (s.sNext s.micro).setWidth 8
  pc := s.pc
  flags := (s.pNext s.micro).flags

/-- An opcode fetch after a documented instruction. -/
structure Boundary (i : Instruction) (s : T65) : Prop where
  /-- The instruction register holds an encoding of the last instruction. -/
  decoded : i ∈ decode s.ir
  /-- The first cycle of the next is due. -/
  sync : s.mCycle = 0
  /-- The address is the program counter. -/
  setAddrToR : s.setAddrToR = .pbr
  /-- The cycle is a read. -/
  wrN : s.wrN = true
  /-- A reset leaves decimal arithmetic on until the next opcode fetch. -/
  bcdEnR : i = .brk ∨ s.bcdEnR = false
  /-- No reset is being entered. -/
  rstCycle : s.rstCycle = false
  /-- The break bit stands. -/
  b : s.p.b = true
  /-- So does the unused bit. -/
  one : s.p.one = true

/-- The program counter is on the address bus when nothing is added to it. -/
theorem address_pbr {s : T65} (latch : s.setAddrToR = .pbr) (still : s.micro.pcAdd = false) :
    s.address = s.pc := by
  have adder : s.pcAdder s.micro.toMoves = 0#1 ++ s.pc.extractLsb 7 0 := by
    rw [pcAdder, still]
    rfl
  rw [address, latch]
  show s.pc.extractLsb 15 8 ++ (s.pcAdder s.micro.toMoves).setWidth 8 = s.pc
  rw [adder]
  apply BitVec.eq_of_toNat_eq
  have bound := s.pc.isLt
  simp only [Hdl.toNat_append, BitVec.toNat_setWidth, BitVec.extractLsb, Hdl.toNat_slice]
  simp
  omega

/-! ## Flag instructions -/

/-- An instruction that is no flag instruction keeps the flags. -/
theorem flagOp_other {opcode : Byte} {i : Instruction} (decoded : i ∈ decode opcode)
    (other : flagRow i = none) (p : Status) : flagOp opcode p = p := by
  rw [flagOp]
  split
  · next column =>
    rcases (flagRow_opcode decoded).2 other with outside | row
    · exact absurd column outside
    · rw [row]
      rfl
  · rfl

/-- A flag instruction sets or clears its flag. -/
theorem flagOp_row {opcode : Byte} {op : ImpliedOp} (decoded : .implied op ∈ decode opcode)
    (named : flagRow (.implied op) ≠ none) (p : Status) (r : Regs) (same : p.flags = r.flags) :
    { r with flags := (flagOp opcode p).flags } = op.apply r := by
  have rows := (flagRow_opcode decoded).1
  rw [flagOp]
  cases op
  all_goals
    first
    | exact absurd rfl named
    | rw [if_pos (rows _ rfl).1, (rows _ rfl).2, ImpliedOp.apply, ← same]; rfl

/-- The microcode of `BRK` is the same with decimal arithmetic on. -/
theorem mcode_brk : ∀ (bcdEn taken : Bool) (cycle : Cycle),
    mcode 0 bcdEn taken cycle = mcode 0 false taken cycle := by
  decide

namespace Boundary

variable {i : Instruction} {s : T65}

/-- The microcode of an opcode fetch. -/
theorem micro (h : Boundary i s) :
    s.micro = mcode s.ir false (MCode.branch s.ir s.p) 0 := by
  rw [T65.micro, h.sync]
  rcases h.bcdEnR with rfl | binary
  · rw [decode_brk h.decoded, mcode_brk]
  · rw [binary]

/-- The opcode fetch makes the writeback of the last instruction and moves nothing. -/
theorem writes (h : Boundary i s) :
    s.micro.lda = (writeback i).lda ∧ s.micro.ldx = (writeback i).ldx ∧
      s.micro.ldy = (writeback i).ldy ∧ s.micro.lds = (writeback i).lds ∧
      s.micro.toMoves =
        { lCycle := s.micro.lCycle, ldp := (writeback i).ldp, saveP := (writeback i).saveP } ∧
      s.micro.lCycle ≠ 0 := by
  rw [h.micro]
  exact fetchWrites (MCode.branch s.ir s.p) h.decoded

/-- The opcode is fetched at the program counter. -/
theorem address (h : Boundary i s) : s.address = s.pc := by
  apply address_pbr h.setAddrToR
  rw [h.writes.2.2.2.2.1]

/-- The flags after an opcode fetch. -/
theorem pNext_eq (h : Boundary i s) :
    s.pNext s.micro =
      { flagOp s.ir
          (if (writeback i).ldp then Status.ofByte s.aluOut.2
            else if (writeback i).lda || (writeback i).ldx || (writeback i).ldy ||
              (writeback i).saveP then s.aluOut.1
            else s.p) with
        b := true, one := true } := by
  obtain ⟨lda, ldx, ldy, -, moves, -⟩ := h.writes
  have saveP : s.micro.saveP = (writeback i).saveP := by rw [moves]
  have ldp : s.micro.ldp = (writeback i).ldp := by rw [moves]
  have sync : s.sync = true := by rw [T65.sync, h.sync]; rfl
  have vector : (s.mCycle == 4) = false := by rw [h.sync]; rfl
  simp only [pNext, sync, vector, h.rstCycle, lda, ldx, ldy, saveP, ldp, Bool.true_and,
    Bool.false_and, Bool.and_false, Bool.false_eq_true, if_false]
  cases (writeback i).saveP <;> simp

/-- The stack pointer after an opcode fetch. -/
theorem sNext_eq (h : Boundary i s) :
    (s.sNext s.micro).setWidth 8 =
      if (writeback i).lds then s.aluOut.2 else s.s.setWidth 8 := by
  obtain ⟨-, -, -, lds, moves, -⟩ := h.writes
  have decS : s.micro.decS = false := by rw [moves]
  have incS : s.micro.incS = false := by rw [moves]
  have sync : s.sync = true := by rw [T65.sync, h.sync]; rfl
  simp only [sNext, decS, incS, lds, sync, Bool.true_and, Bool.false_eq_true, if_false]
  split
  · apply BitVec.eq_of_toNat_eq
    rw [BitVec.toNat_setWidth, Hdl.toNat_append]
    have bound := s.aluOut.2.isLt
    omega
  · rfl

/-- The writeback gives its result, if the last cycle latched its operation, and a flag
instruction makes its change to the flags again. -/
theorem commit_eq (h : Boundary i s)
    (latched : writeback i = {} ∨
      s.aluOpR = (writeback i).op ∧ s.busAR = busSource (writeback i).source s.regs s.busB) :
    ∃ p, p.flags = ((writeback i).result s.busB s.p s.regs).flags ∧
      s.commit =
        { (writeback i).result s.busB s.p s.regs with flags := (flagOp s.ir p).flags } := by
  obtain ⟨lda, ldx, ldy, -, -, -⟩ := h.writes
  replace latched : writeback i = {} ∨ s.bcdEnR = false ∧
      s.aluOpR = (writeback i).op ∧ s.busAR = busSource (writeback i).source s.regs s.busB := by
    rcases h.bcdEnR with rfl | binary
    · exact .inl rfl
    · exact latched.imp_right fun same => ⟨binary, same⟩
  rcases latched with empty | ⟨binary, op, source⟩
  · refine ⟨s.p, ?_, ?_⟩
    · rw [empty]
      rfl
    · simp only [commit, h.sNext_eq, h.pNext_eq, lda, ldx, ldy, empty]
      rfl
  · have out : s.aluOut =
        alu false (writeback i).op (busSource (writeback i).source s.regs s.busB) s.busB s.p := by
      rw [aluOut, binary, op, source]
    simp only [commit, h.sNext_eq, h.pNext_eq, lda, ldx, ldy, out, Writeback.result]
    refine ⟨_, ?_, rfl⟩
    split
    · rfl
    · split <;> rfl

/-! ## The opcode fetch -/

end Boundary

/-- What an opcode fetch leaves. -/
structure Fetched (di : Byte) (s t : T65) : Prop where
  /-- The byte is taken as the next instruction, or `BRK` in its place. -/
  ir : t.ir = if s.interrupted then 0 else di
  /-- The second cycle comes next. -/
  mCycle : t.mCycle = 1
  /-- The result of the last instruction is in the registers, and the program counter moves on. -/
  regs : t.regs = { s.commit with pc := if s.interrupted then s.pc else s.pc + 1 }
  /-- The address is the program counter. -/
  setAddrToR : t.setAddrToR = .pbr
  /-- The cycle is a read. -/
  wrN : t.wrN = true
  /-- No decimal correction is under way. -/
  bcdEnR : t.bcdEnR = false
  /-- No reset is being entered. -/
  rstCycle : t.rstCycle = false
  /-- The interrupt that was sampled is entered. -/
  irqCycle : t.irqCycle = s.irqCycle
  /-- So is the non-maskable one. -/
  nmiCycle : t.nmiCycle = s.nmiCycle
  /-- The break bit stands. -/
  b : t.p.b = true
  /-- So does the unused bit. -/
  one : t.p.one = true

/-- An opcode fetch makes the writeback of the last instruction. An interrupt puts `BRK` in the
place of the opcode and holds the program counter. -/
theorem Boundary.fetched {i : Instruction} {s : T65} (h : Boundary i s) (lines : Lines)
    (di : Byte) : Fetched di s (s.clock (Cpu2A03.pins lines.irqN lines.nmiN) di) := by
  obtain ⟨-, -, -, -, moves, first⟩ := h.writes
  have sync : s.sync = true := by rw [T65.sync, h.sync]; rfl
  have breaks : s.breaks s.micro.toMoves = false := by rw [moves]; rfl
  have more : s.done s.micro.toMoves = false := by
    rw [T65.done, breaks, h.sync, Bool.or_false, beq_eq_false_iff_ne]
    exact first.symm
  have pc : s.pcNext s.micro.toMoves di = if s.interrupted then s.pc else s.pc + 1 := by
    rw [moves]
    simp only [pcNext, sync, Bool.true_or, Bool.true_and]
    cases s.interrupted <;> rfl
  constructor
  case ir =>
    show (if s.sync then _ else s.ir) = _
    rw [sync]
    rfl
  case mCycle =>
    show (if s.done s.micro.toMoves then 0 else s.mCycle + 1) = 1
    rw [more, h.sync]
    rfl
  case regs =>
    rw [← pc]
    simp [T65.regs, clock, commit, sync]
  case setAddrToR =>
    show (if s.breaks s.micro.toMoves then AddrTo.pbr else s.micro.setAddrTo) = .pbr
    rw [breaks, moves]
    rfl
  case wrN =>
    show (!s.micro.write || s.rstCycle) = true
    rw [moves]
    rfl
  case bcdEnR =>
    show (if s.sync then false else s.bcdEnR) = false
    rw [sync]
    rfl
  case rstCycle =>
    show (s.rstCycle && _) = false
    rw [h.rstCycle]
    rfl
  case irqCycle =>
    show (if s.done s.micro.toMoves then _ else s.irqCycle) = _
    rw [more]
    rfl
  case nmiCycle =>
    show (if s.done s.micro.toMoves then _ else s.nmiCycle) = _
    rw [more]
    rfl
  case b => exact (pNext_constant s.micro s).1
  case one => exact (pNext_constant s.micro s).2

/-- An opcode fetch that no interrupt replaces decodes the opcode and leads to the first machine
cycle of the instruction. -/
theorem Fetched.stage {s t : T65} {di : Byte} (h : Fetched di s t) (free : s.interrupted = false)
    {j : Instruction} (decoded : j ∈ decode di) :
    Stage j { s.commit with pc := s.pc + 1 } (program (MCode.branch t.ir t.p) j) t := by
  have ir : t.ir = di := by rw [h.ir, free]; rfl
  have free' := Bool.or_eq_false_iff.mp free
  obtain ⟨steps, program'⟩ : ∃ steps, program (MCode.branch t.ir t.p) j = steps := ⟨_, rfl⟩
  rw [program']
  constructor
  case decoded => rw [ir]; exact decoded
  case positive => rw [h.mCycle]; decide
  case bounded =>
    have short := length_program_le (MCode.branch t.ir t.p) j
    rw [program'] at short
    rw [h.mCycle]
    show 1 + _ ≤ 8
    omega
  case steps =>
    intro taken k condition
    have encoded : Encodes di taken steps := by
      rw [← program']
      by_cases same : taken = MCode.branch t.ir t.p
      · rw [← same]
        exact encodes_program taken decoded
      · rw [program_unconditional (fun flag value is => same (condition flag value is)) _ taken]
        exact encodes_program taken decoded
    have cycle : (1 : Cycle) + BitVec.ofNat 3 k = BitVec.ofNat 3 (k + 1) := by
      rw [Nat.add_comm, BitVec.ofNat_add]
      rfl
    have last (n : ℕ) : (1 : Cycle) + BitVec.ofNat 3 n - 1 = BitVec.ofNat 3 n := by
      rw [BitVec.add_comm, BitVec.add_sub_cancel]
    rw [ir, h.mCycle, cycle, last]
    exact encoded k
  case regs => rw [h.regs, free]; rfl
  case settled =>
    exact ⟨h.bcdEnR, h.rstCycle, h.irqCycle.trans free'.1, h.nmiCycle.trans free'.2, h.b, h.one⟩

/-! ## The last machine cycle -/

/-- The last machine cycle of an instruction, or one that breaks it off, leads to the opcode
fetch, with every move made. It accepts no interrupt request while its flags mask it. -/
theorem Stage.finish {i : Instruction} {r : Regs} {m : MicroStep} {rest : List MicroStep}
    {s : T65} (h : Stage i r (m :: rest) s) (pins : Pins) (di : Byte) (opcode : s.ir ≠ 0)
    (ends : (rest = [] ∧ m.setAddrTo = .pbr) ∨ s.breaks m.toMoves = true)
    (reads : m.write = false)
    (simple : ∀ source ∈ m.source, source ∈ [BusATo.di, .abc, .x, .y, .s]) :
    let t := s.clock pins di
    Boundary i t ∧
      t.regs = { advance m.toMoves di s r with flags := (s.pNext s.micro).flags } ∧
      (t.irqCycle = true → r.flags.i = false) := by
  intro t
  have moved := h.moved pins di simple
  have done : s.done s.micro.toMoves = true := by
    rw [T65.done, h.moves, Bool.or_eq_true]
    rcases ends with ⟨last, -⟩ | broken
    · left
      rw [last, beq_iff_eq]
      exact (BitVec.add_zero _).symm
    · exact .inr broken
  refine ⟨⟨?_, ?_, ?_, ?_, ?_, ?_, ?_, ?_⟩, h.clock_regs pins di opcode, ?_⟩
  · show i ∈ decode (if s.sync then _ else s.ir)
    rw [h.sync]
    exact h.decoded
  · show (if s.done s.micro.toMoves then 0 else s.mCycle + 1) = 0
    rw [done]
    rfl
  · rw [moved.setAddrToR]
    rcases ends with ⟨-, latch⟩ | broken
    · rw [latch, ite_self]
    · rw [if_pos broken]
  · rw [moved.wrN, reads]
    rfl
  · right
    show (if s.sync then _ else s.bcdEnR) = false
    rw [h.sync]
    exact h.settled.bcdEnR
  · show (s.rstCycle && _) = false
    rw [h.settled.rstCycle]
    rfl
  · exact (pNext_constant s.micro s).1
  · exact (pNext_constant s.micro s).2
  · intro accepted
    have request : (if s.done s.micro.toMoves then !s.takesNmi && !s.irqNO && !s.p.i
      else s.irqCycle) = true := accepted
    rw [if_pos done, Bool.and_eq_true, Bool.not_eq_true'] at request
    rw [← h.regs]
    exact request.2

end T65

end FpgaNes
