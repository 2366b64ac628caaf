import FpgaNes.T65.Core
import FpgaNes.T65.Writeback
import FpgaNes.Hdl.After

/-!
# The processor: the middle of an instruction

The processor and a memory on its bus. A stage is a point in the middle of an instruction,
given by the machine cycles that are still to come. One clock makes the first of them.
-/

namespace FpgaNes

open Hdl
open Mos6502 (Regs Instruction Memory decode)

namespace T65

/-- The interrupt lines. -/
structure Lines where
  /-- `IRQ_n`. -/
  irqN : Bool
  /-- `NMI_n`. -/
  nmiN : Bool
  deriving DecidableEq

/-- The processor with a memory on its bus. -/
structure System (σ : Type*) where
  /-- The processor. -/
  cpu : T65
  /-- The memory. -/
  mem : σ

/-- An edge of the processor clock in `CPU_2A03`: a read cycle loads from the memory and a
write cycle stores to it. -/
def System.clock {σ : Type*} (mem : Memory σ) (lines : Lines) (c : System σ) : System σ where
  cpu :=
    c.cpu.clock (Cpu2A03.pins lines.irqN lines.nmiN)
      (Cpu2A03.di c.cpu (mem.load c.mem c.cpu.address))
  mem := if c.cpu.wrN then c.mem else mem.store c.mem c.cpu.address c.cpu.dataOut

/-- The registers a program sees, but for a writeback that is still to come. -/
def regs (s : T65) : Regs where
  a := s.abc
  x := s.x
  y := s.y
  s := s.s.setWidth 8
  pc := s.pc
  flags := s.p.flags

/-- No reset or interrupt is under way and the constant bits are in place. -/
structure Settled (s : T65) : Prop where
  /-- No decimal correction is under way. -/
  bcdEnR : s.bcdEnR = false
  /-- No reset is being entered. -/
  rstCycle : s.rstCycle = false
  /-- No interrupt is being entered. -/
  irqCycle : s.irqCycle = false
  /-- Nor a non-maskable one. -/
  nmiCycle : s.nmiCycle = false
  /-- The break bit stands. -/
  b : s.p.b = true
  /-- So does the unused bit. -/
  one : s.p.one = true

/-- The processor is in the middle of an instruction with some machine cycles to come. -/
structure Stage (i : Instruction) (r : Regs) (rest : List MicroStep) (s : T65) : Prop where
  /-- The instruction register holds an encoding of the instruction. -/
  decoded : i ∈ decode s.ir
  /-- The first cycle is past. -/
  positive : 0 < s.mCycle.toNat
  /-- The cycles that are left fit in the counter. -/
  bounded : s.mCycle.toNat + rest.length ≤ 8
  /-- The condition of a branch is that of the flags as they are. -/
  steps : ∀ (taken : Bool) (k : Fin rest.length),
    (∀ flag value, i = .branch flag value → taken = MCode.branch s.ir s.p) →
    rest[k].fits (s.mCycle + BitVec.ofNat 3 rest.length - 1)
      (mcode s.ir false taken (s.mCycle + BitVec.ofNat 3 k))
  /-- The registers. -/
  regs : s.regs = r
  /-- No sequence of an interrupt is under way. -/
  settled : s.Settled

/-- What a machine cycle leaves in the latches. -/
structure Moved (m : MicroStep) (di : Byte) (s t : T65) : Prop where
  /-- `AD`. -/
  ad : t.ad = s.adNext m.toMoves di
  /-- `DL`. -/
  dl : t.dl = s.dlNext m.toMoves di
  /-- `BAH`. -/
  bah : t.bah = s.bahNext m.toMoves di
  /-- `BAL`, but for an addition. -/
  bal : m.baAdd ≠ .add → t.bal = s.balNext { m.toMoves with } di
  /-- `BAL` after an addition. -/
  balAdd : m.baAdd = .add → ∀ source ∈ m.source, s.ir ≠ 0 → m.ldbal = false →
    t.bal = (s.bal.setWidth 8).setWidth 9 + (busSource source s.regs di).setWidth 9
  /-- The address register of the next cycle, or an early end. -/
  setAddrToR : t.setAddrToR = if s.breaks m.toMoves then .pbr else m.setAddrTo
  /-- Whether the next cycle writes. -/
  wrN : t.wrN = !m.write
  /-- What it writes. -/
  writeDataR : ∀ data ∈ m.data, t.writeDataR = data
  /-- The operand of the ALU. -/
  busAR : ∀ source ∈ m.source, t.busAR = busSource source s.regs di
  /-- The operation of the ALU. -/
  aluOpR : ∀ op ∈ m.op, t.aluOpR = op
  /-- The other operand is the byte read. -/
  busB : t.busB = di

/-- The registers after a machine cycle, but for the flags. -/
def advance (m : Moves) (di : Byte) (s : T65) (r : Regs) : Regs :=
  { r with
    pc :=
      match m.jump with
      | .none => r.pc
      | .inc => r.pc + 1
      | .diDl => di ++ s.dl
      | .rel => s.pcRelative m
    s := if m.decS then r.s - 1 else if m.incS then r.s + 1 else r.s }

variable {i : Instruction} {r : Regs} {m m' : MicroStep} {rest : List MicroStep} {s : T65}
  {pins : Pins} {di : Byte}

/-! ## The first machine cycle to come -/

namespace Stage

/-- The microcode is that of the first machine cycle to come. -/
theorem micro (h : Stage i r (m :: rest) s) :
    m.fits (s.mCycle + BitVec.ofNat 3 rest.length) s.micro := by
  have first := h.steps (MCode.branch s.ir s.p) ⟨0, by simp⟩ fun _ _ _ => rfl
  have last : s.mCycle + BitVec.ofNat 3 (m :: rest).length - 1 =
      s.mCycle + BitVec.ofNat 3 rest.length := by
    apply BitVec.eq_of_toNat_eq
    simp
    omega
  rw [last] at first
  simpa [T65.micro, h.settled.bcdEnR] using first

/-- The moves of the microcode are those of the first machine cycle to come. -/
theorem moves (h : Stage i r (m :: rest) s) :
    s.micro.toMoves = { m.toMoves with lCycle := s.mCycle + BitVec.ofNat 3 rest.length } := by
  have fits := h.micro
  simp only [MicroStep.fits, Bool.and_eq_true, decide_eq_true_eq] at fits
  exact fits.1.1.1

/-- The middle of an instruction is no opcode fetch. -/
theorem sync (h : Stage i r rest s) : s.sync = false := by
  rw [T65.sync, beq_eq_false_iff_ne]
  intro fetch
  have positive := h.positive
  rw [fetch] at positive
  exact absurd positive (by decide)

end Stage

/-- What a microprogram puts on bus A is what the microcode does. -/
theorem busA_eq {u : Micro} (s : T65) (di : Byte) (source : BusATo) (same : u.setBusATo = source)
    (simple : source ∈ [BusATo.di, .abc, .x, .y, .s]) :
    s.busA u di = busSource source s.regs di := by
  rw [T65.busA, same]
  fin_cases simple <;> rfl

/-- One clock makes the first machine cycle. -/
theorem Stage.moved (h : Stage i r (m :: rest) s) (pins : Pins) (di : Byte)
    (simple : ∀ source ∈ m.source, source ∈ [BusATo.di, .abc, .x, .y, .s]) :
    Moved m di s (s.clock pins di) := by
  have fits := h.micro
  simp only [MicroStep.fits, Bool.and_eq_true, decide_eq_true_eq, Option.all_eq_true,
    beq_iff_eq] at fits
  obtain ⟨⟨⟨moves, source⟩, op⟩, data⟩ := fits
  have bus (src : BusATo) (latched : src ∈ m.source) :
      s.busA s.micro di = busSource src s.regs di :=
    busA_eq s di src (source src latched) (simple src latched)
  have write : s.micro.write = m.write := by rw [moves]
  have baAdd : s.micro.baAdd = m.baAdd := by rw [moves]
  have ldbal : s.micro.ldbal = m.ldbal := by rw [moves]
  constructor
  case ad => exact (congrArg (s.adNext · di) moves).trans rfl
  case dl => exact (congrArg (s.dlNext · di) moves).trans rfl
  case bah => exact (congrArg (s.bahNext · di) moves).trans rfl
  case bal =>
    intro other
    show s.balNext s.micro di = _
    unfold balNext
    rw [baAdd, ldbal]
    cases kind : m.baAdd <;> first | rfl | exact absurd kind other
  case balAdd =>
    intro add src latched opcode plain
    show s.balNext s.micro di = _
    unfold balNext
    rw [baAdd, ldbal, add, plain, ← bus src latched]
    simp only [if_neg opcode, Bool.false_eq_true, if_false]
  case setAddrToR =>
    show (if s.breaks s.micro.toMoves then AddrTo.pbr else s.micro.setAddrTo) = _
    rw [moves]
    rfl
  case wrN =>
    show (!s.micro.write || s.rstCycle) = !m.write
    rw [write, h.settled.rstCycle, Bool.or_false]
  case writeDataR => exact data
  case busAR => exact bus
  case aluOpR => exact op
  case busB => rfl

/-- The low byte of an incremented stack pointer. -/
theorem setWidth_succ (s : BitVec 16) : (s + 1).setWidth 8 = s.setWidth 8 + 1 :=
  BitVec.setWidth_add s 1 (by decide)

/-- The low byte of a decremented stack pointer. -/
theorem setWidth_pred (s : BitVec 16) : (s - 1).setWidth 8 = s.setWidth 8 - 1 := by
  apply BitVec.eq_of_toNat_eq
  simp only [BitVec.toNat_setWidth, BitVec.toNat_sub, BitVec.ofNat_eq_ofNat, BitVec.toNat_ofNat]
  omega

/-- One clock moves the program counter and the stack pointer as the machine cycle says. -/
theorem Stage.clock_regs (h : Stage i r (m :: rest) s) (pins : Pins) (di : Byte)
    (opcode : s.ir ≠ 0) :
    (s.clock pins di).regs =
      { advance m.toMoves di s r with flags := (s.pNext s.micro).flags } := by
  have opcode' : (s.ir == 0) = false := beq_eq_false_iff_ne.mpr opcode
  have moves := h.moves
  have pc : (s.clock pins di).pc = (advance m.toMoves di s s.regs).pc := by
    show s.pcNext s.micro.toMoves di = _
    rw [moves]
    simp only [pcNext, advance, h.sync, opcode', Bool.false_and, Bool.or_false,
      Bool.false_eq_true, if_false]
    cases m.jump <;> rfl
  have sp : (s.clock pins di).regs.s = (advance m.toMoves di s s.regs).s := by
    show (s.sNext s.micro).setWidth 8 = _
    have decS : s.micro.decS = m.decS := by rw [moves]
    have incS : s.micro.incS = m.incS := by rw [moves]
    simp only [sNext, advance, h.sync, decS, incS, Bool.false_and, Bool.false_eq_true, if_false]
    cases m.decS
    · cases m.incS
      · rfl
      · exact setWidth_succ s.s
    · exact setWidth_pred s.s
  have whole : (s.clock pins di).regs =
      { s.regs with
        pc := (s.clock pins di).pc
        s := (s.clock pins di).regs.s
        flags := (s.clock pins di).p.flags } := by
    simp [T65.regs, clock, h.sync]
  rw [whole, pc, sp, ← h.regs]
  rfl

/-! ## Flags in the middle of an instruction -/

/-- The constant bits are in place after any clock. -/
theorem pNext_constant (u : Micro) (s : T65) : (s.pNext u).b = true ∧ (s.pNext u).one = true := by
  constructor
  · simp only [pNext]
    split <;> split <;> rfl
  · rfl

/-- Flags with their constant bits in place. -/
theorem Status.constant (p : Status) (b : p.b = true) (one : p.one = true) :
    { p with b := true, one := true } = p := by
  obtain ⟨c, z, i, d, b', one', v, n⟩ := p
  subst b one
  rfl

/-- In the middle of a plain instruction only `SaveP` and `LDP` write the flags. -/
theorem pNext_plain (u : Micro) (settled : s.Settled) (middle : s.sync = false)
    (opcode : s.ir ≠ 0 ∧ s.ir.extractLsb 4 0 ≠ 0b11000) :
    s.pNext u =
      { (if u.ldp then Status.ofByte s.aluOut.2 else if u.saveP then s.aluOut.1 else s.p) with
        b := true, one := true } := by
  have opcode' : (s.ir == 0) = false := beq_eq_false_iff_ne.mpr opcode.1
  simp only [pNext, middle, opcode', settled.rstCycle, flagOp, if_neg opcode.2, Bool.false_and,
    Bool.false_eq_true, if_false]

/-! ## The next machine cycle -/

namespace Stage

/-- A cycle that is neither the last nor broken off is followed by the next. -/
theorem not_done (h : Stage i r (m :: m' :: rest) s) (whole : s.breaks m.toMoves = false) :
    s.done s.micro.toMoves = false := by
  have bounded := h.bounded
  have positive := h.positive
  rw [T65.done, h.moves, Bool.or_eq_false_iff, beq_eq_false_iff_ne]
  refine ⟨?_, whole⟩
  intro last
  have value := congrArg BitVec.toNat last
  simp only [List.length_cons, BitVec.toNat_add, BitVec.toNat_ofNat] at bounded value
  omega

/-- One clock in the middle of an instruction that is no interrupt entry leads to the next
machine cycle. -/
theorem next (h : Stage i r (m :: m' :: rest) s) (pins : Pins) (di : Byte)
    (opcode : s.ir ≠ 0) (whole : s.breaks m.toMoves = false)
    (steady : (∀ flag value, i ≠ .branch flag value) ∨ s.pNext s.micro = s.p) :
    Stage i { advance m.toMoves di s r with flags := (s.pNext s.micro).flags } (m' :: rest)
      (s.clock pins di) := by
  have more := h.not_done whole
  have bounded := h.bounded
  have positive := h.positive
  have ir : (s.clock pins di).ir = s.ir := by
    show (if s.sync then _ else s.ir) = s.ir
    rw [h.sync]
    rfl
  have mCycle : (s.clock pins di).mCycle = s.mCycle + 1 := by
    show (if s.done s.micro.toMoves then 0 else s.mCycle + 1) = _
    rw [more]
    rfl
  have p : (s.clock pins di).p = s.pNext s.micro := rfl
  simp only [List.length_cons] at bounded
  have value : (s.mCycle + 1).toNat = s.mCycle.toNat + 1 := by
    simp only [BitVec.toNat_add, BitVec.ofNat_eq_ofNat, BitVec.toNat_ofNat]
    omega
  constructor
  case decoded => rw [ir]; exact h.decoded
  case positive => rw [mCycle, value]; omega
  case bounded => rw [mCycle, value, List.length_cons]; omega
  case steps =>
    intro taken k condition
    have condition' : ∀ flag value, i = .branch flag value → taken = MCode.branch s.ir s.p := by
      intro flag value is
      rw [condition flag value is, ir, p]
      rcases steady with other | same
      · exact absurd is (other flag value)
      · rw [same]
    have later := h.steps taken k.succ condition'
    have last : s.mCycle + BitVec.ofNat 3 (m :: m' :: rest).length - 1 =
        s.mCycle + 1 + BitVec.ofNat 3 (m' :: rest).length - 1 := by
      apply BitVec.eq_of_toNat_eq
      simp
      omega
    have cycle : s.mCycle + BitVec.ofNat 3 k.succ = s.mCycle + 1 + BitVec.ofNat 3 k := by
      apply BitVec.eq_of_toNat_eq
      simp
      omega
    rw [last, cycle] at later
    rw [ir, mCycle]
    exact later
  case regs => exact h.clock_regs pins di opcode
  case settled =>
    obtain ⟨bcd, rst, irq, nmi, -, -⟩ := h.settled
    constructor
    · simp [clock, h.sync, bcd]
    · simp [clock, rst]
    · simp [clock, more, irq]
    · simp [clock, more, nmi]
    · exact (pNext_constant s.micro s).1
    · exact (pNext_constant s.micro s).2

/-- The flags keep in a machine cycle of a plain instruction without `SaveP` and `LDP`. -/
theorem pNext_quiet (h : Stage i r (m :: rest) s) (ordinary : plain i = true)
    (quiet : m.saveP = false ∧ m.ldp = false) : s.pNext s.micro = s.p := by
  have saveP : s.micro.saveP = m.saveP := by rw [h.moves]
  have ldp : s.micro.ldp = m.ldp := by rw [h.moves]
  rw [pNext_plain s.micro h.settled h.sync (plain_opcode h.decoded ordinary), saveP, ldp,
    quiet.1, quiet.2]
  exact s.p.constant h.settled.b h.settled.one

/-- A machine cycle of a plain instruction without `SaveP` and `LDP`. -/
theorem next_quiet (h : Stage i r (m :: m' :: rest) s) (pins : Pins) (di : Byte)
    (ordinary : plain i = true) (whole : s.breaks m.toMoves = false)
    (quiet : m.saveP = false ∧ m.ldp = false) :
    Stage i (advance m.toMoves di s r) (m' :: rest) (s.clock pins di) := by
  have opcode := plain_opcode h.decoded ordinary
  have p := h.pNext_quiet ordinary quiet
  have flags : s.p.flags = r.flags := by rw [← h.regs]; rfl
  have stage := h.next pins di opcode.1 whole (.inr p)
  rw [p, flags] at stage
  exact stage

end Stage

end T65

end FpgaNes
