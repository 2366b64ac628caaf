import FpgaNes.T65.Control

/-!
# The processor: interrupt entries

`BRK` and the interrupts share the microcode of opcode zero. An `NMI` that comes while the
return address is pushed takes over the vector of another entry.
-/

namespace FpgaNes

open Hdl
open Mos6502 (Flags Regs Instruction Memory Machine decode interrupt irqVector nmiVector)

namespace T65

variable {σ : Type*} {mem : Memory σ} {c : System σ} {r : Regs} {s : T65} {memory : σ}
  {rst : Bool} {cycle : Cycle} {m : MicroStep}

/-- The processor is in a machine cycle of an interrupt entry, or of the one that a reset
makes. -/
structure Entering (rst : Bool) (cycle : Cycle) (r : Regs) (s : T65) : Prop where
  /-- The instruction register holds `BRK`. -/
  ir : s.ir = 0
  /-- The cycle of the sequence. -/
  mCycle : s.mCycle = cycle
  /-- The registers. -/
  regs : s.regs = r
  /-- Whether the sequence is that of a reset. -/
  rstCycle : s.rstCycle = rst

/-- The machine cycles of an interrupt entry. -/
def entrySteps : List MicroStep := program false .brk

/-- The microcode of an interrupt entry. -/
theorem Entering.micro (h : Entering rst cycle r s) (k : Fin entrySteps.length)
    (here : cycle = BitVec.ofNat 3 (k + 1)) :
    s.micro.toMoves = { (entrySteps.get k).toMoves with lCycle := 6 } ∧
      ∀ data ∈ (entrySteps.get k).data, s.micro.writeData = data := by
  have encoded : Encodes 0 (MCode.branch s.ir s.p) entrySteps :=
    encodes_program (i := .brk) (MCode.branch s.ir s.p) rfl
  have fits := encoded k
  simp only [MicroStep.fits, Bool.and_eq_true, decide_eq_true_eq, Option.all_eq_true,
    beq_iff_eq] at fits
  rw [T65.micro, h.mCycle, here, h.ir, mcode_brk]
  rw [h.ir] at fits
  exact ⟨fits.1.1.1, fits.2⟩

/-- The flags after a machine cycle of an interrupt entry: the fourth masks further requests. A
reset masks them all along and clears `D`. -/
def entryFlags (rst : Bool) (cycle : Cycle) (f : Flags) : Flags :=
  if rst then { f with i := true, d := false } else if cycle == 4 then { f with i := true } else f

/-- What a machine cycle of an interrupt entry leaves. -/
structure Entered (rst : Bool) (cycle : Cycle) (m : MicroStep) (r : Regs) (di : Byte)
    (s t : T65) : Prop where
  /-- The sequence is one cycle further. -/
  entering : Entering rst (cycle + 1)
    { r with
      s := if m.decS then r.s - 1 else r.s
      pc := if cycle = 1 ∧ s.interrupted = false then r.pc + 1 else r.pc
      flags := entryFlags rst cycle r.flags } t
  /-- The break bit stands. -/
  b : t.p.b = true
  /-- So does the unused bit. -/
  one : t.p.one = true
  /-- The address register of the next cycle. -/
  setAddrToR : t.setAddrToR = m.setAddrTo
  /-- In a reset the writes are reads. -/
  wrN : t.wrN = (!m.write || rst)
  /-- The byte that is written next. -/
  writeDataR : ∀ data ∈ m.data, t.writeDataR = data
  /-- The data latch. -/
  dl : t.dl = if m.lddi then di else s.dl
  /-- `BAH` is in page `$FF`. -/
  bah : t.bah = 0xFF
  /-- `BAL` is the low byte of the vector. -/
  bal : t.bal =
    0b111111#6 ++ s.vector.extractLsb 2 1 ++
      BitVec.ofBool (s.setAddrToR == .ba || s.vector.getLsbD 0)
  /-- The interrupt that is being entered. -/
  irqCycle : t.irqCycle = s.irqCycle
  /-- So for the non-maskable one. -/
  nmiCycle : t.nmiCycle = s.nmiCycle
  /-- Its vector has been taken. -/
  nmiEntered : t.nmiEntered = (s.vector == 0b010 && cycle == 4)

/-- What the machine cycles of an interrupt entry have in common. -/
theorem entry_idle : ∀ k : Fin entrySteps.length, let m := entrySteps.get k
    (k.val < 5 → m.jump = .none) ∧ m.saveP = false ∧ m.ldp = false ∧ m.incS = false ∧
      m.breakAtNA = false ∧ m.pcAdd = false ∧ m.ldalu = false ∧ m.ldbah = false ∧
      m.ldbal = false := by
  decide

/-- The flags in an interrupt entry. -/
theorem Entering.flags_eq (h : Entering rst cycle r s) (middle : s.sync = false)
    (quiet : s.micro.saveP = false ∧ s.micro.ldp = false) :
    (s.pNext s.micro).flags = entryFlags rst cycle s.p.flags := by
  have other : flagOp 0 s.p = s.p := rfl
  simp only [pNext, middle, quiet.1, quiet.2, h.ir, h.mCycle, h.rstCycle, other, Bool.false_and,
    Bool.false_eq_true, if_false, beq_self_eq_true, Bool.true_and, entryFlags]
  cases rst <;> cases cycle == 4 <;> rfl

/-- One clock of an interrupt entry, but for the last. -/
theorem Entering.next (h : Entering rst cycle r s) (k : Fin entrySteps.length)
    (here : cycle = BitVec.ofNat 3 (k + 1)) (goes : k.val < 5) (pins : Pins) (di : Byte) :
    Entered rst cycle (entrySteps.get k) r di s (s.clock pins di) := by
  obtain ⟨moves, data⟩ := h.micro k here
  obtain ⟨jump, saveP, ldp, incS, breakAtNA, pcAdd, ldalu, ldbah, ldbal⟩ := entry_idle k
  generalize entrySteps.get k = m
    at moves data jump saveP ldp incS breakAtNA pcAdd ldalu ldbah ldbal ⊢
  have value : cycle.toNat = k + 1 := by
    rw [here, BitVec.toNat_ofNat]
    omega
  have sync : s.sync = false := by
    rw [T65.sync, h.mCycle, beq_eq_false_iff_ne]
    rintro rfl
    exact absurd value (by simp)
  have whole : s.breaks s.micro.toMoves = false := by
    rw [breaks, moves, breakAtNA, pcAdd]
    rfl
  have more : s.done s.micro.toMoves = false := by
    rw [done, whole, Bool.or_false, moves, h.mCycle, beq_eq_false_iff_ne]
    rintro rfl
    exact absurd value (by simp; omega)
  have flags := h.flags_eq sync ⟨by rw [moves]; exact saveP, by rw [moves]; exact ldp⟩
  have decS : s.micro.decS = m.decS := by rw [moves]
  have incS' : s.micro.incS = false := by rw [moves]; exact incS
  have ldbal' : s.micro.ldbal = false := by rw [moves]; exact ldbal
  have write : s.micro.write = m.write := by rw [moves]
  have latch : s.micro.setAddrTo = m.setAddrTo := by rw [moves]
  have pc : (s.clock pins di).pc =
      if cycle = 1 ∧ s.interrupted = false then s.pc + 1 else s.pc := by
    show s.pcNext s.micro.toMoves di = _
    rw [moves]
    simp only [pcNext, jump goes, sync, h.ir, h.mCycle, Bool.false_or, beq_self_eq_true,
      Bool.true_and, Bool.and_eq_true, beq_iff_eq, Bool.not_eq_true']
  have sp : (s.clock pins di).s.setWidth 8 =
      if m.decS then s.s.setWidth 8 - 1 else s.s.setWidth 8 := by
    show (s.sNext s.micro).setWidth 8 = _
    simp only [sNext, decS, incS', sync, Bool.false_and, Bool.false_eq_true, if_false]
    cases m.decS
    · rfl
    · exact setWidth_pred s.s
  constructor
  case entering =>
    constructor
    case ir =>
      show (if s.sync then _ else s.ir) = 0
      rw [sync]
      exact h.ir
    case mCycle =>
      show (if s.done s.micro.toMoves then 0 else s.mCycle + 1) = _
      rw [more, h.mCycle]
      rfl
    case regs =>
      have kept : (s.clock pins di).regs =
          { s.regs with
            pc := (s.clock pins di).pc
            s := (s.clock pins di).s.setWidth 8
            flags := (s.pNext s.micro).flags } := by
        simp [T65.regs, clock, sync]
      rw [kept, pc, sp, flags, ← h.regs]
      rfl
    case rstCycle =>
      show (s.rstCycle && !s.done s.micro.toMoves) = rst
      rw [h.rstCycle, more]
      exact Bool.and_true rst
  case b => exact (pNext_constant s.micro s).1
  case one => exact (pNext_constant s.micro s).2
  case setAddrToR =>
    show (if s.breaks s.micro.toMoves then AddrTo.pbr else s.micro.setAddrTo) = _
    rw [whole, latch]
    rfl
  case wrN =>
    show (!s.micro.write || s.rstCycle) = _
    rw [write, h.rstCycle]
  case writeDataR => exact data
  case dl =>
    show s.dlNext s.micro.toMoves di = _
    rw [moves, dlNext, ldalu]
    rfl
  case bah =>
    show s.bahNext s.micro.toMoves di = _
    rw [moves, bahNext, ldbah, h.ir]
    rfl
  case bal =>
    show s.balNext s.micro di = _
    simp only [balNext, ldbal', h.ir, Bool.false_eq_true, if_false, if_true]
  case irqCycle =>
    show (if s.done s.micro.toMoves then _ else s.irqCycle) = _
    rw [more]
    rfl
  case nmiCycle =>
    show (if s.done s.micro.toMoves then _ else s.nmiCycle) = _
    rw [more]
    rfl
  case nmiEntered =>
    show (s.ir == 0 && s.vector == 0b010 && s.mCycle == 4) = _
    rw [h.ir, h.mCycle]
    rfl

/-- The last clock of an interrupt entry jumps to the vector and accepts no interrupt. -/
theorem Entering.finish (h : Entering rst 6 r s) (masked : s.p.i = true) (pins : Pins) (di : Byte) :
    Boundary .brk (s.clock pins di) ∧
      (s.clock pins di).commit =
        { r with pc := di ++ s.dl, flags := entryFlags rst 6 r.flags } ∧
      (s.clock pins di).interrupted = false := by
  obtain ⟨moves, -⟩ := h.micro ⟨5, by decide⟩ rfl
  replace moves : s.micro.toMoves = { jump := .diDl, lCycle := 6 } := moves
  have sync : s.sync = false := by
    rw [T65.sync, h.mCycle]
    rfl
  have whole : s.breaks s.micro.toMoves = false := by
    rw [moves]
    rfl
  have last : s.done s.micro.toMoves = true := by
    rw [done, moves, h.mCycle]
    rfl
  have decS : s.micro.decS = false := by rw [moves]
  have incS : s.micro.incS = false := by rw [moves]
  have boundary : Boundary .brk (s.clock pins di) := by
    constructor
    case decoded =>
      show .brk ∈ decode (if s.sync then _ else s.ir)
      rw [sync, h.ir]
      rfl
    case sync =>
      show (if s.done s.micro.toMoves then 0 else s.mCycle + 1) = 0
      rw [last]
      rfl
    case setAddrToR =>
      show (if s.breaks s.micro.toMoves then AddrTo.pbr else s.micro.setAddrTo) = _
      rw [whole, moves]
      rfl
    case wrN =>
      show (!s.micro.write || s.rstCycle) = true
      rw [moves]
      rfl
    case bcdEnR => exact .inl rfl
    case rstCycle =>
      show (s.rstCycle && !s.done s.micro.toMoves) = false
      rw [last]
      exact Bool.and_false _
    case b => exact (pNext_constant s.micro s).1
    case one => exact (pNext_constant s.micro s).2
  refine ⟨boundary, ?_, ?_⟩
  · rw [boundary.commit_idle rfl rfl]
    have flags := h.flags_eq sync ⟨by rw [moves], by rw [moves]⟩
    have kept : (s.clock pins di).regs =
        { s.regs with
          pc := s.pcNext s.micro.toMoves di
          s := (s.sNext s.micro).setWidth 8
          flags := (s.pNext s.micro).flags } := by
      simp [T65.regs, clock, sync]
    have sp : s.sNext s.micro = s.s := by
      simp only [sNext, decS, incS, sync, Bool.false_and, Bool.false_eq_true, if_false]
    rw [kept, flags, sp, moves, ← h.regs]
    rfl
  · show ((if s.done s.micro.toMoves then !s.takesNmi && !s.irqNO && !s.p.i else s.irqCycle) ||
      if s.done s.micro.toMoves then s.takesNmi else s.nmiCycle) = false
    rw [last, takesNmi, h.ir, masked]
    simp

/-- The vector of an interrupt entry, with an `NMI` or without. -/
def entryVector (nmi : Bool) : BitVec 16 := if nmi then nmiVector else irqVector

/-- The vector latch holds the low byte of a vector, or of the cell after it. -/
theorem vector_bal (s : T65) (rst : s.rstCycle = false) :
    ∃ nmi, (s.nmiCycle = true → nmi = true) ∧ s.vector = if nmi then 0b010 else 0b110 := by
  refine ⟨s.nmiCycle || s.nmiAct && s.mCycle == 4 || s.nmiEntered, ?_, ?_⟩
  · intro taken
    rw [taken]
    rfl
  · rw [vector, rst]
    rfl

/-- From its first machine cycle an interrupt entry pushes the return address and the flags and
loads one of the two vectors, that of `NMI` for an `NMI`. -/
theorem enter (h : Entering false 1 r c.cpu) (reads : c.cpu.wrN = true) (memory' : c.mem = memory) :
    After (System.clock mem) 6
      (fun t => ∃ nmi, (c.cpu.nmiCycle = true → nmi = true) ∧
        Between .brk
          (interrupt mem (!c.cpu.interrupted) (entryVector nmi)
            (if c.cpu.interrupted then r.pc else r.pc + 1) ⟨r, memory⟩) true t ∧
        t.cpu.interrupted = false) c := by
  obtain ⟨back, return'⟩ :
      ∃ back, (if c.cpu.interrupted then r.pc else r.pc + 1) = back := ⟨_, rfl⟩
  rw [return']
  intro lines
  rw [System.clock_read reads rfl, memory']
  have first := h.next ⟨0, by decide⟩ rfl (by decide) (Cpu2A03.pins lines.irqN lines.nmiN)
    (mem.load memory c.cpu.address)
  generalize c.cpu.clock (Cpu2A03.pins lines.irqN lines.nmiN) _ = s₂ at first ⊢
  have second : Entering false 2 { r with pc := back } s₂ := by
    have entering := first.entering
    rw [← return']
    cases taken : c.cpu.interrupted <;> rw [taken] at entering <;> exact entering
  -- the return address is pushed, the high byte first
  have sp : s₂.address = Mos6502.stackPage r.s := by
    rw [address_sp first.setAddrToR, second.regs]
  have pch : s₂.dataOut = back.extractLsb 15 8 := by
    rw [dataOut, first.writeDataR _ rfl]
    exact congrArg (BitVec.extractLsb 15 8 ·) (congrArg Regs.pc second.regs)
  intro lines
  rw [System.clock_write (c := ⟨s₂, memory⟩) first.wrN sp pch]
  have high := second.next ⟨1, by decide⟩ rfl (by decide) (Cpu2A03.pins lines.irqN lines.nmiN)
    (back.extractLsb 15 8)
  generalize s₂.clock (Cpu2A03.pins lines.irqN lines.nmiN) _ = s₃ at high ⊢
  have third : Entering false 3 { r with pc := back, s := r.s - 1 } s₃ := high.entering
  have sp' : s₃.address = Mos6502.stackPage (r.s - 1) := by
    rw [address_sp high.setAddrToR, third.regs]
  have pcl : s₃.dataOut = back.setWidth 8 := by
    rw [dataOut, high.writeDataR _ rfl]
    exact congrArg (BitVec.setWidth 8) (congrArg Regs.pc third.regs)
  intro lines
  rw [System.clock_write (c := ⟨s₃, _⟩) high.wrN sp' pcl]
  have low := third.next ⟨2, by decide⟩ rfl (by decide) (Cpu2A03.pins lines.irqN lines.nmiN)
    (back.setWidth 8)
  generalize s₃.clock (Cpu2A03.pins lines.irqN lines.nmiN) _ = s₄ at low ⊢
  have fourth : Entering false 4 { r with pc := back, s := r.s - 1 - 1 } s₄ := low.entering
  have irq : s₄.interrupted = c.cpu.interrupted := by
    rw [interrupted, low.irqCycle, low.nmiCycle, high.irqCycle, high.nmiCycle, first.irqCycle,
      first.nmiCycle]
    rfl
  have sp'' : s₄.address = Mos6502.stackPage (r.s - 1 - 1) := by
    rw [address_sp low.setAddrToR, fourth.regs]
  have flags : s₄.dataOut = r.flags.toByte (!c.cpu.interrupted) := by
    rw [dataOut, low.writeDataR _ rfl]
    show s₄.pWithB = _
    rw [pWithB_flags s₄ low.b low.one, irq]
    exact congrArg (Mos6502.Flags.toByte _) (congrArg Regs.flags fourth.regs)
  intro lines
  rw [System.clock_write (c := ⟨s₄, _⟩) low.wrN sp'' flags]
  have pushed := fourth.next ⟨3, by decide⟩ rfl (by decide) (Cpu2A03.pins lines.irqN lines.nmiN)
    (r.flags.toByte (!c.cpu.interrupted))
  generalize s₄.clock (Cpu2A03.pins lines.irqN lines.nmiN) _ = s₅ at pushed ⊢
  obtain ⟨stack, filled⟩ : ∃ stack,
      mem.store
        (mem.store (mem.store memory (Mos6502.stackPage r.s) (back.extractLsb 15 8))
          (Mos6502.stackPage (r.s - 1)) (back.setWidth 8))
        (Mos6502.stackPage (r.s - 1 - 1)) (r.flags.toByte (!c.cpu.interrupted)) = stack :=
    ⟨_, rfl⟩
  rw [filled]
  have fifth : Entering false 5
      { r with pc := back, s := r.s - 1 - 1 - 1, flags := { r.flags with i := true } } s₅ :=
    pushed.entering
  -- the vector is chosen with the push of the flags
  obtain ⟨nmi, taken, chosen⟩ := vector_bal s₄ fourth.rstCycle
  have again : s₅.vector = s₄.vector := by
    rw [vector, fifth.rstCycle, fifth.mCycle, pushed.nmiCycle, pushed.nmiEntered, chosen]
    cases nmi with
    | true => cases s₄.nmiCycle <;> cases s₅.nmiAct <;> rfl
    | false =>
      have none : s₄.nmiCycle = false := by
        by_contra some
        exact absurd (taken (Bool.eq_true_of_not_eq_false some)) Bool.false_ne_true
      rw [none]
      cases s₅.nmiAct <;> rfl
  have here : s₅.address = entryVector nmi := by
    rw [address_ba pushed.setAddrToR, pushed.bah, pushed.bal, low.setAddrToR, chosen]
    cases nmi <;> rfl
  intro lines
  rw [System.clock_read (c := ⟨s₅, stack⟩) pushed.wrN here]
  have vectorLow := fifth.next ⟨4, by decide⟩ rfl (by decide)
    (Cpu2A03.pins lines.irqN lines.nmiN) (mem.load stack (entryVector nmi))
  generalize s₅.clock (Cpu2A03.pins lines.irqN lines.nmiN) _ = s₆ at vectorLow ⊢
  have sixth := vectorLow.entering
  have next : s₆.address = entryVector nmi + 1 := by
    rw [address_ba vectorLow.setAddrToR, vectorLow.bah, vectorLow.bal, pushed.setAddrToR, again,
      chosen]
    cases nmi <;> rfl
  intro lines
  rw [System.clock_read (c := ⟨s₆, stack⟩) vectorLow.wrN next]
  have masked : s₆.p.i = true := congrArg (fun r : Regs => r.flags.i) sixth.regs
  obtain ⟨boundary, regs, free⟩ := Entering.finish sixth masked
    (Cpu2A03.pins lines.irqN lines.nmiN) (mem.load stack (entryVector nmi + 1))
  have origin : c.cpu.nmiCycle = s₄.nmiCycle := by
    rw [low.nmiCycle, high.nmiCycle, first.nmiCycle]
  refine ⟨nmi, fun own => taken (origin ▸ own), ⟨boundary, ?_, filled.symm, ?_⟩, free⟩
  · rw [regs, vectorLow.dl]
    subst filled
    rfl
  · intro accepted
    rw [interrupted, Bool.or_eq_false_iff] at free
    exact absurd (free.1.symm.trans accepted) Bool.false_ne_true

end T65

end FpgaNes
