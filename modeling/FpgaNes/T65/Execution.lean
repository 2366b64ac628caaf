import FpgaNes.T65.Operand

/-!
# The processor: instructions

From the fetch of a documented opcode that no interrupt replaces, the processor and its
memory go to the next opcode fetch in the cycles of the instruction, with its effect on the
registers and the memory.
-/

namespace FpgaNes

open Hdl
open Mos6502
  (Regs Instruction ReadOp StoreOp ModifyOp ImpliedOp Memory Machine Mode decode)

namespace T65

variable {σ : Type*} {mem : Memory σ} {c : System σ} {i j : Instruction} {r : Regs}
  {m : MicroStep} {rest : List MicroStep} {memory : σ} {s t : T65} {di : Byte}

/-- The processor fetches an opcode with the registers and the memory of a program. An
interrupt request is accepted only where it is not masked. -/
structure Between (i : Instruction) (program : Machine σ) (mask : Bool) (c : System σ) : Prop where
  /-- The processor is between two instructions. -/
  boundary : Boundary i c.cpu
  /-- With the result that is due, its registers are those of the program. -/
  regs : c.cpu.commit = program.regs
  /-- So is the memory. -/
  mem : c.mem = program.mem
  /-- An interrupt has been sampled only if the mask let it through. -/
  masked : c.cpu.irqCycle = true → mask = false

/-- The processor has executed an instruction of a program. -/
abbrev Executed (mem : Memory σ) (i : Instruction) (program : Machine σ) (c : System σ) : Prop :=
  Between i (i.exec mem program) (i.mask mem program) c

/-! ## The last cycle -/

/-- Without a writeback the registers are those in place. -/
theorem Boundary.commit_idle (h : Boundary i s) (other : flagRow i = none)
    (idle : writeback i = {}) : s.commit = s.regs := by
  obtain ⟨p, flags, whole⟩ := h.commit_eq (.inl idle)
  rw [whole, flagOp_other h.decoded other, flags, idle]
  rfl

/-- A writeback that the last cycle latched gives its result. -/
theorem Boundary.commit_latched (h : Boundary i t) (other : flagRow i = none)
    (moved : Moved ((writeback i).latch m) di s t)
    (kept : t.regs = { s.regs with pc := t.regs.pc, flags := t.regs.flags }) :
    t.commit = (writeback i).result di t.p t.regs := by
  have latched : writeback i = {} ∨
      t.aluOpR = (writeback i).op ∧ t.busAR = busSource (writeback i).source t.regs t.busB := by
    by_cases idle : writeback i = {}
    · exact .inl idle
    · right
      rw [Writeback.latch, if_neg idle] at moved
      rw [moved.aluOpR _ rfl, moved.busAR _ rfl, moved.busB, kept]
      -- the program counter and the flags are no sources of bus A
      exact ⟨rfl, by cases (writeback i).source <;> rfl⟩
  obtain ⟨p, flags, whole⟩ := h.commit_eq latched
  rw [whole, flagOp_other h.decoded other, flags, moved.busB]

/-- The latched sources of a writeback are simple. -/
theorem latch_simple (w : Writeback) (simple : w.source ∈ [BusATo.di, .abc, .x, .y, .s])
    (unset : m.source = none) : ∀ source ∈ (w.latch m).source,
      source ∈ [BusATo.di, .abc, .x, .y, .s] := by
  intro source latched
  rw [Writeback.latch] at latched
  split at latched
  · rw [unset] at latched
    cases latched
  · cases latched
    exact simple

/-- The source of a writeback is a register or the data bus. -/
theorem writeback_simple (i : Instruction) :
    (writeback i).source ∈ [BusATo.di, .abc, .x, .y, .s] := by
  cases i with
  | read op mode => cases op <;> simp [writeback, readWriteback]
  | implied op => cases op <;> simp [writeback, impliedWriteback]
  | _ => simp [writeback]

/-- Latching a writeback moves nothing. -/
theorem latch_toMoves (w : Writeback) (m : MicroStep) : (w.latch m).toMoves = m.toMoves := by
  rw [Writeback.latch]
  split <;> rfl

/-- The last cycle of a plain instruction leads to the opcode fetch with the result of its
writeback. -/
theorem Stage.close (h : Stage i r ((writeback i).latch m :: rest) s) (ordinary : plain i = true)
    (other : flagRow i = none) (pins : Pins) (di : Byte)
    (ends : (rest = [] ∧ m.setAddrTo = .pbr) ∨ s.breaks m.toMoves = true)
    (quiet : m.saveP = false ∧ m.ldp = false ∧ m.write = false ∧ m.incS = false ∧ m.decS = false)
    (unset : m.source = none) :
    Boundary i (s.clock pins di) ∧
      (s.clock pins di).commit = (writeback i).result di s.p (advance m.toMoves di s r) ∧
      ((s.clock pins di).irqCycle = true → r.flags.i = false) := by
  obtain ⟨saveP, ldp, write, incS, decS⟩ := quiet
  have simple := latch_simple (writeback i) (writeback_simple i) unset
  have moved := h.moved pins di simple
  have p := h.pNext_quiet ordinary (by rw [latch_toMoves]; exact ⟨saveP, ldp⟩)
  have opcode := (plain_opcode h.decoded ordinary).1
  obtain ⟨boundary, regs, masked⟩ := h.finish pins di opcode (by rw [latch_toMoves]; exact ends)
    (by rw [latch_toMoves]; exact write) simple
  rw [p, latch_toMoves] at regs
  have flags : s.p.flags = (advance m.toMoves di s r).flags := by
    rw [← h.regs]
    rfl
  rw [flags] at regs
  have kept : (s.clock pins di).regs =
      { s.regs with
        pc := (s.clock pins di).regs.pc
        flags := (s.clock pins di).regs.flags } := by
    rw [regs, h.regs]
    simp only [advance, incS, decS, Bool.false_eq_true, if_false]
  refine ⟨boundary, ?_, masked⟩
  rw [boundary.commit_latched other moved kept, regs]
  show (writeback i).result di (s.pNext s.micro) _ = _
  rw [p]

/-- The last cycle of a plain instruction without a writeback leads to the opcode fetch. -/
theorem Stage.close_idle (h : Stage i r (m :: rest) s) (ordinary : plain i = true)
    (other : flagRow i = none) (idle : writeback i = {}) (pins : Pins) (di : Byte)
    (ends : (rest = [] ∧ m.setAddrTo = .pbr) ∨ s.breaks m.toMoves = true)
    (quiet : m.saveP = false ∧ m.ldp = false ∧ m.write = false) (unset : m.source = none) :
    Boundary i (s.clock pins di) ∧ (s.clock pins di).commit = advance m.toMoves di s r ∧
      ((s.clock pins di).irqCycle = true → r.flags.i = false) := by
  obtain ⟨saveP, ldp, write⟩ := quiet
  have p := h.pNext_quiet ordinary ⟨saveP, ldp⟩
  have opcode := (plain_opcode h.decoded ordinary).1
  obtain ⟨boundary, regs, masked⟩ := h.finish pins di opcode ends write (by rw [unset]; nofun)
  refine ⟨boundary, ?_, masked⟩
  rw [boundary.commit_idle other idle, regs, p]
  have flags : s.p.flags = (advance m.toMoves di s r).flags := by
    rw [← h.regs]
    rfl
  rw [flags]

/-- A last cycle that reads. -/
theorem System.close_read (mem : Memory σ) (h : Stage i r (m :: rest) c.cpu)
    (ordinary : plain i = true) (other : flagRow i = none) (idle : writeback i = {})
    (ends : (rest = [] ∧ m.setAddrTo = .pbr) ∨ c.cpu.breaks m.toMoves = true)
    (quiet : m.saveP = false ∧ m.ldp = false ∧ m.write = false) (unset : m.source = none)
    (reads : c.cpu.wrN = true) {address : BitVec 16} (bus : c.cpu.address = address)
    (lines : Lines) :
    Between i ⟨advance m.toMoves (mem.load c.mem address) c.cpu r, c.mem⟩ r.flags.i
      (c.clock mem lines) := by
  rw [System.clock_read reads bus]
  have closed := h.close_idle ordinary other idle (Cpu2A03.pins lines.irqN lines.nmiN)
    (mem.load c.mem address) ends quiet unset
  exact ⟨closed.1, closed.2.1, rfl, closed.2.2⟩

/-- A last cycle that writes. -/
theorem System.close_write (mem : Memory σ) (h : Stage i r [m] c.cpu) (ordinary : plain i = true)
    (other : flagRow i = none) (idle : writeback i = {}) (last : m.setAddrTo = .pbr)
    (quiet : m.saveP = false ∧ m.ldp = false ∧ m.write = false) (unset : m.source = none)
    (writes : c.cpu.wrN = false) {address : BitVec 16} (bus : c.cpu.address = address)
    {data : Byte} (out : c.cpu.dataOut = data) (lines : Lines) :
    Between i ⟨advance m.toMoves data c.cpu r, mem.store c.mem address data⟩ r.flags.i
      (c.clock mem lines) := by
  rw [System.clock_write writes bus out]
  have closed := h.close_idle ordinary other idle (Cpu2A03.pins lines.irqN lines.nmiN) data
    (.inl ⟨rfl, last⟩) quiet unset
  exact ⟨closed.1, closed.2.1, rfl, closed.2.2⟩

/-! ## Operands that are read -/

/-- The effect of an operation does not depend on the program counter. -/
theorem apply_pc (op : ReadOp) (operand : Byte) (r : Regs) (pc : BitVec 16) :
    op.apply operand { r with pc } = { op.apply operand r with pc } := by
  cases op <;> rfl

/-- An operation on an operand keeps the interrupt mask. -/
theorem apply_mask (op : ReadOp) (operand : Byte) (r : Regs) :
    (op.apply operand r).flags.i = r.flags.i := by
  cases op <;> rfl

/-- A last cycle that reads the operand gives the effect of the operation. -/
theorem read_last {op : ReadOp} {mode : Mode} {r₀ : Regs}
    (h : Stage (.read op mode) r ((readWriteback op).latch m :: rest) c.cpu)
    (ends : (rest = [] ∧ m.setAddrTo = .pbr) ∨ c.cpu.breaks m.toMoves = true)
    (quiet : m.saveP = false ∧ m.ldp = false ∧ m.write = false ∧ m.incS = false ∧ m.decS = false)
    (unset : m.source = none) (reads : c.cpu.wrN = true)
    (bus : c.cpu.address = mode.address mem c.mem r₀)
    (next : ∀ di, advance m.toMoves di c.cpu r = { r₀ with pc := mode.next r₀.pc })
    (lines : Lines) :
    Executed mem (.read op mode) ⟨r₀, c.mem⟩ (c.clock mem lines) := by
  rw [System.clock_read reads bus]
  have closed := h.close rfl rfl (Cpu2A03.pins lines.irqN lines.nmiN)
    (mem.load c.mem (mode.address mem c.mem r₀)) ends quiet unset
  have same : r.flags = ({ r₀ with pc := mode.next r₀.pc } : Regs).flags := by
    rw [← next 0]
    rfl
  have mask : (Instruction.read op mode).mask mem ⟨r₀, c.mem⟩ = r.flags.i := by
    rw [same]
    exact apply_mask op _ r₀
  refine ⟨closed.1, ?_, rfl, fun accepted => mask.trans (closed.2.2 accepted)⟩
  have flags : c.cpu.p.flags = ({ r₀ with pc := mode.next r₀.pc } : Regs).flags := by
    rw [← same, ← h.regs]
    rfl
  rw [closed.2.1, next]
  show (readWriteback op).result _ _ _ = _
  rw [read_result op _ _ _ flags, apply_pc]
  rfl

/-- A read in an indexed mode ends in the cycle before the page is adjusted, unless a page is
crossed. -/
theorem read_indexed {op : ReadOp} {mode : Mode} {r₀ : Regs} {base : BitVec 16} {index : Byte}
    (adjusts : indexed mode = true)
    (h : Poised (.read op mode) { r₀ with pc := mode.next r₀.pc }
      [(readWriteback op).latch { arrive mode with breakAtNA := true }, (readWriteback op).latch {}]
      base index memory c)
    (sum : mode.address mem memory r₀ = base + index.setWidth 16) :
    After (System.clock mem) (1 + (Mos6502.crossing base index).toNat)
      (Executed mem (.read op mode) ⟨r₀, memory⟩) c := by
  have moves : ((readWriteback op).latch { arrive mode with breakAtNA := true }).toMoves =
      { baAdd := .adj, setAddrTo := .ba, breakAtNA := true } := by
    rw [latch_toMoves]
    cases mode <;> first | rfl | exact absurd adjusts (by decide)
  have breaks : c.cpu.breaks { baAdd := .adj, setAddrTo := .ba, breakAtNA := true } =
      !Mos6502.crossing base index := by
    rw [T65.breaks, h.bal, carry_crossing]
    exact Bool.or_false _
  cases crossed : Mos6502.crossing base index with
  | false =>
    intro lines
    have whole := indexed_sum base index
    rw [crossed] at whole breaks
    have bus : c.cpu.address = mode.address mem c.mem r₀ := by
      rw [h.mem, sum, ← whole, address_ba h.latch, h.bah, h.bal]
      rw [Bool.toNat_false]
      exact congrArg (· ++ _) (BitVec.add_zero _).symm
    rw [← h.mem]
    refine read_last h.stage (.inr ?_) ?_ ?_ h.reads bus ?_ lines
    · rw [← latch_toMoves (readWriteback op), moves, breaks]
      rfl
    · rw [← latch_toMoves (readWriteback op), moves]
      exact ⟨rfl, rfl, rfl, rfl, rfl⟩
    · cases mode <;> rfl
    · intro di
      rw [← latch_toMoves (readWriteback op), moves]
      rfl
  | true =>
    rw [crossed] at breaks
    have simple := latch_simple (m := { arrive mode with breakAtNA := true }) (readWriteback op)
      (writeback_simple (.read op mode)) (by cases mode <;> rfl)
    have mild : ((readWriteback op).latch { arrive mode with breakAtNA := true }).mild = true := by
      rw [MicroStep.mild, moves, Bool.and_eq_true, Option.all_eq_true]
      exact ⟨rfl, fun source latched => decide_eq_true (simple source latched)⟩
    intro lines
    obtain ⟨stage, address, -, moved, memory'⟩ := h.adjust mem rfl mild
      (by rw [moves, breaks]; rfl) (by rw [moves]) lines
    generalize c.clock mem lines = t at stage address moved memory' ⊢
    intro lines
    rw [← memory'] at sum ⊢
    have reads : t.cpu.wrN = true := by
      rw [moved.wrN, moves]
      rfl
    exact read_last stage (.inl ⟨rfl, rfl⟩) ⟨rfl, rfl, rfl, rfl, rfl⟩ rfl reads
      (address.trans sum.symm) (fun _ => rfl) lines

/-- A read instruction. -/
theorem exec_read {op : ReadOp} {mode : Mode} {r₀ : Regs} {taken : Bool}
    (h : Fetching (.read op mode) { r₀ with pc := r₀.pc + 1 } (program taken (.read op mode))
      memory c) :
    After (System.clock mem) (mode.readCycles (mode.crosses mem memory r₀) - 1)
      (Executed mem (.read op mode) ⟨r₀, memory⟩) c := by
  have plainly (last : Mode.readCycles mode (mode.crosses mem memory r₀) - 1 =
        (approach mode).length + 1 + 1) (indirect : mode ≠ .immediate)
      (steps : program taken (.read op mode) =
        approach mode ++ [arrival mode false none, (readWriteback op).latch {}]) :
      After (System.clock mem) (mode.readCycles (mode.crosses mem memory r₀) - 1)
        (Executed mem (.read op mode) ⟨r₀, memory⟩) c := by
    rw [last]
    rw [steps] at h
    refine (reach indirect h rfl).trans fun t at' lines => ?_
    have bus := at'.address
    rw [← at'.mem] at bus ⊢
    exact read_last at'.stage (.inl ⟨rfl, rfl⟩) ⟨rfl, rfl, rfl, rfl, rfl⟩ rfl at'.wrN bus
      (fun _ => rfl) lines
  cases mode with
  | immediate =>
    intro lines
    have bus : c.cpu.address = Mode.immediate.address mem c.mem r₀ :=
      h.address (by rw [latch_toMoves])
    have last := read_last h.stage (.inl ⟨rfl, rfl⟩) ⟨rfl, rfl, rfl, rfl, rfl⟩ rfl h.reads bus
      (fun _ => congrArg (fun pc => { r₀ with pc }) (pc_two r₀.pc)) lines
    rw [h.mem] at last
    exact last
  | zeroPage => exact plainly rfl nofun rfl
  | zeroPageX => exact plainly rfl nofun rfl
  | zeroPageY => exact plainly rfl nofun rfl
  | absolute => exact plainly rfl nofun rfl
  | indexedIndirect => exact plainly rfl nofun rfl
  | absoluteX =>
    have count : Mode.readCycles .absoluteX (Mode.absoluteX.crosses mem memory r₀) - 1 =
        2 + (1 + (Mode.absoluteX.crosses mem memory r₀).toNat) := by
      rw [Mode.readCycles]
      omega
    rw [count]
    exact (approach_absolute (.inl rfl) h rfl).trans fun t poised =>
      read_indexed rfl poised rfl
  | absoluteY =>
    have count : Mode.readCycles .absoluteY (Mode.absoluteY.crosses mem memory r₀) - 1 =
        2 + (1 + (Mode.absoluteY.crosses mem memory r₀).toNat) := by
      rw [Mode.readCycles]
      omega
    rw [count]
    exact (approach_absolute (.inr rfl) h rfl).trans fun t poised =>
      read_indexed rfl poised rfl
  | indirectIndexed =>
    have count : Mode.readCycles .indirectIndexed (Mode.indirectIndexed.crosses mem memory r₀) - 1 =
        3 + (1 + (Mode.indirectIndexed.crosses mem memory r₀).toNat) := by
      rw [Mode.readCycles]
      omega
    rw [count]
    exact (approach_indirectIndexed h rfl).trans fun t poised =>
      read_indexed rfl poised rfl

/-! ## Operands that are written -/

/-- The cycles of a mode that crosses a page, by its microprogram. -/
theorem readCycles_eq {mode : Mode} (indirect : mode ≠ .immediate) :
    mode.readCycles true - 1 = (approach mode).length + 1 + 1 := by
  cases mode <;> first | rfl | exact absurd rfl indirect

/-- A store puts its register on the bus. -/
theorem dataOut_store {op : StoreOp} (s : T65) (select : s.writeDataR = storeData op) :
    s.dataOut = op.value s.regs := by
  rw [dataOut, select]
  cases op <;> rfl

/-- A store instruction. -/
theorem exec_store {op : StoreOp} {mode : Mode} {r₀ : Regs} {taken : Bool}
    (h : Fetching (.store op mode) { r₀ with pc := r₀.pc + 1 } (program taken (.store op mode))
      memory c) (indirect : mode ≠ .immediate) :
    After (System.clock mem) (mode.readCycles true - 1)
      (Executed mem (.store op mode) ⟨r₀, memory⟩) c := by
  have start : program taken (.store op mode) =
      approach mode ++ [arrival mode true (some (storeData op)), {}] := rfl
  rw [readCycles_eq indirect]
  rw [start] at h
  refine (reach indirect h rfl).trans fun t at' lines => ?_
  have out : t.cpu.dataOut = op.value r₀ := by
    rw [dataOut_store t.cpu (at'.data _ rfl), at'.stage.regs]
    cases op <;> rfl
  have last := System.close_write mem at'.stage rfl rfl rfl rfl ⟨rfl, rfl, rfl⟩ rfl
    at'.wrN at'.address out lines
  rw [at'.mem] at last
  exact last

/-- A latch that a cycle leaves alone holds the address on the bus. -/
theorem AtOperand.hold {mode : Mode} {write : Bool} {data : Option WriteData}
    {address : BitVec 16} {t : System σ}
    (h : AtOperand i r (m :: rest) mode write data address memory c)
    (ordinary : plain i = true) (moved : Moved m di c.cpu t.cpu)
    (latch : t.cpu.setAddrToR = operandLatch mode)
    (moves : m.adAdd = false ∧ m.ldad = false ∧ m.baAdd = .none ∧ m.ldbal = false ∧ m.ldbah = false)
    (indirect : mode ≠ .immediate) : t.cpu.address = address := by
  obtain ⟨adAdd, ldad, baAdd, ldbal, ldbah⟩ := moves
  have opcode := h.stage.opcode ordinary
  have ad : t.cpu.ad = c.cpu.ad := by
    rw [moved.ad, adNext, ldad, adAdd, baAdd]
    rfl
  have bah : t.cpu.bah = c.cpu.bah := by
    rw [moved.bah]
    exact bahNext_keep _ _ _ opcode (by rw [baAdd]; nofun) ldbah
  have bal : t.cpu.bal = c.cpu.bal := by
    rw [moved.bal (by rw [baAdd]; nofun)]
    exact balNext_keep _ _ _ opcode (.inl baAdd) ldbal
  rw [← h.address]
  have here := h.latch
  cases mode with
  | immediate => exact absurd rfl indirect
  | zeroPage | zeroPageX | zeroPageY => rw [address_zpg latch, address_zpg here, ad]
  | _ => rw [address_ba latch, address_ba here, bah, bal]

/-- A read-modify-write instruction. -/
theorem exec_modify {op : ModifyOp} {mode : Mode} {r₀ : Regs} {taken : Bool}
    (h : Fetching (.modify op mode) { r₀ with pc := r₀.pc + 1 } (program taken (.modify op mode))
      memory c) (indirect : mode ≠ .immediate) :
    After (System.clock mem) (mode.readCycles true + 2 - 1)
      (Executed mem (.modify op mode) ⟨r₀, memory⟩) c := by
  have count : mode.readCycles true + 2 - 1 = (approach mode).length + 1 + 3 := by
    have := readCycles_eq indirect
    omega
  rw [count]
  have start : program taken (.modify op mode) =
      approach mode ++ arrival mode false none ::
        [ { lddi := true, write := true, data := some .dl, setAddrTo := operandLatch mode,
            source := some .di, op := some (modifyAlu op) },
          { ldalu := true, saveP := true, write := true, data := some .dl,
            setAddrTo := operandLatch mode }, {} ] := by
    cases mode <;> rfl
  rw [start] at h
  refine (reach indirect h rfl).trans fun t at' lines => ?_
  -- the operand is read into the data latch and onto bus A
  have fetched := System.read_cycle mem at'.stage rfl rfl at'.wrN at'.address lines
  have held := at'.hold rfl fetched.moved fetched.latch ⟨rfl, rfl, rfl, rfl, rfl⟩ indirect
  rw [at'.mem] at fetched
  generalize t.clock mem lines = t₁ at fetched held ⊢
  obtain ⟨operand, loaded⟩ : ∃ o, mem.load memory (mode.address mem memory r₀) = o := ⟨_, rfl⟩
  rw [loaded] at fetched
  have dl : t₁.cpu.dl = operand := fetched.moved.dl
  have flags : t₁.cpu.p.flags = r₀.flags := congrArg Regs.flags fetched.stage.regs
  have effect := alu_modify op operand t₁.cpu.busB t₁.cpu.p
  have out : t₁.cpu.aluOut = alu false (modifyAlu op) operand t₁.cpu.busB t₁.cpu.p := by
    rw [aluOut, fetched.stage.settled.bcdEnR, fetched.moved.aluOpR _ rfl,
      fetched.moved.busAR _ rfl]
    rfl
  rw [← out, flags] at effect
  have first : t₁.cpu.dataOut = operand := by
    rw [dataOut, fetched.moved.writeDataR _ rfl, dl]
  have written : (t₁.cpu.pNext t₁.cpu.micro).flags = op.flags r₀.flags operand := by
    have saveP : t₁.cpu.micro.saveP = true := by rw [fetched.stage.moves]
    have ldp : t₁.cpu.micro.ldp = false := by rw [fetched.stage.moves]
    rw [pNext_plain _ fetched.stage.settled fetched.stage.sync
      (plain_opcode fetched.stage.decoded rfl), saveP, ldp, ← effect.2]
    rfl
  have here : AtOperand (.modify op mode) _ _ mode true (some .dl) _ memory t₁ :=
    ⟨fetched.stage, held, fetched.latch, fetched.moved.wrN, fetched.moved.writeDataR, fetched.mem⟩
  -- the operand is written back while the ALU makes the new value
  intro lines
  rw [System.clock_write fetched.moved.wrN held first, fetched.mem]
  have stage := fetched.stage.next (Cpu2A03.pins lines.irqN lines.nmiN) operand
    (fetched.stage.opcode rfl) rfl (.inl fun _ _ same => by cases same)
  have moved := fetched.stage.moved (Cpu2A03.pins lines.irqN lines.nmiN) operand
    fun source latched => absurd latched (Option.not_mem_none source)
  rw [written] at stage
  generalize t₁.cpu.clock (Cpu2A03.pins lines.irqN lines.nmiN) operand = s₂ at stage moved ⊢
  have held' := here.hold (t := ⟨s₂, memory⟩) rfl moved moved.setAddrToR
    ⟨rfl, rfl, rfl, rfl, rfl⟩ indirect
  have second : s₂.dataOut = op.value r₀.flags.c operand := by
    rw [dataOut, moved.writeDataR _ rfl, ← effect.1]
    exact moved.dl
  intro lines
  have last := System.close_write mem
    (c := ⟨s₂, mem.store memory (mode.address mem memory r₀) operand⟩) stage rfl rfl rfl
    rfl ⟨rfl, rfl, rfl⟩ rfl moved.wrN held' second lines
  subst loaded
  exact last

/-! ## Registers -/

/-- The flags that a flag instruction sets or clears are not those of a writeback. -/
theorem registerEffect_eq {op : ImpliedOp} (other : flagRow (.implied op) = none) (r : Regs) :
    registerEffect op r = op.apply r := by
  cases op <;> first | rfl | exact absurd other nofun

/-- An operation on registers does not depend on the program counter. -/
theorem implied_pc (op : ImpliedOp) (r : Regs) (pc : BitVec 16) :
    op.apply { r with pc } = { op.apply r with pc } := by
  cases op <;> rfl

/-- Setting or clearing a flag twice is doing it once. -/
theorem implied_twice {op : ImpliedOp} (named : flagRow (.implied op) ≠ none) (r : Regs) :
    op.apply (op.apply r) = op.apply r := by
  cases op <;> first | rfl | exact absurd rfl named

/-- The opcode of an instruction other than `BRK`. -/
theorem Stage.opcode_ne (h : Stage i r rest s) (other : i ≠ .brk) : s.ir ≠ 0 := by
  intro zero
  have decoded := h.decoded
  rw [zero] at decoded
  exact other (Option.some.inj decoded).symm

/-- The flags in the cycle of an instruction on registers. -/
theorem Stage.pNext_implied {op : ImpliedOp} (h : Stage (.implied op) r (m :: rest) s)
    (quiet : m.saveP = false ∧ m.ldp = false) :
    s.pNext s.micro = { flagOp s.ir s.p with b := true, one := true } := by
  have opcode : (s.ir == 0) = false := beq_eq_false_iff_ne.mpr (h.opcode_ne nofun)
  have saveP : s.micro.saveP = false := by rw [h.moves, quiet.1]
  have ldp : s.micro.ldp = false := by rw [h.moves, quiet.2]
  simp only [pNext, h.sync, saveP, ldp, opcode, h.settled.rstCycle, Bool.false_and,
    Bool.false_eq_true, if_false]

/-- An instruction on registers alone. -/
theorem exec_implied {op : ImpliedOp} {r₀ : Regs} {taken : Bool}
    (h : Fetching (.implied op) { r₀ with pc := r₀.pc + 1 } (program taken (.implied op))
      memory c) (lines : Lines) :
    Executed mem (.implied op) ⟨r₀, memory⟩ (c.clock mem lines) := by
  have simple := latch_simple (m := {}) (impliedWriteback op) (writeback_simple (.implied op)) rfl
  have quiet : ((impliedWriteback op).latch {}).saveP = false ∧
      ((impliedWriteback op).latch {}).ldp = false := by
    rw [latch_toMoves]
    exact ⟨rfl, rfl⟩
  rw [System.clock_read h.reads rfl]
  generalize mem.load c.mem c.cpu.address = di
  obtain ⟨boundary, regs, masked⟩ := h.stage.finish (Cpu2A03.pins lines.irqN lines.nmiN) di
    (h.stage.opcode_ne nofun) (.inl ⟨rfl, by rw [latch_toMoves]⟩) (by rw [latch_toMoves]) simple
  have moved := h.stage.moved (Cpu2A03.pins lines.irqN lines.nmiN) di simple
  have flags : c.cpu.p.flags = r₀.flags := congrArg Regs.flags h.stage.regs
  have next := h.stage.pNext_implied quiet
  have p : (c.cpu.clock (Cpu2A03.pins lines.irqN lines.nmiN) di).p =
      { flagOp c.cpu.ir c.cpu.p with b := true, one := true } := next
  rw [next, latch_toMoves] at regs
  have ir : (c.cpu.clock (Cpu2A03.pins lines.irqN lines.nmiN) di).ir = c.cpu.ir := by
    show (if c.cpu.sync then _ else c.cpu.ir) = _
    rw [h.stage.sync]
    rfl
  generalize c.cpu.clock (Cpu2A03.pins lines.irqN lines.nmiN) di = t
    at boundary regs masked moved p ir ⊢
  have mask : (Instruction.implied op).mask mem ⟨r₀, memory⟩ = r₀.flags.i := by
    cases op <;> rfl
  refine ⟨boundary, ?_, h.mem, fun accepted => mask.trans (masked accepted)⟩
  by_cases other : flagRow (.implied op) = none
  · rw [flagOp_other h.stage.decoded other, c.cpu.p.constant h.stage.settled.b h.stage.settled.one,
      flags] at regs
    have kept : t.regs = { c.cpu.regs with pc := t.regs.pc, flags := t.regs.flags } := by
      rw [regs, h.stage.regs]
      rfl
    rw [boundary.commit_latched other moved kept]
    show (impliedWriteback op).result di t.p t.regs = _
    rw [implied_result op di t.p t.regs rfl, registerEffect_eq other, regs]
    exact implied_pc op r₀ (r₀.pc + 1)
  · have idle : writeback (.implied op) = {} := by
      cases op <;> first | rfl | exact absurd rfl other
    obtain ⟨p', flags', whole⟩ := boundary.commit_eq (.inl idle)
    rw [idle] at flags' whole
    have effect : t.regs = op.apply { r₀ with pc := r₀.pc + 1 } := by
      rw [regs]
      exact flagOp_row h.stage.decoded other c.cpu.p { r₀ with pc := r₀.pc + 1 } flags
    rw [whole, ir, flagOp_row h.stage.decoded other p' _ flags']
    show op.apply t.regs = _
    rw [effect, implied_twice other]
    exact implied_pc op r₀ (r₀.pc + 1)

end T65

end FpgaNes
