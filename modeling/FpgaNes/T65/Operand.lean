import FpgaNes.T65.Boundary

/-!
# The processor: addressing

The addressing part of every microprogram puts the address of the operand on the bus.
-/

namespace FpgaNes

open Hdl
open Mos6502 (Regs Instruction Memory Mode loadWord argument argumentWord pointer decode)

namespace T65

/-! ## Bus cycles -/

/-- A machine cycle that leaves the flags alone. -/
def MicroStep.mild (m : MicroStep) : Bool :=
  !m.saveP && !m.ldp && m.source.all fun source => source ∈ [BusATo.di, .abc, .x, .y, .s]

/-- A machine cycle that leaves the flags alone and ends no instruction early. -/
def MicroStep.quiet (m : MicroStep) : Bool := !m.breakAtNA && !m.pcAdd && m.mild

variable {σ : Type*} {mem : Memory σ} {c : System σ} {i : Instruction} {r : Regs}
  {m m' : MicroStep} {rest : List MicroStep}

/-- A quiet cycle breaks nothing off. -/
theorem MicroStep.quiet_breaks (quiet : m.quiet = true) (s : T65) :
    s.breaks m.toMoves = false := by
  simp only [MicroStep.quiet, Bool.and_eq_true, Bool.not_eq_true'] at quiet
  rw [T65.breaks, quiet.1.1, quiet.1.2]
  rfl

/-- A quiet cycle is mild. -/
theorem MicroStep.quiet_mild (quiet : m.quiet = true) : m.mild = true := by
  rw [MicroStep.quiet, Bool.and_eq_true] at quiet
  exact quiet.2

/-- What a bus cycle makes of the processor and the memory in a mild machine cycle. -/
structure Cycled (i : Instruction) (r : Regs) (m : MicroStep) (rest : List MicroStep) (di : Byte)
    (memory : σ) (c t : System σ) : Prop where
  /-- The instruction goes on with the cycles that are left. -/
  stage : Stage i (advance m.toMoves di c.cpu r) rest t.cpu
  /-- The registers that the cycle moves. -/
  moved : Moved m di c.cpu t.cpu
  /-- The address register of the next cycle. -/
  latch : t.cpu.setAddrToR = m.setAddrTo
  /-- The memory. -/
  mem : t.mem = memory

/-- One clock of a mild machine cycle that goes on. -/
theorem Stage.cycled (h : Stage i r (m :: m' :: rest) c.cpu) (ordinary : plain i = true)
    (mild : m.mild = true) (whole : c.cpu.breaks m.toMoves = false) (pins : Pins) (di : Byte)
    (memory : σ) : Cycled i r m (m' :: rest) di memory c ⟨c.cpu.clock pins di, memory⟩ := by
  simp only [MicroStep.mild, Bool.and_eq_true, Bool.not_eq_true', Option.all_eq_true,
    decide_eq_true_eq] at mild
  have moved := h.moved pins di mild.2
  refine ⟨h.next_quiet pins di ordinary whole mild.1, moved, ?_, rfl⟩
  rw [moved.setAddrToR, whole]
  rfl

/-- A read cycle loads from the address on the bus. -/
theorem System.clock_read (reads : c.cpu.wrN = true) {address : BitVec 16}
    (bus : c.cpu.address = address) (lines : Lines) :
    c.clock mem lines =
      ⟨c.cpu.clock (Cpu2A03.pins lines.irqN lines.nmiN) (mem.load c.mem address), c.mem⟩ := by
  rw [System.clock, Cpu2A03.di, if_pos reads, if_pos reads, bus]

/-- A write cycle stores to the address on the bus, and reads back what it stores. -/
theorem System.clock_write (writes : c.cpu.wrN = false) {address : BitVec 16}
    (bus : c.cpu.address = address) {data : Byte} (out : c.cpu.dataOut = data) (lines : Lines) :
    c.clock mem lines =
      ⟨c.cpu.clock (Cpu2A03.pins lines.irqN lines.nmiN) data, mem.store c.mem address data⟩ := by
  rw [System.clock, Cpu2A03.di, writes, bus, out]
  rfl

/-- A read cycle in the middle of an instruction. -/
theorem System.read_cycle_whole (mem : Memory σ) (h : Stage i r (m :: m' :: rest) c.cpu)
    (ordinary : plain i = true) (mild : m.mild = true) (whole : c.cpu.breaks m.toMoves = false)
    (reads : c.cpu.wrN = true) {address : BitVec 16} (bus : c.cpu.address = address)
    (lines : Lines) :
    Cycled i r m (m' :: rest) (mem.load c.mem address) c.mem c (c.clock mem lines) := by
  rw [System.clock_read reads bus]
  exact h.cycled ordinary mild whole _ _ _

/-- A read cycle that ends no instruction. -/
theorem System.read_cycle (mem : Memory σ) (h : Stage i r (m :: m' :: rest) c.cpu)
    (ordinary : plain i = true) (quiet : m.quiet = true)
    (reads : c.cpu.wrN = true) {address : BitVec 16}
    (bus : c.cpu.address = address) (lines : Lines) :
    Cycled i r m (m' :: rest) (mem.load c.mem address) c.mem c (c.clock mem lines) :=
  System.read_cycle_whole mem h ordinary (MicroStep.quiet_mild quiet)
    (MicroStep.quiet_breaks quiet c.cpu) reads bus lines

/-- A write cycle that ends no instruction. -/
theorem System.write_cycle (mem : Memory σ) (h : Stage i r (m :: m' :: rest) c.cpu)
    (ordinary : plain i = true) (quiet : m.quiet = true)
    (writes : c.cpu.wrN = false) {address : BitVec 16}
    (bus : c.cpu.address = address) {data : Byte} (out : c.cpu.dataOut = data) (lines : Lines) :
    Cycled i r m (m' :: rest) data (mem.store c.mem address data) c (c.clock mem lines) := by
  rw [System.clock_write writes bus out]
  exact h.cycled ordinary (MicroStep.quiet_mild quiet) (MicroStep.quiet_breaks quiet c.cpu) _ _ _

/-- An operand byte is about to be fetched at the program counter. -/
structure Fetching (i : Instruction) (r : Regs) (rest : List MicroStep) (memory : σ)
    (c : System σ) : Prop where
  /-- The instruction goes on with the cycles that are left. -/
  stage : Stage i r rest c.cpu
  /-- The address is the program counter. -/
  latch : c.cpu.setAddrToR = .pbr
  /-- The cycle is a read. -/
  reads : c.cpu.wrN = true
  /-- The memory. -/
  mem : c.mem = memory

/-- The program counter is on the bus while an operand byte is fetched. -/
theorem Fetching.address {memory : σ} (h : Fetching i r (m :: rest) memory c)
    (still : m.pcAdd = false) : c.cpu.address = r.pc := by
  have pc : c.cpu.pc = r.pc := by rw [← h.stage.regs]; rfl
  rw [address_pbr h.latch (by rw [h.stage.moves]; exact still), pc]

/-- A cycle that fetches an operand byte. -/
theorem Fetching.cycle {memory : σ} (mem : Memory σ) (h : Fetching i r (m :: m' :: rest) memory c)
    (ordinary : plain i = true) (quiet : m.quiet = true) (lines : Lines) :
    Cycled i r m (m' :: rest) (mem.load memory r.pc) memory c (c.clock mem lines) := by
  have still : m.pcAdd = false := by
    simp only [MicroStep.quiet, Bool.and_eq_true, Bool.not_eq_true'] at quiet
    exact quiet.1.2
  rw [← h.mem]
  exact System.read_cycle mem h.stage ordinary quiet h.reads (h.address still) lines

/-! ## Addressing modes -/

/-- The last addressing cycle, which may announce a write. -/
def arrival (mode : Mode) (write : Bool) (data : Option WriteData) : MicroStep :=
  { arrive mode with write, data }

/-- The operand address is on the bus. -/
structure AtOperand (i : Instruction) (r : Regs) (rest : List MicroStep) (mode : Mode)
    (write : Bool) (data : Option WriteData) (address : BitVec 16) (memory : σ)
    (c : System σ) : Prop where
  /-- The instruction goes on with the cycles that are left. -/
  stage : Stage i r rest c.cpu
  /-- The address of the operand is on the bus. -/
  address : c.cpu.address = address
  /-- It comes from the register of its mode. -/
  latch : c.cpu.setAddrToR = operandLatch mode
  /-- The cycle reads or writes the operand. -/
  wrN : c.cpu.wrN = !write
  /-- The byte that is written. -/
  data : ∀ d ∈ data, c.cpu.writeDataR = d
  /-- The memory. -/
  mem : c.mem = memory

/-- Two cells on. -/
theorem pc_two (pc : BitVec 16) : pc + 1 + 1 = pc + 2 := by
  rw [BitVec.add_assoc]
  rfl

/-- Three cells on. -/
theorem pc_three (pc : BitVec 16) : pc + 2 + 1 = pc + 3 := by
  rw [BitVec.add_assoc]
  rfl

/-- After the first operand byte comes the second. -/
theorem Cycled.second {r₀ : Regs} {di : Byte} {memory : σ} {t : System σ}
    (h : Cycled i { r₀ with pc := r₀.pc + 1 } m rest di memory c t)
    (moves : m.jump = .inc ∧ m.setAddrTo = .pbr ∧ m.write = false ∧ m.incS = false ∧
      m.decS = false) :
    Fetching i { r₀ with pc := r₀.pc + 2 } rest memory t := by
  obtain ⟨jump, setAddrTo, write, incS, decS⟩ := moves
  refine ⟨?_, h.latch.trans setAddrTo, by rw [h.moved.wrN, write]; rfl, h.mem⟩
  have stage := h.stage
  rw [advance, jump, incS, decS] at stage
  rw [← pc_two]
  exact stage

/-- The zero page latch on the address bus. -/
theorem address_zpg {s : T65} (latch : s.setAddrToR = .zpg) :
    s.address = Mos6502.zeroPage s.ad := by
  rw [T65.address, latch]
  rfl

/-- The address latch on the address bus. -/
theorem address_ba {s : T65} (latch : s.setAddrToR = .ba) :
    s.address = s.bah ++ s.bal.setWidth 8 := by
  rw [T65.address, latch]

/-- A fetched low byte is in the low byte of the latch. -/
theorem balNext_load (u : Micro) (di : Byte) (s : T65) (load : u.ldbal = true) :
    (s.balNext u di).setWidth 8 = di := by
  simp only [balNext, load, if_true]
  apply BitVec.eq_of_toNat_eq
  have bound := di.isLt
  rw [BitVec.toNat_setWidth, Hdl.toNat_append]
  omega

/-- The latch keeps its low byte in a cycle that neither loads nor adds to it. -/
theorem balNext_keep (m : Moves) (di : Byte) (s : T65) (opcode : s.ir ≠ 0)
    (idle : m.baAdd = .none ∨ m.baAdd = .adj) (keep : m.ldbal = false) :
    s.balNext { m with } di = s.bal := by
  rcases idle with idle | idle <;>
    simp only [balNext, idle, keep, if_neg opcode, Bool.false_eq_true, if_false]

/-- The latch keeps its high byte in a cycle that neither loads nor adjusts it. -/
theorem bahNext_keep (m : Moves) (di : Byte) (s : T65) (opcode : s.ir ≠ 0)
    (idle : m.baAdd ≠ .adj) (keep : m.ldbah = false) : s.bahNext m di = s.bah := by
  simp only [bahNext, keep, if_neg opcode, idle, false_and, Bool.false_eq_true, if_false]

/-- The opcode of a plain instruction is not that of `BRK`. -/
theorem Stage.opcode {s : T65} (h : Stage i r rest s) (ordinary : plain i = true) : s.ir ≠ 0 :=
  (plain_opcode h.decoded ordinary).1

variable {r₀ : Regs} {memory : σ} {write : Bool} {data : Option WriteData}

/-- Zero page: the byte after the opcode is the address. -/
theorem reach_zeroPage
    (h : Fetching i { r₀ with pc := r₀.pc + 1 } (arrival .zeroPage write data :: m' :: rest)
      memory c) (ordinary : plain i = true) (lines : Lines) :
    AtOperand i { r₀ with pc := r₀.pc + 2 } (m' :: rest) .zeroPage write data
      (Mode.zeroPage.address mem memory r₀) memory (c.clock mem lines) := by
  have cycle := h.cycle mem ordinary rfl lines
  have ad : (c.clock mem lines).cpu.ad = argument mem memory r₀ := cycle.moved.ad
  refine ⟨?_, ?_, cycle.latch, cycle.moved.wrN, cycle.moved.writeDataR, cycle.mem⟩
  · rw [← pc_two]
    exact cycle.stage
  · rw [address_zpg cycle.latch, ad]
    rfl

/-- Zero page indexed: the index is added in the second cycle and stays in the zero page. -/
theorem reach_zeroPageX
    (h : Fetching i { r₀ with pc := r₀.pc + 1 }
      (fetchAd :: arrival .zeroPageX write data :: m' :: rest) memory c)
    (ordinary : plain i = true) :
    After (System.clock mem) 2
      (AtOperand i { r₀ with pc := r₀.pc + 2 } (m' :: rest) .zeroPageX write data
        (Mode.zeroPageX.address mem memory r₀) memory) c := by
  intro lines lines'
  have fetched := h.cycle mem ordinary rfl lines
  have ad : (c.clock mem lines).cpu.ad = argument mem memory r₀ := fetched.moved.ad
  have x : (c.clock mem lines).cpu.x = r₀.x := congrArg Regs.x fetched.stage.regs
  have added := System.read_cycle mem fetched.stage ordinary rfl fetched.moved.wrN rfl
    lines'
  refine ⟨?_, ?_, added.latch, added.moved.wrN, added.moved.writeDataR, ?_⟩
  · rw [← pc_two]
    exact added.stage
  · rw [address_zpg added.latch, added.moved.ad]
    show Mos6502.zeroPage ((c.clock mem lines).cpu.ad + (c.clock mem lines).cpu.x) = _
    rw [ad, x]
    rfl
  · rw [added.mem, fetched.mem]

/-- Zero page indexed by `y`. -/
theorem reach_zeroPageY
    (h : Fetching i { r₀ with pc := r₀.pc + 1 }
      (fetchAd :: arrival .zeroPageY write data :: m' :: rest) memory c)
    (ordinary : plain i = true) :
    After (System.clock mem) 2
      (AtOperand i { r₀ with pc := r₀.pc + 2 } (m' :: rest) .zeroPageY write data
        (Mode.zeroPageY.address mem memory r₀) memory) c := by
  intro lines lines'
  have fetched := h.cycle mem ordinary rfl lines
  have ad : (c.clock mem lines).cpu.ad = argument mem memory r₀ := fetched.moved.ad
  have y : (c.clock mem lines).cpu.y = r₀.y := congrArg Regs.y fetched.stage.regs
  have added := System.read_cycle mem fetched.stage ordinary rfl fetched.moved.wrN rfl
    lines'
  refine ⟨?_, ?_, added.latch, added.moved.wrN, added.moved.writeDataR, ?_⟩
  · rw [← pc_two]
    exact added.stage
  · rw [address_zpg added.latch, added.moved.ad]
    show Mos6502.zeroPage ((c.clock mem lines).cpu.ad + (c.clock mem lines).cpu.y) = _
    rw [ad, y]
    rfl
  · rw [added.mem, fetched.mem]

/-- Absolute: the two bytes after the opcode are the address. -/
theorem reach_absolute
    (h : Fetching i { r₀ with pc := r₀.pc + 1 }
      (fetchBal :: arrival .absolute write data :: m' :: rest) memory c)
    (ordinary : plain i = true) :
    After (System.clock mem) 2
      (AtOperand i { r₀ with pc := r₀.pc + 3 } (m' :: rest) .absolute write data
        (Mode.absolute.address mem memory r₀) memory) c := by
  intro lines lines'
  have low := h.cycle mem ordinary rfl lines
  have bal : (c.clock mem lines).cpu.bal.setWidth 8 = mem.load memory (r₀.pc + 1) := by
    rw [low.moved.bal (by decide)]
    exact balNext_load _ _ _ rfl
  have second := low.second ⟨rfl, rfl, rfl, rfl, rfl⟩
  have high := second.cycle mem ordinary rfl lines'
  refine ⟨?_, ?_, high.latch, high.moved.wrN, high.moved.writeDataR, high.mem⟩
  · rw [← pc_three]
    exact high.stage
  · have keep := balNext_keep (arrival .absolute write data).toMoves
      (mem.load memory (r₀.pc + 2)) _ (second.stage.opcode ordinary) (.inl rfl) rfl
    have kept := high.moved.bal (nofun)
    rw [address_ba high.latch, high.moved.bah, kept, keep, bal]
    rfl

/-- Zero page indexed indirect: the address is at the indexed cell and the next. -/
theorem reach_indexedIndirect
    (h : Fetching i { r₀ with pc := r₀.pc + 1 }
      (fetchAd :: { adAdd := true, setAddrTo := .zpg } :: fetchPointer ::
        arrival .indexedIndirect write data :: m' :: rest) memory c)
    (ordinary : plain i = true) :
    After (System.clock mem) 4
      (AtOperand i { r₀ with pc := r₀.pc + 2 } (m' :: rest) .indexedIndirect write data
        (Mode.indexedIndirect.address mem memory r₀) memory) c := by
  intro lines
  have fetched := h.cycle mem ordinary rfl lines
  generalize c.clock mem lines = c₁ at fetched ⊢
  have ad : c₁.cpu.ad = argument mem memory r₀ := fetched.moved.ad
  have x : c₁.cpu.x = r₀.x := congrArg Regs.x fetched.stage.regs
  intro lines
  have added := System.read_cycle mem fetched.stage ordinary rfl fetched.moved.wrN rfl
    lines
  generalize c₁.clock mem lines = c₂ at added ⊢
  have cell : c₂.cpu.ad = argument mem memory r₀ + r₀.x := by
    rw [added.moved.ad]
    show c₁.cpu.ad + c₁.cpu.x = _
    rw [ad, x]
  intro lines
  have low := System.read_cycle mem added.stage ordinary rfl added.moved.wrN
    (address_zpg added.latch) lines
  rw [added.mem, fetched.mem, cell] at low
  generalize c₂.clock mem lines = c₃ at low ⊢
  have cell' : c₃.cpu.ad = argument mem memory r₀ + r₀.x + 1 := by
    rw [low.moved.ad]
    show c₂.cpu.ad + 1 = _
    rw [cell]
  have bal : c₃.cpu.bal.setWidth 8 =
      mem.load memory (Mos6502.zeroPage (argument mem memory r₀ + r₀.x)) := by
    rw [low.moved.bal (by decide)]
    exact balNext_load _ _ _ rfl
  intro lines
  have high := System.read_cycle mem low.stage ordinary rfl low.moved.wrN
    (address_zpg low.latch) lines
  rw [low.mem, cell'] at high
  refine ⟨?_, ?_, high.latch, high.moved.wrN, high.moved.writeDataR, high.mem⟩
  · rw [← pc_two]
    exact high.stage
  · have keep := balNext_keep (arrival .indexedIndirect write data).toMoves
      (mem.load memory (Mos6502.zeroPage (argument mem memory r₀ + r₀.x + 1))) _
      (low.stage.opcode ordinary) (.inl rfl) rfl
    rw [address_ba high.latch, high.moved.bah, high.moved.bal (nofun), keep, bal]
    rfl

/-! ## Indexed addresses -/

/-- The address before the page is adjusted is on the bus: the high byte of the base, and the
sum of the low byte and the index with its carry. -/
structure Poised (i : Instruction) (r : Regs) (rest : List MicroStep) (base : BitVec 16)
    (index : Byte) (memory : σ) (c : System σ) : Prop where
  /-- The instruction goes on with the cycles that are left. -/
  stage : Stage i r rest c.cpu
  /-- `BAH` is the high byte of the base. -/
  bah : c.cpu.bah = base.extractLsb 15 8
  /-- `BAL` is the low byte with the index added, and the carry. -/
  bal : c.cpu.bal = (base.setWidth 8).setWidth 9 + index.setWidth 9
  /-- The address is the base register. -/
  latch : c.cpu.setAddrToR = .ba
  /-- The cycle is a read. -/
  reads : c.cpu.wrN = true
  /-- The memory. -/
  mem : c.mem = memory

/-- The low byte of a word. -/
theorem low_append (high low : Byte) : (high ++ low : BitVec 16).setWidth 8 = low := by
  apply BitVec.eq_of_toNat_eq
  have bound := low.isLt
  rw [BitVec.toNat_setWidth, Hdl.toNat_append]
  omega

/-- The high byte of a word. -/
theorem high_append (high low : Byte) : (high ++ low : BitVec 16).extractLsb 15 8 = high := by
  apply BitVec.eq_of_toNat_eq
  have bound := low.isLt
  have bound' := high.isLt
  simp only [BitVec.extractLsb, Hdl.toNat_slice, Hdl.toNat_append]
  omega

/-- The index of an indexed absolute mode. -/
def indexRegister (index : BusATo) (r : Regs) : Byte := if index = .y then r.y else r.x

/-- Absolute indexed: the index is added while the high byte is fetched. -/
theorem approach_absolute {index : BusATo} (which : index = .x ∨ index = .y)
    (h : Fetching i { r₀ with pc := r₀.pc + 1 } (fetchBal :: fetchIndexed index :: m' :: rest)
      memory c) (ordinary : plain i = true) :
    After (System.clock mem) 2
      (Poised i { r₀ with pc := r₀.pc + 3 } (m' :: rest) (argumentWord mem memory r₀)
        (indexRegister index r₀) memory) c := by
  intro lines
  have low := h.cycle mem ordinary rfl lines
  generalize c.clock mem lines = c₁ at low ⊢
  have bal : c₁.cpu.bal.setWidth 8 = mem.load memory (r₀.pc + 1) := by
    rw [low.moved.bal (by decide)]
    exact balNext_load _ _ _ rfl
  have second := low.second ⟨rfl, rfl, rfl, rfl, rfl⟩
  intro lines
  have quiet : (fetchIndexed index).quiet = true := by rcases which with rfl | rfl <;> rfl
  have high := second.cycle mem ordinary quiet lines
  generalize c₁.clock mem lines = c₂ at high ⊢
  have source : busSource index c₁.cpu.regs (mem.load memory (r₀.pc + 2)) =
      indexRegister index r₀ := by
    rw [second.stage.regs]
    rcases which with rfl | rfl <;> rfl
  refine ⟨?_, ?_, ?_, high.latch, high.moved.wrN, high.mem⟩
  · rw [← pc_three]
    exact high.stage
  · rw [high.moved.bah]
    exact (high_append _ _).symm
  · rw [high.moved.balAdd rfl index rfl (second.stage.opcode ordinary) rfl, source, bal]
    rw [argumentWord, loadWord, low_append]

/-- Zero page indirect indexed: the base is at the cell and the next, and `y` is added while
its high byte is fetched. -/
theorem approach_indirectIndexed
    (h : Fetching i { r₀ with pc := r₀.pc + 1 }
      (fetchAd :: fetchPointer ::
        { baAdd := .add, ldbah := true, setAddrTo := .ba, source := some .y } :: m' :: rest)
      memory c)
    (ordinary : plain i = true) :
    After (System.clock mem) 3
      (Poised i { r₀ with pc := r₀.pc + 2 } (m' :: rest)
        (pointer mem memory (argument mem memory r₀)) r₀.y memory) c := by
  intro lines
  have fetched := h.cycle mem ordinary rfl lines
  generalize c.clock mem lines = c₁ at fetched ⊢
  have ad : c₁.cpu.ad = argument mem memory r₀ := fetched.moved.ad
  intro lines
  have low := System.read_cycle mem fetched.stage ordinary rfl fetched.moved.wrN
    (address_zpg fetched.latch) lines
  rw [fetched.mem, ad] at low
  generalize c₁.clock mem lines = c₂ at low ⊢
  have ad' : c₂.cpu.ad = argument mem memory r₀ + 1 := by
    rw [low.moved.ad]
    show c₁.cpu.ad + 1 = _
    rw [ad]
  have bal : c₂.cpu.bal.setWidth 8 =
      mem.load memory (Mos6502.zeroPage (argument mem memory r₀)) := by
    rw [low.moved.bal (by decide)]
    exact balNext_load _ _ _ rfl
  have y : c₂.cpu.regs.y = r₀.y := (congrArg Regs.y low.stage.regs).trans rfl
  intro lines
  have high := System.read_cycle mem low.stage ordinary rfl low.moved.wrN
    (address_zpg low.latch) lines
  rw [low.mem, ad'] at high
  generalize c₂.clock mem lines = c₃ at high ⊢
  refine ⟨?_, ?_, ?_, high.latch, high.moved.wrN, high.mem⟩
  · rw [← pc_two]
    exact high.stage
  · rw [high.moved.bah]
    exact (high_append _ _).symm
  · rw [high.moved.balAdd rfl .y rfl (low.stage.opcode ordinary) rfl, bal, pointer, loadWord,
      low_append, ← y]
    rfl

/-- The carry out of the low byte of an indexed address. -/
theorem carry_crossing (base : BitVec 16) (index : Byte) :
    ((base.setWidth 8).setWidth 9 + index.setWidth 9 : BitVec 9).getLsbD 8 =
      Mos6502.crossing base index := by
  have bound := index.isLt
  rw [Mos6502.crossing, Bool.eq_iff_iff, decide_eq_true_eq, BitVec.getLsbD,
    Nat.testBit_eq_decide_div_mod_eq]
  simp
  omega

/-- An indexed address, by its bytes. -/
theorem indexed_sum (base : BitVec 16) (index : Byte) :
    (base.extractLsb 15 8 + BitVec.ofNat 8 (Mos6502.crossing base index).toNat) ++
      ((base.setWidth 8).setWidth 9 + index.setWidth 9 : BitVec 9).setWidth 8 =
        base + index.setWidth 16 := by
  have bound := base.isLt
  have bound' := index.isLt
  have carry : (Mos6502.crossing base index).toNat = (base.toNat % 256 + index.toNat) / 256 := by
    rw [Mos6502.crossing]
    by_cases beyond : 2 ^ 8 ≤ base.toNat % 2 ^ 8 + index.toNat
    · rw [decide_eq_true beyond, Bool.toNat_true]
      omega
    · rw [decide_eq_false beyond, Bool.toNat_false]
      omega
  apply BitVec.eq_of_toNat_eq
  rw [Hdl.toNat_append, carry]
  simp only [BitVec.toNat_add, BitVec.toNat_setWidth, BitVec.extractLsb, Hdl.toNat_slice,
    BitVec.toNat_ofNat]
  omega

/-- The cycle that adjusts the page puts the indexed address on the bus. -/
theorem Poised.adjust {base : BitVec 16} {index : Byte} {r : Regs} (mem : Memory σ)
    (h : Poised i r (m :: m' :: rest) base index memory c) (ordinary : plain i = true)
    (mild : m.mild = true) (whole : c.cpu.breaks m.toMoves = false)
    (moves : m.toMoves =
      { baAdd := .adj, setAddrTo := .ba, write := m.write, breakAtNA := m.breakAtNA })
    (lines : Lines) :
    Stage i r (m' :: rest) (c.clock mem lines).cpu ∧
      (c.clock mem lines).cpu.address = base + index.setWidth 16 ∧
      (c.clock mem lines).cpu.setAddrToR = .ba ∧
      Moved m (mem.load memory c.cpu.address) c.cpu (c.clock mem lines).cpu ∧
      (c.clock mem lines).mem = memory := by
  have cycle := System.read_cycle_whole mem h.stage ordinary mild whole h.reads rfl lines
  rw [h.mem] at cycle
  generalize c.clock mem lines = t at cycle ⊢
  have latch : t.cpu.setAddrToR = .ba := by
    rw [cycle.latch, moves]
  have bal : t.cpu.bal = c.cpu.bal := by
    rw [cycle.moved.bal (by rw [moves]; nofun)]
    exact balNext_keep _ _ _ (h.stage.opcode ordinary) (.inr (by rw [moves])) (by rw [moves])
  have bah : t.cpu.bah =
      base.extractLsb 15 8 + BitVec.ofNat 8 (Mos6502.crossing base index).toNat := by
    rw [cycle.moved.bah, moves]
    simp only [bahNext, if_neg (h.stage.opcode ordinary), h.bah, h.bal, carry_crossing]
    cases Mos6502.crossing base index
    · exact (BitVec.add_zero _).symm
    · rfl
  refine ⟨?_, ?_, latch, cycle.moved, cycle.mem⟩
  · have stage := cycle.stage
    rw [moves] at stage
    exact stage
  · rw [address_ba latch, bah, bal, h.bal, indexed_sum]

/-- An indexed mode arrives by adjusting the page. -/
theorem Poised.arrive {mode : Mode} {base : BitVec 16} {index : Byte} {r : Regs}
    (h : Poised i r (arrival mode write data :: m' :: rest) base index memory c)
    (adjusts : indexed mode = true) (ordinary : plain i = true) (lines : Lines) :
    AtOperand i r (m' :: rest) mode write data (base + index.setWidth 16) memory
      (c.clock mem lines) := by
  have quiet : (arrival mode write data).quiet = true := by cases mode <;> rfl
  have latch : operandLatch mode = .ba := by
    cases mode <;> first | rfl | exact absurd adjusts (by decide)
  obtain ⟨stage, address, latched, moved, memory'⟩ := h.adjust mem ordinary
    (MicroStep.quiet_mild quiet) (MicroStep.quiet_breaks quiet c.cpu)
    (by cases mode <;> first | rfl | exact absurd adjusts (by decide)) lines
  exact ⟨stage, address, latched.trans latch.symm, moved.wrN, moved.writeDataR, memory'⟩

/-- The addressing part of a microprogram puts the operand address on the bus and the program
counter on the next instruction. -/
theorem reach {mode : Mode} (indirect : mode ≠ .immediate)
    (h : Fetching i { r₀ with pc := r₀.pc + 1 }
      (approach mode ++ arrival mode write data :: m' :: rest) memory c)
    (ordinary : plain i = true) :
    After (System.clock mem) ((approach mode).length + 1)
      (AtOperand i { r₀ with pc := mode.next r₀.pc } (m' :: rest) mode write data
        (mode.address mem memory r₀) memory) c := by
  cases mode with
  | immediate => exact absurd rfl indirect
  | zeroPage => exact fun lines => reach_zeroPage h ordinary lines
  | zeroPageX => exact reach_zeroPageX h ordinary
  | zeroPageY => exact reach_zeroPageY h ordinary
  | absolute => exact reach_absolute h ordinary
  | absoluteX =>
    exact (approach_absolute (.inl rfl) h ordinary).trans fun t poised lines =>
      poised.arrive rfl ordinary lines
  | absoluteY =>
    exact (approach_absolute (.inr rfl) h ordinary).trans fun t poised lines =>
      poised.arrive rfl ordinary lines
  | indexedIndirect => exact reach_indexedIndirect h ordinary
  | indirectIndexed =>
    exact (approach_indirectIndexed h ordinary).trans fun t poised lines =>
      poised.arrive rfl ordinary lines

end T65

end FpgaNes
