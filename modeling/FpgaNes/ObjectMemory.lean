import FpgaNes.Bus

/-!
# Object memory

`$2003`, `$2004` and `$4014` act on object memory as an array of 256 bytes with a
pointer. A write of `$4014` freezes the processor while the DMA state machine copies a
page of RAM, one byte on each edge of `CPU_CLK`. The processor is a sequence of bus
cycles here, and moves to the next one on each edge with `CPU_ENABLE` high.
-/

namespace FpgaNes

open Hdl

/-- Object memory as bytes, its pointer, and the RAM a page is copied from. -/
@[ext]
structure ObjectMemory where
  /-- The 256 bytes. -/
  oam : Byte → Byte
  /-- The byte that `$2004` is at. -/
  pointer : Byte
  /-- System RAM, which the DMA copies from. -/
  ram : Cells 11

/-- A write of RAM. -/
def CpuBus.writesRam (bus : CpuBus) : Bool := !bus.rwN && bus.addr.toNat ≤ 0x0FFF

namespace ObjectMemory

variable (m : ObjectMemory)

/-- `$2004`: store at the pointer, which moves to the next byte. -/
def writeData (data : Byte) : ObjectMemory :=
  { m with oam := Function.update m.oam m.pointer data, pointer := m.pointer + 1 }

/-- The cell of RAM at an offset into a page. -/
def pageCell (page : Byte) (offset : ℕ) : Byte :=
  m.ram (BitVec.ofNat 11 (256 * page.toNat + offset))

/-- Object memory after the first bytes of a page have been copied. -/
def copied (page : Byte) (count : ℕ) (addr : Byte) : Byte :=
  if (addr - m.pointer).toNat < count then m.pageCell page (addr - m.pointer).toNat
  else m.oam addr

/-- `$4014`: copy a page of RAM, its first byte to the pointer. -/
def copyPage (page : Byte) : ObjectMemory :=
  { m with oam := fun addr => m.pageCell page (addr - m.pointer).toNat }

/-- The rule for one bus cycle. -/
def cycle (bus : CpuBus) : ObjectMemory :=
  if bus.writes 3 then { m with pointer := bus.dataOut }
  else if bus.writes 4 then m.writeData bus.dataOut
  else if bus.startsDma then m.copyPage bus.dataOut
  else if bus.writesRam then
    { m with ram := Function.update m.ram (bus.addr.setWidth 11) bus.dataOut }
  else m

/-- A write of `$4014` copies a page. -/
theorem cycle_of_startsDma {bus : CpuBus} (starts : bus.startsDma = true) :
    m.cycle bus = m.copyPage bus.dataOut := by
  obtain ⟨-, page⟩ : bus.rwN = false ∧ bus.addr.toNat = 0x4014 := by
    simpa [CpuBus.startsDma] using starts
  have other : ∀ register, bus.writes register = false := by
    intro register
    simp [CpuBus.writes, Nes.ppuRange, page]
  rw [cycle, other, other, starts]
  rfl

/-- Object memory after each number of bus cycles. -/
def run (ops : ℕ → CpuBus) (start : ObjectMemory) : ℕ → ObjectMemory :=
  trace (fun bus m => m.cycle bus) ops start

/-- After all bytes of a page are copied. -/
@[simp] theorem copied_page (page : Byte) : m.copied page 256 = (m.copyPage page).oam := by
  funext addr
  have bound := (addr - m.pointer).isLt
  rw [copied, if_pos (by omega), copyPage]

/-- Each byte is stored at the sum of its offset and the pointer. -/
theorem copied_succ (page : Byte) (count : ℕ) (inside : count < 256) :
    Function.update (m.copied page count) (BitVec.ofNat 8 count + m.pointer)
      (m.pageCell page count) = m.copied page (count + 1) := by
  funext addr
  have offset : (addr - m.pointer).toNat = count ↔
      addr = BitVec.ofNat 8 count + m.pointer := by
    constructor
    · intro same
      rw [← same, ofNat_toNat_self, BitVec.sub_add_cancel]
    · intro same
      rw [same, BitVec.add_sub_cancel, BitVec.toNat_ofNat]
      exact Nat.mod_eq_of_lt inside
  by_cases here : addr = BitVec.ofNat 8 count + m.pointer
  · have value := offset.mpr here
    rw [here, Function.update_self, ← here, copied, if_pos (by omega), value]
  · have other : (addr - m.pointer).toNat ≠ count := fun same => here (offset.mp same)
    rw [Function.update_of_ne here, copied, copied]
    by_cases before : (addr - m.pointer).toNat < count
    · rw [if_pos before, if_pos (by omega)]
    · rw [if_neg before, if_neg (by omega)]

/-- The byte copied to each offset from the pointer. -/
theorem copyPage_cell (page : Byte) (offset : ℕ) (inside : offset < 256) :
    (m.copyPage page).oam (m.pointer + BitVec.ofNat 8 offset) = m.pageCell page offset := by
  have value : (m.pointer + BitVec.ofNat 8 offset - m.pointer).toNat = offset := by
    rw [BitVec.add_comm, BitVec.add_sub_cancel, BitVec.toNat_ofNat]
    exact Nat.mod_eq_of_lt inside
  simp only [copyPage, value]

end ObjectMemory

/-- A byte of object memory, at `addr[7:2]` and `addr[1:0]`. -/
def oamByte (oam : BitVec 6 → OamEntry) (addr : Byte) : Byte :=
  oam (addr.extractLsb' 2 6) (addr.extractLsb' 0 2)

/-- The two indices determine the byte address. -/
theorem oamByte_index {left right : Byte}
    (entry : left.extractLsb' 2 6 = right.extractLsb' 2 6)
    (byte : left.extractLsb' 0 2 = right.extractLsb' 0 2) : left = right := by
  have high := congrArg BitVec.toNat entry
  have low := congrArg BitVec.toNat byte
  rw [toNat_slice, toNat_slice] at high low
  have leftBound := left.isLt
  have rightBound := right.isLt
  exact BitVec.eq_of_toNat_eq (by omega)

/-- A store into object memory changes one byte. -/
theorem oamByte_writeOam (oam : BitVec 6 → OamEntry) (addr data : Byte) :
    oamByte (writeOam oam addr data) = Function.update (oamByte oam) addr data := by
  funext other
  by_cases same : other = addr
  · rw [same, Function.update_self, oamByte, writeOam, Function.update_self,
      Function.update_self]
  · rw [Function.update_of_ne same, oamByte, writeOam]
    by_cases entry : other.extractLsb' 2 6 = addr.extractLsb' 2 6
    · have byte : other.extractLsb' 0 2 ≠ addr.extractLsb' 0 2 :=
        fun byte => same (oamByte_index entry byte)
      rw [entry, Function.update_self, Function.update_of_ne byte, oamByte, entry]
    · rw [Function.update_of_ne entry, oamByte]

namespace Nes

variable {pins : Pins} {bus : CpuBus} {nes : Nes}

/-- Object memory, its pointer and RAM as the console holds them. -/
def objectMemory (nes : Nes) : ObjectMemory :=
  ⟨oamByte nes.ppu.cpu.oam, nes.ppu.cpu.oamAddress, nes.mem.sysRam.mem⟩

/-! ## RAM over a bus cycle -/

/-- RAM after a bus cycle with no DMA. -/
def storeRam (bus : CpuBus) (ram : Cells 11) : Cells 11 :=
  if bus.writesRam then Function.update ram (bus.addr.setWidth 11) bus.dataOut else ram

/-- One edge of `MCLK` stores what the bus cycle writes into RAM. -/
theorem memNext_ram (pins : Pins) (bus : CpuBus) (nes : Nes) (free : nes.dma.dmaActive = false) :
    (nes.memNext pins bus).sysRam.mem = storeRam bus nes.mem.sysRam.mem := by
  have wren : nes.sysramWren bus = bus.writesRam := by
    simp [sysramWren, CpuBus.writesRam, free]
  have addr : nes.cpuAddrBus bus = bus.addr := by simp [cpuAddrBus, free]
  have ram : (nes.memNext pins bus).sysRam.mem =
      if nes.sysramWren bus then Function.update nes.mem.sysRam.mem
        ((nes.cpuAddrBus bus).setWidth 11) (nes.cpuDataBus pins bus)
      else nes.mem.sysRam.mem := rfl
  rw [ram, wren, addr, storeRam]
  cases writes : bus.writesRam with
  | false => rfl
  | true =>
    have direction : bus.rwN = false := by
      simp only [CpuBus.writesRam, Bool.and_eq_true, Bool.not_eq_true'] at writes
      exact writes.1
    have data : nes.cpuDataBus pins bus = bus.dataOut := by
      simp [cpuDataBus, free, direction]
    rw [data]

/-- A whole bus cycle stores it once. -/
theorem cpuClock_ram (pins : Pins) (bus : CpuBus) (nes : Nes)
    (free : nes.dma.dmaActive = false) :
    (nes.cpuClock pins bus).mem.sysRam.mem = storeRam bus nes.mem.sysRam.mem := by
  have once (ram : Cells 11) : storeRam bus (storeRam bus ram) = storeRam bus ram := by
    cases writes : bus.writesRam <;> simp [storeRam, writes, Function.update_idem]
  have period (n : Nes) (cpuEdge : Bool) (still : n.dma.dmaActive = false) :
      (n.ppuClock pins bus cpuEdge).mem.sysRam.mem = storeRam bus n.mem.sysRam.mem := by
    have first := memNext_ram pins bus n still
    have second := memNext_ram pins bus (n.mclkEdge pins bus) still
    have third := memNext_ram pins bus ((n.mclkEdge pins bus).mclkEdge pins bus) still
    have last := memNext_ram pins bus (n.settle pins bus) still
    calc (n.ppuClock pins bus cpuEdge).mem.sysRam.mem
        = storeRam bus (n.settle pins bus).mem.sysRam.mem := last
      _ = storeRam bus ((n.mclkEdge pins bus).mclkEdge pins bus).mem.sysRam.mem :=
          (congrArg (storeRam bus) third).trans (once _)
      _ = storeRam bus (n.mclkEdge pins bus).mem.sysRam.mem :=
          (congrArg (storeRam bus) second).trans (once _)
      _ = storeRam bus n.mem.sysRam.mem :=
          (congrArg (storeRam bus) first).trans (once _)
  calc (nes.cpuClock pins bus).mem.sysRam.mem
      = storeRam bus ((nes.ppuClock pins bus false).ppuClock pins bus false).mem.sysRam.mem :=
        period _ true free
    _ = storeRam bus (nes.ppuClock pins bus false).mem.sysRam.mem :=
        (congrArg (storeRam bus) (period (nes.ppuClock pins bus false) false free)).trans (once _)
    _ = storeRam bus nes.mem.sysRam.mem :=
        (congrArg (storeRam bus) (period nes false free)).trans (once _)

/-! ## Bus cycles -/

/-- Object memory and its pointer after a register write. -/
theorem write_objectMemory (r : CpuInterface) (addr : BitVec 3) (data : Byte) :
    (addr.toNat = 3 → r.write addr data = { r with oamAddress := data }) ∧
      (addr.toNat = 4 → r.write addr data =
        { r with oam := writeOam r.oam r.oamAddress data, oamAddress := r.oamAddress + 1 }) ∧
      (addr.toNat ≠ 3 → addr.toNat ≠ 4 → (r.write addr data).oam = r.oam ∧
        (r.write addr data).oamAddress = r.oamAddress) := by
  refine ⟨fun number => ?_, fun number => ?_, fun three four => ?_⟩
  · simp only [CpuInterface.write, number]
  · simp only [CpuInterface.write, number]
  · unfold CpuInterface.write
    split
    all_goals first | exact ⟨rfl, rfl⟩ | contradiction | (split <;> exact ⟨rfl, rfl⟩)

/-- A register read moves neither object memory nor its pointer. -/
theorem read_objectMemory (r : CpuInterface) (addr : BitVec 3) :
    (r.read addr).oam = r.oam ∧ (r.read addr).oamAddress = r.oamAddress := by
  unfold CpuInterface.read
  split <;> exact ⟨rfl, rfl⟩

/-- A bus cycle in the register range writes no RAM. -/
theorem writesRam_of_range (inside : ppuRange bus.addr = true) : bus.writesRam = false := by
  simp only [ppuRange, Bool.and_eq_true, decide_eq_true_eq] at inside
  simp only [CpuBus.writesRam, Bool.and_eq_false_iff, decide_eq_false_iff_not]
  omega

/-- A bus cycle with no DMA that starts none follows the rule for it. -/
theorem cpuClock_objectMemory (running : pins.Running) (free : nes.dma.dmaActive = false)
    (other : bus.startsDma = false) :
    (nes.cpuClock pins bus).objectMemory = nes.objectMemory.cycle bus := by
  have ram := cpuClock_ram pins bus nes free
  cases inside : ppuRange bus.addr with
  | false =>
    have kept := cpuClock_of_outside nes running free inside
    have outside : ∀ register, bus.writes register = false := by
      intro register
      simp [CpuBus.writes, inside]
    rw [objectMemory, kept, ram, ObjectMemory.cycle, outside, outside, other, storeRam]
    cases bus.writesRam <;> rfl
  | true =>
    have quiet := writesRam_of_range inside
    rw [storeRam, quiet, if_neg Bool.false_ne_true] at ram
    cases direction : bus.rwN with
    | true =>
      have unwritten : ∀ register, bus.writes register = false := by
        intro register
        simp [CpuBus.writes, direction]
      have reading : bus.reads (bus.addr.toNat % 8) = true :=
        CpuBus.reads_iff.mpr ⟨direction, inside, rfl⟩
      have after := (cpuClock_of_reads nes running free reading).1
      obtain ⟨oam, pointer⟩ := read_objectMemory nes.ppu.cpu (bus.addr.setWidth 3)
      rw [objectMemory, ram, after, oam, pointer, ObjectMemory.cycle, unwritten, unwritten,
        other, quiet]
      rfl
    | false =>
      have written : ∀ register, bus.writes register = (bus.addr.toNat % 8 == register) := by
        intro register
        simp [CpuBus.writes, direction, inside]
      obtain ⟨after, number⟩ := cpuClock_of_writes nes running free
        (CpuBus.writes_iff.mpr ⟨direction, inside, rfl⟩)
      obtain ⟨three, four, rest⟩ :=
        write_objectMemory nes.ppu.cpu (bus.addr.setWidth 3) bus.dataOut
      rw [objectMemory, ram, after, ObjectMemory.cycle, other, quiet, written, written]
      by_cases pointer : bus.addr.toNat % 8 = 3
      · rw [three (number.trans pointer), pointer]
        rfl
      · by_cases data : bus.addr.toNat % 8 = 4
        · rw [four (number.trans data), data, oamByte_writeOam]
          rfl
        · obtain ⟨oam, address⟩ := rest (number ▸ pointer) (number ▸ data)
          rw [oam, address, beq_eq_false_iff_ne.mpr pointer, beq_eq_false_iff_ne.mpr data]
          rfl

/-- A write of `$4014` latches the page. -/
theorem cpuClock_latches (free : nes.dma.dmaActive = false) (starts : bus.startsDma = true) :
    (nes.cpuClock pins bus).dma = ⟨true, bus.dataOut, nes.dma.dmaAddrLow⟩ := by
  simp only [CpuBus.startsDma, Bool.and_eq_true, Bool.not_eq_true', beq_iff_eq] at starts
  obtain ⟨direction, page⟩ := starts
  have addr : (nes.sample pins bus).cpuAddrBus bus = bus.addr := by simp [cpuAddrBus, free]
  have data : (nes.sample pins bus).cpuDataBus pins bus = bus.dataOut := by
    simp [cpuDataBus, free, direction]
  rw [cpuClock_dma, dmaNext, addr, data, direction, page]
  rfl

/-- It leaves the CPU interface and RAM alone. -/
theorem cpuClock_startsDma (running : pins.Running) (free : nes.dma.dmaActive = false)
    (starts : bus.startsDma = true) :
    (nes.cpuClock pins bus).dma = ⟨true, bus.dataOut, nes.dma.dmaAddrLow⟩ ∧
      (nes.cpuClock pins bus).ppu.cpu = nes.ppu.cpu ∧
      (nes.cpuClock pins bus).mem.sysRam.mem = nes.mem.sysRam.mem := by
  have page : bus.addr.toNat = 0x4014 := by
    simp only [CpuBus.startsDma, Bool.and_eq_true, beq_iff_eq] at starts
    exact starts.2
  have outside : ppuRange bus.addr = false := by simp [ppuRange, page]
  have ram : bus.writesRam = false := by simp [CpuBus.writesRam, page]
  refine ⟨cpuClock_latches free starts, cpuClock_of_outside nes running free outside, ?_⟩
  rw [cpuClock_ram pins bus nes free, storeRam, ram]
  rfl

/-! ## The copy -/

/-- The cell of RAM the DMA state machine reads. -/
def dmaCell (nes : Nes) : Byte :=
  nes.mem.sysRam.mem ((nes.dma.dmaAddrHigh ++ nes.dma.dmaAddrLow).setWidth 11)

/-- RAM holds what it held at the start of a DMA clock, with the addressed cell on its
output. -/
def Addressed (origin : Nes) (mem : Memories) : Prop :=
  mem.sysRam = ⟨origin.mem.sysRam.mem, origin.dmaCell⟩

/-- One edge of `MCLK` under DMA registers the addressed cell and stores nothing. -/
theorem memNext_addressed (pins : Pins) (bus : CpuBus) (origin nes : Nes)
    (active : origin.dma.dmaActive = true) (dma : nes.dma = origin.dma)
    (ram : nes.mem.sysRam.mem = origin.mem.sysRam.mem) :
    Addressed origin (nes.memNext pins bus) := by
  have wren : nes.sysramWren bus = false := by simp [sysramWren, dma, active]
  have rden : nes.sysramRden bus = true := by simp [sysramRden, dma, active]
  have addr : nes.cpuAddrBus bus = origin.dma.dmaAddrHigh ++ origin.dma.dmaAddrLow := by
    simp [cpuAddrBus, dma, active]
  have edge : (nes.memNext pins bus).sysRam =
      nes.mem.sysRam.clock ((nes.cpuAddrBus bus).setWidth 11) (nes.sysramWren bus)
        (nes.sysramRden bus) (nes.cpuDataBus pins bus) := rfl
  rw [Addressed, edge, wren, rden, addr, SyncMemory.clock, ram]
  rfl

/-- The contents of RAM at any edge of a DMA clock. -/
theorem Addressed.ram {origin : Nes} {mem : Memories} (addressed : Addressed origin mem) :
    mem.sysRam.mem = origin.mem.sysRam.mem := by
  rw [addressed]

/-- Just before the edge that ends a DMA clock, the addressed cell is on the output of RAM. -/
theorem sample_addressed (pins : Pins) (bus : CpuBus) (nes : Nes)
    (active : nes.dma.dmaActive = true) : Addressed nes (nes.sample pins bus).mem := by
  have edge (n : Nes) (dma : n.dma = nes.dma) (ram : n.mem.sysRam.mem = nes.mem.sysRam.mem) :
      Addressed nes (n.memNext pins bus) :=
    memNext_addressed pins bus nes n active dma ram
  have last := sample_last pins bus nes (fun mem => mem.sysRam.mem = nes.mem.sysRam.mem)
    (edge nes rfl rfl).ram fun n dma ram => (edge n dma ram).ram
  obtain ⟨n, dma, ram, sampled⟩ := last
  rw [sampled]
  exact edge n dma ram

/-- One clock of the DMA state machine with the processor frozen on a read cycle. -/
theorem cpuClock_dmaCell (running : pins.Running) (active : nes.dma.dmaActive = true)
    (reading : bus.rwN = true) :
    (nes.cpuClock pins bus).dma =
        (if nes.dma.dmaAddrLow.toNat = 255 then ⟨false, nes.dma.dmaAddrHigh, 0⟩
        else ⟨true, nes.dma.dmaAddrHigh, nes.dma.dmaAddrLow + 1⟩) ∧
      (nes.cpuClock pins bus).ppu.cpu =
        { nes.ppu.cpu with
          oam := writeOam nes.ppu.cpu.oam (nes.dma.dmaAddrLow + nes.ppu.cpu.oamAddress)
            nes.dmaCell } ∧
      (nes.cpuClock pins bus).mem.sysRam.mem = nes.mem.sysRam.mem := by
  have sampled := sample_addressed pins bus nes active
  have data : (nes.sample pins bus).cpuDataBus pins bus = nes.dmaCell := by
    have out := congrArg SyncMemory.dataOut sampled
    rw [cpuDataBus, sample_dma, active]
    exact out
  refine ⟨?_, ?_, ?_⟩
  · simp only [cpuClock_dma, dmaNext, sample_dma, reading, active, Bool.not_true,
      Bool.false_and, Bool.false_eq_true, if_false, if_true]
  · have write : ((nes.sample pins bus).cpuPort pins bus).dmaWrite = true := active
    rw [cpuClock_cpu, CpuInterface.next, running.reset, write, ← data]
    rfl
  · exact (memNext_addressed pins bus nes (nes.sample pins bus) active rfl sampled.ram).ram

/-! ## Runs of the processor -/

/-- The console and the number of the bus cycle the processor presents to it. -/
structure Execution where
  /-- The console. -/
  nes : Nes
  /-- The bus cycle that the processor presents next. -/
  next : ℕ

/-- One CPU clock: the processor moves on if it is enabled on the edge that ends it. -/
def Execution.step (ops : ℕ → CpuBus) (pins : Pins) (e : Execution) : Execution where
  nes := e.nes.cpuClock pins (ops e.next)
  next := if e.nes.cpuEnable pins then e.next + 1 else e.next

/-- The console and the processor after each number of CPU clocks. -/
def execute (ops : ℕ → CpuBus) (pins : ℕ → Pins) (start : Nes) : ℕ → Execution :=
  trace (Execution.step ops) pins ⟨start, 0⟩

/-- The CPU clock in which each bus cycle takes effect: the 256 clocks after a write of
`$4014` make no bus cycle. -/
def clockOf (ops : ℕ → CpuBus) : ℕ → ℕ
  | 0 => 0
  | n + 1 => clockOf ops n + 1 + if (ops n).startsDma then 256 else 0

/-- A copy after some of its clocks: the processor is frozen on its next bus cycle until the
last byte is stored. -/
structure Copying (before : Nes) (page : Byte) (next count : ℕ) (e : Execution) : Prop where
  /-- The processor waits with its bus cycle. -/
  next : e.next = next
  /-- The DMA is that far in its page. -/
  dma : e.nes.dma = if count = 256 then ⟨false, page, 0⟩ else ⟨true, page, BitVec.ofNat 8 count⟩
  /-- The other registers of the CPU interface hold. -/
  cpu : e.nes.ppu.cpu = { before.ppu.cpu with oam := e.nes.ppu.cpu.oam }
  /-- The bytes are copied so far. -/
  oam : oamByte e.nes.ppu.cpu.oam = before.objectMemory.copied page count
  /-- System RAM holds. -/
  ram : e.nes.mem.sysRam.mem = before.mem.sysRam.mem

/-- The write of `$4014` that starts a copy. -/
theorem Copying.start (ops : ℕ → CpuBus) (e : Execution) (running : pins.Running)
    (free : e.nes.dma.dmaActive = false) (low : e.nes.dma.dmaAddrLow = 0)
    (starts : (ops e.next).startsDma = true) :
    Copying e.nes (ops e.next).dataOut (e.next + 1) 0 (e.step ops pins) := by
  obtain ⟨dma, cpu, ram⟩ := cpuClock_startsDma running free starts
  have enabled : e.nes.cpuEnable pins = true := by
    rw [cpuEnable, running.enable, free]
    rfl
  refine ⟨?_, ?_, ?_, ?_, ram⟩
  · rw [Execution.step, if_pos enabled]
  · exact dma.trans (by rw [low]; rfl)
  · rw [Execution.step, cpu]
  · rw [Execution.step, cpu]
    rfl

/-- A copy leaves the pointer where it is. -/
theorem Copying.pointer {before : Nes} {page : Byte} {next count : ℕ} {e : Execution}
    (copying : Copying before page next count e) :
    e.nes.ppu.cpu.oamAddress = before.objectMemory.pointer := by
  rw [copying.cpu]
  rfl

/-- A finished copy is the copy of a page. -/
theorem Copying.objectMemory {before : Nes} {page : Byte} {next : ℕ} {e : Execution}
    (copying : Copying before page next 256 e) :
    e.nes.objectMemory = before.objectMemory.copyPage page := by
  apply ObjectMemory.ext
  · exact copying.oam.trans (ObjectMemory.copied_page _ _)
  · exact copying.pointer
  · exact copying.ram

/-- The cell of RAM under the DMA address is the byte of the page to copy. -/
theorem dmaCell_eq (before : Nes) (page : Byte) (count : ℕ) (inside : count < 256)
    (dma : nes.dma = ⟨true, page, BitVec.ofNat 8 count⟩)
    (ram : nes.mem.sysRam.mem = before.mem.sysRam.mem) :
    nes.dmaCell = before.objectMemory.pageCell page count := by
  have addr : (page ++ BitVec.ofNat 8 count).setWidth 11 =
      BitVec.ofNat 11 (256 * page.toNat + count) := by
    apply BitVec.eq_of_toNat_eq
    rw [BitVec.toNat_setWidth, toNat_append, BitVec.toNat_ofNat, BitVec.toNat_ofNat]
    omega
  rw [dmaCell, dma, ram, addr]
  rfl

/-- Each clock of a copy stores one more byte. -/
theorem Copying.step {before : Nes} {page : Byte} {next count : ℕ} {e : Execution}
    (ops : ℕ → CpuBus) (running : pins.Running) (reading : (ops next).rwN = true)
    (inside : count < 256) (copying : Copying before page next count e) :
    e.nes.cpuEnable pins = false ∧
      Copying before page next (count + 1) (e.step ops pins) := by
  have dma := copying.dma
  rw [if_neg (by omega)] at dma
  have active : e.nes.dma.dmaActive = true := by rw [dma]
  have disabled : e.nes.cpuEnable pins = false := by
    rw [cpuEnable, active, running.enable]
    rfl
  obtain ⟨dma', cpu', ram'⟩ := cpuClock_dmaCell running active reading
  have low : (BitVec.ofNat 8 count).toNat = count := by
    rw [BitVec.toNat_ofNat]
    exact Nat.mod_eq_of_lt inside
  rw [dmaCell_eq before page count inside dma copying.ram, dma, copying.pointer] at cpu'
  refine ⟨disabled, ?_, ?_, ?_, ?_, ?_⟩
  · rw [Execution.step, disabled]
    exact copying.next
  · rw [Execution.step, copying.next, dma', dma, low]
    by_cases last : count = 255
    · rw [if_pos last, if_pos (by omega)]
    · rw [if_neg last, if_neg (by omega), BitVec.ofNat_add]
      rfl
  · rw [Execution.step, copying.next, cpu', copying.cpu]
  · rw [Execution.step, copying.next, cpu', oamByte_writeOam, copying.oam]
    exact before.objectMemory.copied_succ page count inside
  · rw [Execution.step, copying.next]
    exact ram'.trans copying.ram

/-- Where the processor makes its bus cycle: with no DMA, and object memory as given. -/
structure Presenting (n : ℕ) (m : ObjectMemory) (e : Execution) : Prop where
  /-- The processor presents this bus cycle. -/
  next : e.next = n
  /-- No DMA runs. -/
  free : e.nes.dma.dmaActive = false
  /-- The next DMA starts with the first byte of its page. -/
  low : e.nes.dma.dmaAddrLow = 0
  /-- Object memory is as it should be. -/
  objectMemory : e.nes.objectMemory = m

/-- A run of the processor is extended by one CPU clock at its end. -/
theorem execute_succ (ops : ℕ → CpuBus) (pins : ℕ → Pins) (start : Nes) (t : ℕ) :
    execute ops pins start (t + 1) = (execute ops pins start t).step ops (pins t) := rfl

/-- The clocks of a copy, from the write of `$4014` that starts it. -/
theorem copying_of_starts (ops : ℕ → CpuBus) (pins : ℕ → Pins) (start : Nes) (n t count : ℕ)
    (running : ∀ i, (pins i).Running) {m : ObjectMemory} (starts : (ops n).startsDma = true)
    (reading : (ops (n + 1)).rwN = true)
    (presenting : Presenting n m (execute ops pins start t)) (inside : count ≤ 256) :
    Copying (execute ops pins start t).nes (ops n).dataOut (n + 1) count
      (execute ops pins start (t + 1 + count)) := by
  obtain ⟨next, free, low, -⟩ := presenting
  induction count with
  | zero =>
    rw [← next] at starts
    have copying := Copying.start ops (execute ops pins start t) (running t) free low starts
    rw [next] at copying
    exact copying
  | succ count ih =>
    have copying := ih (by omega)
    exact (copying.step ops (running (t + 1 + count)) reading (by omega)).2

/-- One bus cycle of the processor, with the copy it starts. -/
theorem Presenting.cycle (ops : ℕ → CpuBus) (pins : ℕ → Pins) (start : Nes) (n t : ℕ)
    (running : ∀ i, (pins i).Running) {m : ObjectMemory}
    (reading : (ops n).startsDma = true → (ops (n + 1)).rwN = true)
    (presenting : Presenting n m (execute ops pins start t)) :
    Presenting (n + 1) (m.cycle (ops n))
      (execute ops pins start (t + 1 + if (ops n).startsDma then 256 else 0)) := by
  cases starts : (ops n).startsDma with
  | false =>
    obtain ⟨next, free, low, memory⟩ := presenting
    have enabled : (execute ops pins start t).nes.cpuEnable (pins t) = true := by
      rw [cpuEnable, (running t).enable, free]
      rfl
    have dma : ((execute ops pins start t).nes.cpuClock (pins t) (ops n)).dma =
        (execute ops pins start t).nes.dma := cpuClock_free free starts
    have after := cpuClock_objectMemory (running t) free starts
    rw [if_neg Bool.false_ne_true, Nat.add_zero, execute_succ, Execution.step, next,
      if_pos enabled]
    exact ⟨rfl, by rw [dma, free], by rw [dma, low], by rw [after, memory]⟩
  | true =>
    have copying := copying_of_starts ops pins start n t 256 running starts (reading starts)
      presenting (Nat.le_refl 256)
    have dma := copying.dma
    rw [if_pos rfl] at dma
    rw [if_pos rfl, ObjectMemory.cycle_of_startsDma _ starts, ← presenting.objectMemory]
    exact ⟨copying.next, by rw [dma], by rw [dma], copying.objectMemory⟩

/-- The data a read of `$2004` returns. -/
theorem cpuDataBus_oam (free : nes.dma.dmaActive = false) (reading : bus.reads 4 = true) :
    (nes.sample pins bus).cpuDataBus pins bus =
      nes.objectMemory.oam nes.objectMemory.pointer := by
  obtain ⟨direction, inside, number⟩ := CpuBus.reads_iff.mp reading
  have free' : (nes.sample pins bus).dma.dmaActive = false := free
  have rden : ((nes.sample pins bus).cpuControl bus).rden = true := by
    simp [cpuControl, cpuPpuRden, free, direction, inside]
  have register : ((nes.sample pins bus).cpuControl bus).addr.toNat = 4 :=
    bus.register_toNat.trans number
  rw [cpuDataBus, free', direction, inside, Ppu.cpuDataOut, rden, register]
  rfl

/-- Over every sequence of bus cycles in which a read follows each write of `$4014`, object
memory, its pointer and RAM are the abstract ones where each bus cycle takes effect. A read
of `$2004` returns the byte under the pointer. A write of `$4014` freezes the processor for
the next 256 CPU clocks and no longer, and changes nothing but object memory in the CPU
interface. -/
theorem objectMemory_refines (ops : ℕ → CpuBus) (pins : ℕ → Pins) (start : Nes) (n : ℕ)
    (running : ∀ i, (pins i).Running)
    (reading : ∀ i ≤ n, (ops i).startsDma = true → (ops (i + 1)).rwN = true)
    (free : start.dma.dmaActive = false) (low : start.dma.dmaAddrLow = 0) :
    let reference := ObjectMemory.run ops start.objectMemory
    let now := execute ops pins start (clockOf ops n)
    let after := execute ops pins start (clockOf ops (n + 1))
    now.next = n ∧ now.nes.dma.dmaActive = false ∧ now.nes.dma.dmaAddrLow = 0 ∧
      now.nes.objectMemory = reference n ∧
      now.nes.cpuEnable (pins (clockOf ops n)) = true ∧
      ((ops n).reads 4 = true →
        (now.nes.sample (pins (clockOf ops n)) (ops n)).cpuDataBus
          (pins (clockOf ops n)) (ops n) = (reference n).oam (reference n).pointer) ∧
      ((ops n).startsDma = true →
        clockOf ops (n + 1) = clockOf ops n + 1 + 256 ∧
        (∀ count < 256, (execute ops pins start (clockOf ops n + 1 + count)).nes.cpuEnable
          (pins (clockOf ops n + 1 + count)) = false) ∧
        after.next = n + 1 ∧ after.nes.dma.dmaActive = false ∧ after.nes.dma.dmaAddrLow = 0 ∧
        (∀ offset < 256,
          after.nes.objectMemory.oam ((reference n).pointer + BitVec.ofNat 8 offset) =
            (reference n).ram (BitVec.ofNat 11 (256 * (ops n).dataOut.toNat + offset))) ∧
        after.nes.ppu.cpu = { now.nes.ppu.cpu with oam := after.nes.ppu.cpu.oam } ∧
        after.nes.mem.sysRam.mem = now.nes.mem.sysRam.mem) := by
  have presenting (i : ℕ) (le : i ≤ n + 1) :
      Presenting i (ObjectMemory.run ops start.objectMemory i)
        (execute ops pins start (clockOf ops i)) := by
    induction i with
    | zero => exact ⟨rfl, free, low, rfl⟩
    | succ i ih =>
      exact (ih (by omega)).cycle ops pins start i (clockOf ops i) running (reading i (by omega))
  intro reference now after
  obtain ⟨next, free', low', memory⟩ := presenting n (Nat.le_succ n)
  have enabled : now.nes.cpuEnable (pins (clockOf ops n)) = true := by
    rw [cpuEnable, (running _).enable, free']
    rfl
  refine ⟨next, free', low', memory, enabled, fun read => ?_, fun starts => ?_⟩
  · rw [cpuDataBus_oam free' read, memory]
  · have clock : clockOf ops (n + 1) = clockOf ops n + 1 + 256 := by
      rw [clockOf, if_pos starts]
    have copying (count : ℕ) (inside : count ≤ 256) :=
      copying_of_starts ops pins start n (clockOf ops n) count running starts
        (reading n (Nat.le_refl n) starts) (presenting n (Nat.le_succ n)) inside
    have last := copying 256 (Nat.le_refl 256)
    rw [← clock] at last
    obtain ⟨next', free'', low'', -⟩ := presenting (n + 1) (Nat.le_refl (n + 1))
    refine ⟨clock, fun count inside => ?_, next', free'', low'', fun offset inside => ?_,
      last.cpu, last.ram⟩
    · exact ((copying count (Nat.le_of_lt inside)).step ops (running _)
        (reading n (Nat.le_refl n) starts) inside).1
    · rw [last.objectMemory, memory]
      exact ObjectMemory.copyPage_cell _ _ offset inside

/-- A byte of RAM and a byte of object memory written, and page 2 copied. -/
def pageCopy : ℕ → CpuBus
  | 0 => ⟨0x2003, 0xFE, false⟩
  | 1 => ⟨0x2004, 0x5A, false⟩
  | 2 => ⟨0x0203, 0x77, false⟩
  | 3 => ⟨0x4014, 0x02, false⟩
  | _ => ⟨0x8000, 0, true⟩

/-- After power-up the copy ends 257 clocks after it was asked for, and byte 3 of the page is
three bytes past the pointer, at the start of object memory. -/
theorem pageCopy_refines :
    clockOf pageCopy 4 = 260 ∧
      (execute pageCopy (fun _ => .playing) (powerUp .blank) 259).nes.cpuEnable .playing =
        false ∧
      (execute pageCopy (fun _ => .playing) (powerUp .blank) 260).nes.objectMemory.oam 0x02 =
        0x77 := by
  obtain ⟨-, -, -, -, -, -, copy⟩ := objectMemory_refines pageCopy (fun _ => .playing)
    (powerUp .blank) 3 (fun _ => ⟨rfl, rfl⟩)
    (fun i le => by rcases i with _ | _ | _ | _ | i <;> first | decide | omega) rfl rfl
  obtain ⟨clock, frozen, -, -, -, cells, -⟩ := copy (by decide)
  refine ⟨clock, frozen 255 (by decide), ?_⟩
  exact (cells 3 (by decide)).trans (by decide +kernel)

end Nes

end FpgaNes
