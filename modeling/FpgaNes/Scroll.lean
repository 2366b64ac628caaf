import FpgaNes.Bus

/-!
# Scroll and address registers

`$2000`, `$2005`, `$2006` and `$2002` act on a temporary address `t`, a fine scroll `x`,
a write toggle `w` and, one PPU clock later and in the other clock domain, on the VRAM
address `v`. The abstract registers here follow the rules as they are usually given, on
raw bits; the console refines them over every run of bus cycles.
-/

namespace FpgaNes

open Hdl

/-- The abstract scroll registers. -/
@[ext]
structure ScrollRegisters where
  /-- The address that is being written. -/
  t : BitVec 15
  /-- The fine X. -/
  x : BitVec 3
  /-- The write toggle. -/
  w : Bool
  /-- The address in use. -/
  v : BitVec 15

namespace ScrollRegisters

/-- `$2000`: bits 1 and 0 are the nametable bits of `t`. -/
def writeControl (r : ScrollRegisters) (data : Byte) : ScrollRegisters :=
  { r with t := r.t.extractLsb' 12 3 ++ data.extractLsb' 0 2 ++ r.t.extractLsb' 0 10 }

/-- `$2005`: coarse X and fine X first, coarse Y and fine Y second. -/
def writeScroll (r : ScrollRegisters) (data : Byte) : ScrollRegisters :=
  if r.w then
    { r with
      t := data.extractLsb' 0 3 ++ r.t.extractLsb' 10 2 ++ data.extractLsb' 3 5 ++
        r.t.extractLsb' 0 5
      w := false }
  else
    { r with
      t := r.t.extractLsb' 5 10 ++ data.extractLsb' 3 5
      x := data.extractLsb' 0 3
      w := true }

/-- `$2006`: the high six bits first, clearing bit 14; the low byte second, and then `v`
is loaded from `t`. -/
def writeAddress (r : ScrollRegisters) (data : Byte) : ScrollRegisters :=
  if r.w then
    { r with
      t := r.t.extractLsb' 8 7 ++ data
      v := r.t.extractLsb' 8 7 ++ data
      w := false }
  else { r with t := 0#1 ++ data.extractLsb' 0 6 ++ r.t.extractLsb' 0 8, w := true }

/-- `$2002`: reading the status clears the toggle. -/
def readStatus (r : ScrollRegisters) : ScrollRegisters := { r with w := false }

/-- The rule for one bus cycle. -/
def cycle (bus : CpuBus) (r : ScrollRegisters) : ScrollRegisters :=
  if bus.writes 0 then r.writeControl bus.dataOut
  else if bus.writes 5 then r.writeScroll bus.dataOut
  else if bus.writes 6 then r.writeAddress bus.dataOut
  else if bus.reads 2 then r.readStatus
  else r

/-- The registers after each number of bus cycles. -/
def run (io : ℕ → Input) (start : ScrollRegisters) : ℕ → ScrollRegisters :=
  trace (fun input r => r.cycle input.bus) io start

end ScrollRegisters

/-- A bus cycle that is idle, writes `$2000`, `$2005` or `$2006`, or reads `$2002`. -/
def CpuBus.scrolls (bus : CpuBus) : Bool :=
  bus.idle || bus.writes 0 || bus.writes 5 || bus.writes 6 || bus.reads 2

namespace LoopyReg

/-- The nametable fields are bits 11 and 10. -/
theorem bits_setNametables (t : LoopyReg) (data : Byte) :
    ({ t with nametableY := data.getLsbD 1, nametableX := data.getLsbD 0 } : LoopyReg).bits =
      t.bits.extractLsb' 12 3 ++ data.extractLsb' 0 2 ++ t.bits.extractLsb' 0 10 := by
  apply BitVec.eq_of_toNat_eq
  have bounds := t.bounds
  simp only [toNat_append, toNat_slice, bits_toNat, toNat_bit]
  omega

/-- The coarse X field is bits 4 to 0. -/
theorem bits_setCoarseX (t : LoopyReg) (column : BitVec 5) :
    ({ t with coarseX := column } : LoopyReg).bits = t.bits.extractLsb' 5 10 ++ column := by
  apply BitVec.eq_of_toNat_eq
  have bounds := t.bounds
  simp only [toNat_append, toNat_slice, bits_toNat]
  omega

/-- The fine Y and coarse Y fields are bits 14 to 12 and 9 to 5. -/
theorem bits_setRows (t : LoopyReg) (row : BitVec 5) (fine : BitVec 3) :
    ({ t with coarseY := row, fineY := fine } : LoopyReg).bits =
      fine ++ t.bits.extractLsb' 10 2 ++ row ++ t.bits.extractLsb' 0 5 := by
  apply BitVec.eq_of_toNat_eq
  have bounds := t.bounds
  simp only [toNat_append, toNat_slice, bits_toNat]
  omega

end LoopyReg

/-- The scroll registers the CPU interface holds, with a VRAM address. -/
def CpuInterface.scroll (r : CpuInterface) (v : BitVec 15) : ScrollRegisters :=
  ⟨r.tempVramAddress.bits, r.fineX, r.ppuLatch, v⟩

/-- A write of `$2000`, `$2005` or `$2006` on the CPU interface follows the rule for it,
when `v` takes the new `t` on the write that asks for a load. -/
theorem CpuInterface.write_scroll (r : CpuInterface) (addr : BitVec 3) (data : Byte)
    (v : BitVec 15) :
    (addr.toNat = 0 → (r.write addr data).scroll v = (r.scroll v).writeControl data) ∧
      (addr.toNat = 5 → (r.write addr data).scroll v = (r.scroll v).writeScroll data) ∧
      (addr.toNat = 6 →
        (r.write addr data).scroll
            (if r.ppuLatch then (r.write addr data).tempVramAddress.bits else v) =
          (r.scroll v).writeAddress data) := by
  refine ⟨fun number => ?_, fun number => ?_, fun number => ?_⟩
  · simp only [write, number, scroll, ScrollRegisters.writeControl,
      LoopyReg.bits_setNametables]
  · cases latch : r.ppuLatch
    · simp [write, number, scroll, ScrollRegisters.writeScroll, latch, LoopyReg.bits_setCoarseX]
    · simp [write, number, scroll, ScrollRegisters.writeScroll, latch, LoopyReg.bits_setRows]
  · cases latch : r.ppuLatch <;>
      simp [write, number, scroll, ScrollRegisters.writeAddress, latch]

namespace Ppu

/-- The VRAM address once a waiting load has been performed. -/
def loadedAddress (ppu : Ppu) : LoopyReg :=
  if ppu.waiting .load then ppu.cpu.tempVramAddress else ppu.vram.activeVramAddress

/-- The abstract scroll registers of the console. -/
def scroll (ppu : Ppu) : ScrollRegisters := ppu.cpu.scroll ppu.loadedAddress.bits

/-- No access of `$2007` is waiting. -/
structure NoAccess (ppu : Ppu) : Prop where
  /-- No write waits. -/
  write : ppu.waiting .write = false
  /-- No read waits. -/
  read : ppu.waiting .read = false
  /-- No increment waits. -/
  inc : ppu.waiting .inc = false

/-- A quiet PPU has no access waiting. -/
theorem Quiet.noAccess {ppu : Ppu} (quiet : ppu.Quiet) : ppu.NoAccess :=
  ⟨quiet .write, quiet .read, quiet .inc⟩

/-- With no access waiting and rendering disabled, an edge of the PPU clock performs a
waiting load and changes the VRAM address no other way. -/
theorem vramNext_loads (ppu : Ppu) (none : ppu.NoAccess) (blanked : ppu.renderEnable = false) :
    (ppu.vramNext false).activeVramAddress = ppu.loadedAddress := by
  have write : ppu.writePending = false := none.write
  have read : ppu.readPending = false := none.read
  have inc : ppu.incPending = false := none.inc
  have load : ppu.waiting .load = ppu.loadPending := rfl
  cases waiting : ppu.loadPending <;>
    simp [vramNext, loadedAddress, load, waiting, write, read, inc, blanked]

end Ppu

namespace Nes

variable {pins : Pins} {bus : CpuBus} {nes : Nes}

/-- A bus cycle on the scroll registers asks for no access of `$2007`. -/
theorem asks_of_scrolls (latch : Bool) (scrolls : bus.scrolls = true) :
    bus.asks latch .write = false ∧ bus.asks latch .read = false ∧
      bus.asks latch .inc = false := by
  simp only [CpuBus.asks, CpuBus.writes, CpuBus.reads]
  simp only [CpuBus.scrolls, CpuBus.idle, CpuBus.writes, CpuBus.reads, Bool.or_eq_true,
    Bool.and_eq_true, Bool.not_eq_true', beq_iff_eq] at scrolls
  rcases scrolls with (((quiet | h) | h) | h) | h
  · simp [quiet.1]
  all_goals simp [h]

/-- One period of the PPU clock inside a bus cycle: with no access waiting, the load is
performed and nothing new waits. -/
theorem ppuClock_loads (bus : CpuBus) (running : pins.Running) (none : nes.ppu.NoAccess) :
    (nes.ppuClock pins bus false).ppu.NoAccess ∧
      (nes.ppuClock pins bus false).ppu.waiting .load = false ∧
      (nes.ppu.renderEnable = false →
        (nes.ppuClock pins bus false).ppu.vram.activeVramAddress = nes.ppu.loadedAddress) := by
  have waits := waiting_ppuClock bus nes running false
  refine ⟨⟨?_, ?_, ?_⟩, ?_, fun blanked => ?_⟩
  · rw [waits, none.write]; rfl
  · rw [waits, none.read]; rfl
  · rw [waits, none.inc]; rfl
  · rw [waits]
    simp [ready, Ppu.ready, none.write, none.read]
  · rw [ppuClock_vram, running.reset]
    exact Ppu.vramNext_loads nes.ppu none blanked

/-- Just before the edge that ends a bus cycle the load has been performed. -/
theorem sample_loads (bus : CpuBus) (running : pins.Running) (none : nes.ppu.NoAccess) :
    (nes.sample pins bus).ppu.NoAccess ∧ (nes.sample pins bus).ppu.waiting .load = false ∧
      (nes.ppu.renderEnable = false →
        (nes.sample pins bus).ppu.vram.activeVramAddress = nes.ppu.loadedAddress) := by
  obtain ⟨none₁, done₁, loaded₁⟩ := ppuClock_loads bus running none
  obtain ⟨none₂, done₂, loaded₂⟩ := ppuClock_loads bus running none₁
  refine ⟨none₂, done₂, fun blanked => ?_⟩
  have kept := loaded₂ blanked
  rw [Ppu.loadedAddress, done₁] at kept
  exact kept.trans (loaded₁ blanked)

/-- After a bus cycle on the scroll registers a load waits exactly when it was asked for. -/
theorem cpuClock_waiting (running : pins.Running) (scrolls : bus.scrolls = true)
    (none : nes.ppu.NoAccess) (free : nes.dma.dmaActive = false) :
    (nes.cpuClock pins bus).ppu.NoAccess ∧
      (nes.cpuClock pins bus).ppu.waiting .load = (bus.writes 6 && nes.ppu.cpu.ppuLatch) := by
  obtain ⟨none', done, -⟩ := sample_loads bus running none
  obtain ⟨write, read, inc⟩ := asks_of_scrolls nes.ppu.cpu.ppuLatch scrolls
  have waits := waiting_cpuClock bus nes running
  simp only [asks_of_free free] at waits
  refine ⟨⟨?_, ?_, ?_⟩, ?_⟩
  · rw [waits, write, none'.write]; rfl
  · rw [waits, read, none'.read]; rfl
  · rw [waits, inc, none'.inc]; rfl
  · rw [waits, done, Bool.false_and, Bool.xor_false, CpuBus.asks]

/-- The scroll registers of the CPU interface after a bus cycle: `v` takes the new `t` when
a load is asked for. -/
theorem cpuClock_cycle (running : pins.Running) (scrolls : bus.scrolls = true)
    (free : nes.dma.dmaActive = false) (v : BitVec 15) :
    (nes.cpuClock pins bus).ppu.cpu.scroll
        (if bus.writes 6 && nes.ppu.cpu.ppuLatch then
          (nes.cpuClock pins bus).ppu.cpu.tempVramAddress.bits else v) =
      (nes.ppu.cpu.scroll v).cycle bus := by
  have rules := CpuInterface.write_scroll nes.ppu.cpu (bus.addr.setWidth 3) bus.dataOut v
  simp only [CpuBus.scrolls, Bool.or_eq_true] at scrolls
  rcases scrolls with (((idle | control) | scroll) | address) | status
  · have outside := (CpuBus.idle_iff.mp idle).1
    rw [cpuClock_of_outside nes running free outside]
    simp [ScrollRegisters.cycle, CpuBus.writes, CpuBus.reads, outside]
  · obtain ⟨after, number⟩ := cpuClock_of_writes nes running free control
    have other := CpuBus.writes_other control (show 0 ≠ 6 by decide)
    rw [after, other, ScrollRegisters.cycle, if_pos control]
    exact rules.1 number
  · obtain ⟨after, number⟩ := cpuClock_of_writes nes running free scroll
    have address := CpuBus.writes_other scroll (show 5 ≠ 6 by decide)
    have control := Bool.eq_false_iff.mp (CpuBus.writes_other scroll (show 5 ≠ 0 by decide))
    rw [after, address, ScrollRegisters.cycle, if_neg control, if_pos scroll]
    exact rules.2.1 number
  · obtain ⟨after, number⟩ := cpuClock_of_writes nes running free address
    have control := Bool.eq_false_iff.mp (CpuBus.writes_other address (show 6 ≠ 0 by decide))
    have scroll := Bool.eq_false_iff.mp (CpuBus.writes_other address (show 6 ≠ 5 by decide))
    rw [after, address, ScrollRegisters.cycle, if_neg control, if_neg scroll, if_pos address,
      Bool.true_and]
    exact rules.2.2 number
  · obtain ⟨after, number⟩ := cpuClock_of_reads nes running free status
    have reading := (CpuBus.reads_iff.mp status).1
    rw [after]
    simp [ScrollRegisters.cycle, CpuBus.writes, reading, status, CpuInterface.read, number,
      CpuInterface.scroll, ScrollRegisters.readStatus]

/-- A bus cycle on the scroll registers starts no DMA. -/
theorem scrolls_startsDma (scrolls : bus.scrolls = true) : bus.startsDma = false := by
  simp only [CpuBus.scrolls, Bool.or_eq_true] at scrolls
  rcases scrolls with (((idle | access) | access) | access) | access
  · exact (CpuBus.idle_iff.mp idle).2
  · exact CpuBus.startsDma_of_range (CpuBus.writes_iff.mp access).2.1
  · exact CpuBus.startsDma_of_range (CpuBus.writes_iff.mp access).2.1
  · exact CpuBus.startsDma_of_range (CpuBus.writes_iff.mp access).2.1
  · exact CpuBus.startsDma_of_range (CpuBus.reads_iff.mp access).2.1

/-- A bus cycle on the scroll registers does not write `$2001`. -/
theorem scrolls_mask (scrolls : bus.scrolls = true) : bus.writes 1 = false := by
  simp only [CpuBus.scrolls, CpuBus.idle, CpuBus.writes, CpuBus.reads, Bool.or_eq_true,
    Bool.and_eq_true, Bool.not_eq_true', beq_iff_eq] at scrolls
  rcases scrolls with (((h | h) | h) | h) | h <;> simp [CpuBus.writes, h]

/-- The refinement relation, after an edge of the CPU clock. -/
structure Scrolls (start nes : Nes) (r : ScrollRegisters) : Prop where
  /-- No DMA runs. -/
  free : nes.dma.dmaActive = false
  /-- No access of `$2007` waits. -/
  none : nes.ppu.NoAccess
  /-- The enables stay as they were. -/
  enables : nes.ppu.renderEnable = start.ppu.renderEnable
  /-- The registers are those of the reference. -/
  registers : nes.ppu.cpu.scroll r.v = r
  /-- With rendering off so is the address in use, once a waiting load is made. -/
  address : start.ppu.renderEnable = false → nes.ppu.loadedAddress.bits = r.v

/-- One bus cycle keeps the refinement. -/
theorem Scrolls.step {start : Nes} {r : ScrollRegisters} (running : pins.Running)
    (scrolls : bus.scrolls = true) (related : Scrolls start nes r) :
    Scrolls start (nes.cpuClock pins bus) (r.cycle bus) := by
  obtain ⟨none', waits⟩ := cpuClock_waiting running scrolls related.none related.free
  have cycle := cpuClock_cycle running scrolls related.free r.v
  rw [related.registers] at cycle
  have enables := cpuClock_enables nes running related.free (scrolls_mask scrolls)
  refine ⟨?_, none', enables.trans related.enables, ?_, fun blanked => ?_⟩
  · rw [cpuClock_free related.free (scrolls_startsDma scrolls)]
    exact related.free
  · rw [← cycle]
    rfl
  · have still : nes.ppu.renderEnable = false := related.enables.trans blanked
    have held : (nes.cpuClock pins bus).ppu.vram.activeVramAddress =
        nes.ppu.loadedAddress := by
      obtain ⟨none₁, done₁, loaded₁⟩ := sample_loads bus running related.none
      have edge : (nes.cpuClock pins bus).ppu.vram =
          (nes.sample pins bus).ppu.vramNext pins.reset := rfl
      have last := Ppu.vramNext_loads (nes.sample pins bus).ppu none₁ still
      rw [edge, running.reset, last, Ppu.loadedAddress, done₁]
      exact loaded₁ still
    rw [← cycle, Ppu.loadedAddress, waits, held, apply_ite LoopyReg.bits,
      related.address blanked]
    rfl

/-- Over every run of bus cycles that are idle, write `$2000`, `$2005` or `$2006` or read
`$2002`, the temporary address, the fine scroll and the write toggle are the abstract ones
after each CPU edge, with rendering on or off; with rendering off the VRAM address is the
abstract one before the next CPU edge. -/
theorem scroll_refines (io : ℕ → Input) (start : Nes) (n : ℕ)
    (running : ∀ i ≤ n, (io i).pins.Running) (scrolls : ∀ i ≤ n, (io i).bus.scrolls = true)
    (quiet : start.ppu.Quiet) (free : start.dma.dmaActive = false) :
    let reference := ScrollRegisters.run io start.ppu.scroll n
    let nes := cpuRun io start n
    nes.ppu.cpu.tempVramAddress.bits = reference.t ∧ nes.ppu.cpu.fineX = reference.x ∧
      nes.ppu.cpu.ppuLatch = reference.w ∧
      (start.ppu.renderEnable = false →
        (nes.sample (io n).pins (io n).bus).ppu.vram.activeVramAddress.bits =
          reference.v) := by
  have related : Scrolls start (cpuRun io start n)
      (ScrollRegisters.run io start.ppu.scroll n) :=
    trace_simulation (fun _ nes r => Scrolls start nes r)
      ⟨free, quiet.noAccess, rfl, rfl, fun _ => rfl⟩ n
      fun i below related =>
        related.step (running i (Nat.le_of_lt below)) (scrolls i (Nat.le_of_lt below))
  have registers := related.registers
  refine ⟨congrArg ScrollRegisters.t registers, congrArg ScrollRegisters.x registers,
    congrArg ScrollRegisters.w registers, fun blanked => ?_⟩
  have loads := (sample_loads (io n).bus (running n (Nat.le_refl n))
    related.none).2.2 (related.enables.trans blanked)
  rw [loads]
  exact related.address blanked

/-- A full pair of scroll writes, a nametable write and half an address write. -/
def scrollWrites : ℕ → Input
  | 0 => .write 0x2005 0x7D
  | 1 => .write 0x2005 0x5E
  | 2 => .write 0x2000 0x03
  | 3 => .write 0x2006 0x21
  | _ => .read 0x8000

/-- After power-up these writes leave the fields they name in `t` and nothing in `v`. -/
theorem scrollWrites_refine :
    let nes := cpuRun scrollWrites (powerUp .blank) 4
    nes.ppu.cpu.tempVramAddress.bits = 0x216F ∧ nes.ppu.cpu.fineX = 5 ∧
      nes.ppu.cpu.ppuLatch = true ∧
      (nes.sample .playing ⟨0x8000, 0, true⟩).ppu.vram.activeVramAddress.bits = 0 := by
  have run := scroll_refines scrollWrites (powerUp .blank) 4
    (fun i _ => by rcases i with _ | _ | _ | _ | i <;> exact ⟨rfl, rfl⟩)
    (fun i _ => by
      have after : (Input.read 0x8000).bus.scrolls = true := by decide
      rcases i with _ | _ | _ | _ | i
      all_goals exact after)
    (fun l => by cases l <;> rfl) rfl
  exact ⟨run.1, run.2.1, run.2.2.1, run.2.2.2 rfl⟩

end Nes

end FpgaNes
