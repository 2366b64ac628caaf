import FpgaNes.Scroll
import FpgaNes.Requests

/-!
# The memory port of the PPU

`$2006` and `$2007` are a window onto the PPU bus. The abstract port here is a memory map
with an address that advances after each access and a one-byte read buffer: a read
returns the buffer and refills it from the address. The console performs each access over
two periods of the PPU clock after the bus cycle that makes it. With rendering disabled it
refines the abstract port over every run of bus cycles.
-/

namespace FpgaNes

open Hdl

/-- The abstract memory port. -/
structure MemoryPort where
  /-- The scroll registers, `v` among them. -/
  scroll : ScrollRegisters
  /-- The address advances by 32, not by 1. -/
  down : Bool
  /-- The read buffer. -/
  buffer : Byte
  /-- The memories of the PPU bus. -/
  mem : PpuMemory

namespace MemoryPort

/-- The bus address under `v`. -/
def addr (port : MemoryPort) : ℕ := port.scroll.v.toNat % 0x4000

/-- `v` past the access: across by one or down by a row. -/
def advance (port : MemoryPort) : ScrollRegisters :=
  { port.scroll with v := port.scroll.v + if port.down then 32 else 1 }

/-- The rule for one bus cycle. -/
def cycle (header : Header) (bus : CpuBus) (port : MemoryPort) : MemoryPort :=
  if bus.writes 7 then
    { port with scroll := port.advance, mem := port.mem.write header port.addr bus.dataOut }
  else if bus.reads 7 then
    { port with scroll := port.advance, buffer := port.mem.read header port.addr }
  else
    { port with
      scroll := port.scroll.cycle bus
      down := if bus.writes 0 then bus.dataOut.getLsbD 2 else port.down }

/-- The port after each number of bus cycles. -/
def run (header : Header) (io : ℕ → Input) (start : MemoryPort) : ℕ → MemoryPort :=
  trace (fun input port => port.cycle header input.bus) io start

/-- A read refills the buffer, and nothing else does. -/
theorem cycle_buffer (header : Header) (bus : CpuBus) (port : MemoryPort) :
    (port.cycle header bus).buffer =
      if bus.reads 7 then port.mem.read header port.addr else port.buffer := by
  rw [cycle]
  cases written : bus.writes 7 with
  | true =>
    have unread : bus.reads 7 = false := by
      simp [CpuBus.reads, (CpuBus.writes_iff.mp written).1]
    rw [unread]
    rfl
  | false =>
    cases bus.reads 7 with
    | true => rfl
    | false => rfl

end MemoryPort

/-- An access of `$2007`. -/
def CpuBus.accessesData (bus : CpuBus) : Bool := bus.writes 7 || bus.reads 7

/-- A bus cycle of the memory port: one on the scroll registers, or an access of `$2007`. -/
def CpuBus.ports (bus : CpuBus) : Bool := bus.scrolls || bus.accessesData

/-- Two consecutive register accesses are to one register. -/
def CpuBus.SameRegister (bus next : CpuBus) : Prop :=
  Nes.ppuRange bus.addr = true → Nes.ppuRange next.addr = true →
    bus.addr.toNat % 8 = next.addr.toNat % 8

namespace Ppu

/-- With rendering disabled and no live palette read, the access handler after an edge. -/
theorem accessNext_blanked (ppu : Ppu) (port : CpuPort) (data : Byte)
    (blanked : ppu.renderEnable = false) (buffered : ppu.cpuFramePaletteRead port = false) :
    ppu.accessNext false true port data =
      { ppuRead := ppu.waiting .read
        ppuWrite := ppu.waiting .write
        ppuWriteHandle := ppu.access.ppuWriteHandle ^^ ppu.waiting .write
        ppuReadHandle := ppu.access.ppuReadHandle ^^ ppu.waiting .read
        oneAfterRead := !ppu.access.oneAfterRead && ppu.waiting .read
        ppuReadBuffer := if ppu.access.oneAfterRead then data else ppu.access.ppuReadBuffer } := by
  rw [waiting_write, waiting_read]
  cases w : ppu.writePending <;> cases r : ppu.readPending <;>
    cases one : ppu.access.oneAfterRead <;>
    simp [accessNext, writeHalf, readHalf, ppuWriteRequest, ppuReadRequest, blanked, buffered,
      w, r, one]

/-- With rendering disabled, the VRAM address after an edge. -/
theorem vramNext_blanked (ppu : Ppu) (blanked : ppu.renderEnable = false) :
    (ppu.vramNext false).activeVramAddress =
      if ppu.waiting .write || ppu.waiting .read then ppu.vram.activeVramAddress
      else if ppu.waiting .load then ppu.cpu.tempVramAddress
      else if ppu.waiting .inc then ppu.incremented
      else ppu.vram.activeVramAddress := by
  rw [waiting_write, waiting_read, waiting_load, waiting_inc]
  cases w : ppu.writePending <;> cases r : ppu.readPending <;> cases l : ppu.loadPending <;>
    cases i : ppu.incPending <;> simp [vramNext, blanked, w, r, l, i]

/-- With rendering disabled the PPU bus carries the low bits of the VRAM address. -/
theorem ppuAddr_blanked (ppu : Ppu) (blanked : ppu.renderEnable = false) :
    ppu.ppuAddr.toNat = ppu.vram.activeVramAddress.bits.toNat % 0x4000 := by
  simp only [ppuAddr, blanked, Bool.not_false, if_true]
  exact BitVec.toNat_setWidth 14 _

/-- With rendering disabled a read of `$2007` below the palette is not live. -/
theorem buffered_of_below (ppu : Ppu) (port : CpuPort) (blanked : ppu.renderEnable = false)
    (below : (port.rden && port.addr.toNat == 7) = true →
      ppu.vram.activeVramAddress.bits.toNat % 0x4000 < 0x3F00) :
    ppu.cpuFramePaletteRead port = false := by
  rw [cpuFramePaletteRead, ppuAddr_blanked ppu blanked]
  cases reading : (port.rden && port.addr.toNat == 7) with
  | false => rfl
  | true =>
    have low := below reading
    simp only [Bool.true_and, decide_eq_false_iff_not]
    omega

end Ppu

namespace Nes

variable {pins : Pins} {bus : CpuBus} {nes : Nes} {port : MemoryPort}

/-- A live palette read needs a read of `$2007`. -/
theorem control_reads (nes : Nes) (bus : CpuBus) :
    ((nes.cpuControl bus).rden && (nes.cpuControl bus).addr.toNat == 7) = true →
      bus.reads 7 = true := by
  simp only [cpuControl, cpuPpuRden, CpuBus.register_toNat, CpuBus.reads, Bool.and_eq_true]
  exact fun h => ⟨⟨h.1.1.2, h.1.2⟩, h.2⟩

/-- The console just before the last dot of a bus cycle: nothing waits, no store is in flight,
and registers and memories are those of the abstract port, its buffer apart. -/
structure PortSettled (nes : Nes) (port : MemoryPort) : Prop where
  /-- No DMA runs. -/
  free : nes.dma.dmaActive = false
  /-- Rendering is disabled. -/
  blanked : nes.ppu.renderEnable = false
  /-- No request waits. -/
  quiet : nes.ppu.Quiet
  /-- No write is performed. -/
  pulse : nes.ppuWrite = false
  /-- The scroll registers are those of the port. -/
  scroll : nes.ppu.cpu.scroll nes.ppu.vram.activeVramAddress.bits = port.scroll
  /-- So is the direction of the increment. -/
  down : nes.ppu.cpu.addrIncrement = port.down
  /-- So are the memories. -/
  contents : nes.mem.contents = port.mem

/-- The console on the CPU edge that ends a bus cycle, with what the cycle asked for waiting. -/
structure PortRequested (nes : Nes) (bus : CpuBus) (port : MemoryPort) : Prop where
  /-- No DMA runs. -/
  free : nes.dma.dmaActive = false
  /-- Rendering is disabled. -/
  blanked : nes.ppu.renderEnable = false
  /-- What waits is what the bus cycle has asked for. -/
  waiting : ∀ l, nes.ppu.waiting l = bus.asks port.scroll.w l
  /-- It comes from one access. -/
  one : OneAccess nes.ppu
  /-- No write is performed. -/
  pulse : nes.ppuWrite = false
  /-- The address is that of the port. -/
  address : nes.ppu.vram.activeVramAddress.bits = port.scroll.v
  /-- The memories are those of the port. -/
  contents : nes.mem.contents = port.mem
  /-- What an access of `$2007` leaves to be performed. -/
  access : bus.accessesData = true →
    nes.ppu.cpu.scroll port.scroll.v = port.scroll ∧ nes.ppu.cpu.addrIncrement = port.down ∧
      (bus.writes 7 = true → nes.ppu.cpu.ppuWriteBuffer = bus.dataOut)
  /-- Any other cycle has acted on the registers of the port. -/
  other : bus.accessesData = false →
    nes.ppu.cpu.scroll (if bus.writes 6 && port.scroll.w then
        nes.ppu.cpu.tempVramAddress.bits else port.scroll.v) = port.scroll.cycle bus ∧
      nes.ppu.cpu.addrIncrement =
        if bus.writes 0 then bus.dataOut.getLsbD 2 else port.down

/-- The console at rest between two bus cycles: nothing waits, nothing is in flight, and
its registers and memories are those of the abstract port. -/
structure PortAtRest (nes : Nes) (port : MemoryPort) : Prop where
  /-- No DMA runs. -/
  free : nes.dma.dmaActive = false
  /-- Rendering is disabled. -/
  blanked : nes.ppu.renderEnable = false
  /-- No request waits. -/
  quiet : nes.ppu.Quiet
  /-- No write is performed. -/
  pulse : nes.ppuWrite = false
  /-- No read is performed. -/
  read : nes.ppu.access.ppuRead = false
  /-- No capture is due. -/
  capture : nes.ppu.access.oneAfterRead = false
  /-- The scroll registers are those of the port. -/
  scroll : nes.ppu.cpu.scroll nes.ppu.vram.activeVramAddress.bits = port.scroll
  /-- So is the direction of the increment. -/
  down : nes.ppu.cpu.addrIncrement = port.down
  /-- So is the read buffer. -/
  buffer : nes.ppu.access.ppuReadBuffer = port.buffer
  /-- So are the memories. -/
  contents : nes.mem.contents = port.mem

/-- The console on the CPU edge that ends a bus cycle: what the cycle asked for waits, and
everything the PPU clock drives is still as the abstract port was before the cycle. -/
structure PortAsked (nes : Nes) (bus : CpuBus) (port : MemoryPort) : Prop where
  /-- No DMA runs. -/
  free : nes.dma.dmaActive = false
  /-- Rendering is disabled. -/
  blanked : nes.ppu.renderEnable = false
  /-- What waits is what the bus cycle has asked for. -/
  waiting : ∀ l, nes.ppu.waiting l = bus.asks port.scroll.w l
  /-- It comes from one access. -/
  one : OneAccess nes.ppu
  /-- No write is performed. -/
  pulse : nes.ppuWrite = false
  /-- No read is performed. -/
  read : nes.ppu.access.ppuRead = false
  /-- No capture is due. -/
  capture : nes.ppu.access.oneAfterRead = false
  /-- The address is that of the port. -/
  address : nes.ppu.vram.activeVramAddress.bits = port.scroll.v
  /-- The read buffer is that of the port. -/
  buffer : nes.ppu.access.ppuReadBuffer = port.buffer
  /-- The memories are those of the port. -/
  contents : nes.mem.contents = port.mem
  /-- What an access of `$2007` leaves to be performed. -/
  access : bus.accessesData = true →
    nes.ppu.cpu.scroll port.scroll.v = port.scroll ∧ nes.ppu.cpu.addrIncrement = port.down ∧
      (bus.writes 7 = true → nes.ppu.cpu.ppuWriteBuffer = bus.dataOut)
  /-- Any other cycle has acted on the registers of the port. -/
  other : bus.accessesData = false →
    nes.ppu.cpu.scroll (if bus.writes 6 && port.scroll.w then
        nes.ppu.cpu.tempVramAddress.bits else port.scroll.v) = port.scroll.cycle bus ∧
      nes.ppu.cpu.addrIncrement =
        if bus.writes 0 then bus.dataOut.getLsbD 2 else port.down

/-- One period with rendering disabled stores what a write pulse carries, raises a pulse for a
waiting write and moves the VRAM address, whether a palette read is live or not. -/
theorem one_dot (nes : Nes) (bus : CpuBus) (cpuEdge : Bool) (running : pins.Running)
    (unprogrammed : pins.chrRomPrgmrWren = false) (blanked : nes.ppu.renderEnable = false) :
    let first := nes.ppuClock pins bus cpuEdge
    first.mem.contents = nes.stored pins ∧ first.ppuWrite = nes.ppu.waiting .write ∧
      first.ppu.vram.activeVramAddress =
        (if nes.ppu.waiting .write || nes.ppu.waiting .read then
          nes.ppu.vram.activeVramAddress
        else if nes.ppu.waiting .load then nes.ppu.cpu.tempVramAddress
        else if nes.ppu.waiting .inc then nes.ppu.incremented
        else nes.ppu.vram.activeVramAddress) := by
  intro first
  refine ⟨ppuClock_contents pins bus cpuEdge nes unprogrammed,
    ppuClock_pulse nes running cpuEdge, ?_⟩
  have vram : first.ppu.vram.activeVramAddress =
      (nes.ppu.vramNext false).activeVramAddress := by
    rw [← running.reset]
    rfl
  rw [vram, Ppu.vramNext_blanked _ blanked]

/-- Two periods in which no read is held up: the waiting requests of one bus cycle have all
been performed. -/
theorem two_dots (running : pins.Running) (unprogrammed : pins.chrRomPrgmrWren = false)
    (blanked : nes.ppu.renderEnable = false) (one : OneAccess nes.ppu)
    (free : ¬ HeldUp nes bus) :
    let first := nes.ppuClock pins bus false
    let second := first.ppuClock pins bus false
    second.ppu.Quiet ∧ second.ppuWrite = false ∧ second.mem.contents = first.stored pins ∧
      second.ppu.vram.activeVramAddress =
        (if nes.ppu.waiting .inc then first.ppu.incremented
        else first.ppu.vram.activeVramAddress) := by
  intro first second
  have waits : ∀ l, first.ppu.waiting l = if l = .inc then nes.ppu.waiting .inc else false :=
    first_of_free nes running one free
  obtain ⟨contents, pulse, address⟩ :=
    one_dot first bus false running unprogrammed blanked
  have write : first.ppu.waiting .write = false := by simp [waits]
  have read : first.ppu.waiting .read = false := by simp [waits]
  have load : first.ppu.waiting .load = false := by simp [waits]
  have inc : first.ppu.waiting .inc = nes.ppu.waiting .inc := by simp [waits]
  rw [write] at pulse
  rw [write, read, load, inc] at address
  exact ⟨(cycleServed_of_free nes running one free).agree, pulse, contents, address⟩

/-- Two periods with no live palette read: the accesses in flight and the waiting requests
of one bus cycle have all taken effect. -/
theorem two_periods (running : pins.Running) (unprogrammed : pins.chrRomPrgmrWren = false)
    (blanked : nes.ppu.renderEnable = false) (one : OneAccess nes.ppu)
    (buffered : nes.ppu.cpuFramePaletteRead (nes.cpuControl bus) = false)
    (buffered' : (nes.ppuClock pins bus false).ppu.cpuFramePaletteRead
      (nes.cpuControl bus) = false) :
    let first := nes.ppuClock pins bus false
    let second := first.ppuClock pins bus false
    second.ppu.Quiet ∧ second.ppuWrite = false ∧ second.ppu.access.ppuRead = false ∧
      second.ppu.access.oneAfterRead = false ∧
      second.mem.contents = first.stored pins ∧
      second.ppu.access.ppuReadBuffer =
        (if first.ppu.access.oneAfterRead then first.settledData pins bus
        else first.ppu.access.ppuReadBuffer) ∧
      second.ppu.vram.activeVramAddress =
        (if nes.ppu.waiting .inc then first.ppu.incremented
        else first.ppu.vram.activeVramAddress) := by
  intro first second
  have free : ¬ HeldUp nes bus := by
    rintro ⟨-, live⟩
    rw [buffered] at live
    contradiction
  obtain ⟨quiet, pulse, contents, address⟩ :=
    two_dots running unprogrammed blanked one free
  have read : first.ppu.waiting .read = false := by
    simp [first, first_of_free nes running one free]
  have access : second.ppu.access = first.ppu.accessNext false true (nes.cpuControl bus)
      (first.settledData pins bus) := by
    rw [← running.reset, ← running.enable]
    rfl
  rw [Ppu.accessNext_blanked first.ppu _ _ blanked buffered', read] at access
  refine ⟨quiet, pulse, ?_, ?_, contents, ?_, address⟩
  · rw [access]
  · rw [access, Bool.and_false]
  · rw [access]

/-- One period with rendering disabled and no live palette read. -/
theorem one_period (cpuEdge : Bool) (running : pins.Running)
    (unprogrammed : pins.chrRomPrgmrWren = false) (blanked : nes.ppu.renderEnable = false)
    (buffered : nes.ppu.cpuFramePaletteRead (nes.cpuControl bus) = false) :
    let first := nes.ppuClock pins bus cpuEdge
    first.mem.contents = nes.stored pins ∧ first.ppuWrite = nes.ppu.waiting .write ∧
      first.ppu.access.ppuRead = nes.ppu.waiting .read ∧
      first.ppu.access.oneAfterRead =
        (!nes.ppu.access.oneAfterRead && nes.ppu.waiting .read) ∧
      first.ppu.access.ppuReadBuffer =
        (if nes.ppu.access.oneAfterRead then nes.settledData pins bus
        else nes.ppu.access.ppuReadBuffer) ∧
      first.ppu.vram.activeVramAddress =
        (if nes.ppu.waiting .write || nes.ppu.waiting .read then
          nes.ppu.vram.activeVramAddress
        else if nes.ppu.waiting .load then nes.ppu.cpu.tempVramAddress
        else if nes.ppu.waiting .inc then nes.ppu.incremented
        else nes.ppu.vram.activeVramAddress) := by
  intro first
  obtain ⟨contents, pulse, address⟩ :=
    one_dot nes bus cpuEdge running unprogrammed blanked
  have access : first.ppu.access = nes.ppu.accessNext false true (nes.cpuControl bus)
      (nes.settledData pins bus) := by
    rw [← running.reset, ← running.enable]
    rfl
  rw [Ppu.accessNext_blanked _ _ _ blanked buffered] at access
  refine ⟨contents, pulse, ?_, ?_, ?_, address⟩
  · rw [access]
  · rw [access]
  · rw [access]

/-- A bus cycle of the memory port writes neither `$2001` nor `$4014`. -/
theorem ports_other (ports : bus.ports = true) :
    bus.writes 1 = false ∧ bus.startsDma = false := by
  simp only [CpuBus.ports, CpuBus.accessesData, Bool.or_eq_true] at ports
  rcases ports with scrolls | write | read
  · exact ⟨scrolls_mask scrolls, scrolls_startsDma scrolls⟩
  · obtain ⟨-, inside, number⟩ := CpuBus.writes_iff.mp write
    exact ⟨by simp [CpuBus.writes, number], CpuBus.startsDma_of_range inside⟩
  · obtain ⟨direction, inside, -⟩ := CpuBus.reads_iff.mp read
    exact ⟨by simp [CpuBus.writes, direction], CpuBus.startsDma_of_range inside⟩

/-- An access of `$2007` on the CPU interface leaves the scroll registers and the step alone,
and latches the byte written. -/
theorem cpuClock_data (running : pins.Running) (free : nes.dma.dmaActive = false)
    (access : bus.accessesData = true) (v : BitVec 15) :
    (nes.cpuClock pins bus).ppu.cpu.scroll v = nes.ppu.cpu.scroll v ∧
      (nes.cpuClock pins bus).ppu.cpu.addrIncrement = nes.ppu.cpu.addrIncrement ∧
      (bus.writes 7 = true →
        (nes.cpuClock pins bus).ppu.cpu.ppuWriteBuffer = bus.dataOut) := by
  simp only [CpuBus.accessesData, Bool.or_eq_true] at access
  rcases access with write | read
  · obtain ⟨after, number⟩ := cpuClock_of_writes nes running free write
    simp [after, CpuInterface.write, number, CpuInterface.scroll]
  · obtain ⟨after, number⟩ := cpuClock_of_reads nes running free read
    have direction := (CpuBus.reads_iff.mp read).1
    simp [after, CpuInterface.read, number, CpuInterface.scroll, CpuBus.writes, direction]

/-- The address step after a bus cycle on the scroll registers. -/
theorem cpuClock_down (running : pins.Running) (free : nes.dma.dmaActive = false)
    (scrolls : bus.scrolls = true) :
    (nes.cpuClock pins bus).ppu.cpu.addrIncrement =
      if bus.writes 0 then bus.dataOut.getLsbD 2 else nes.ppu.cpu.addrIncrement := by
  simp only [CpuBus.scrolls, Bool.or_eq_true] at scrolls
  rcases scrolls with (((idle | control) | scroll) | address) | status
  · have outside := (CpuBus.idle_iff.mp idle).1
    rw [cpuClock_of_outside nes running free outside]
    simp [CpuBus.writes, outside]
  · obtain ⟨after, number⟩ := cpuClock_of_writes nes running free control
    rw [after, if_pos control]
    simp only [CpuInterface.write, number]
  · obtain ⟨after, number⟩ := cpuClock_of_writes nes running free scroll
    have other := CpuBus.writes_other scroll (show 5 ≠ 0 by decide)
    rw [after, other]
    cases latch : nes.ppu.cpu.ppuLatch <;> simp [CpuInterface.write, number, latch]
  · obtain ⟨after, number⟩ := cpuClock_of_writes nes running free address
    have other := CpuBus.writes_other address (show 6 ≠ 0 by decide)
    rw [after, other]
    cases latch : nes.ppu.cpu.ppuLatch <;> simp [CpuInterface.write, number, latch]
  · obtain ⟨after, number⟩ := cpuClock_of_reads nes running free status
    have direction := (CpuBus.reads_iff.mp status).1
    rw [after]
    simp [CpuInterface.read, number, CpuBus.writes, direction]

/-- An access of `$2007` moves no scroll register and no step. -/
theorem accessesData_asks (latch : Bool) (access : bus.accessesData = true) :
    bus.asks latch .load = false ∧ bus.asks latch .inc = true := by
  simp only [CpuBus.accessesData, Bool.or_eq_true] at access
  rcases access with write | read
  · have number := (CpuBus.writes_iff.mp write).2.2
    simp only [CpuBus.asks, write, Bool.true_or, and_true]
    simp [CpuBus.writes, number]
  · have direction := (CpuBus.reads_iff.mp read).1
    simp [CpuBus.asks, read, CpuBus.writes, direction]

/-- The edge that ends a bus cycle asks for the cycle's access and starts none of it. -/
theorem PortSettled.edge (running : pins.Running)
    (unprogrammed : pins.chrRomPrgmrWren = false) (ports : bus.ports = true)
    (settled : PortSettled ((nes.ppuClock pins bus false).ppuClock pins bus false) port) :
    PortRequested (nes.cpuClock pins bus) bus port := by
  let second := (nes.ppuClock pins bus false).ppuClock pins bus false
  have free : nes.dma.dmaActive = false := settled.free
  have quiet : (nes.sample pins bus).ppu.Quiet := settled.quiet
  obtain ⟨mask, dma⟩ := ports_other ports
  have address : second.ppu.vram.activeVramAddress.bits = port.scroll.v :=
    congrArg ScrollRegisters.v settled.scroll
  have scroll : nes.ppu.cpu.scroll port.scroll.v = port.scroll := by
    rw [← address]
    exact settled.scroll
  have latch : nes.ppu.cpu.ppuLatch = port.scroll.w := congrArg ScrollRegisters.w scroll
  have down : nes.ppu.cpu.addrIncrement = port.down := settled.down
  obtain ⟨contents, pulse, held⟩ :=
    one_dot second bus true running unprogrammed settled.blanked
  obtain ⟨asked, one⟩ := cpuClock_asked nes running quiet
  refine ⟨?_, ?_, fun l => ?_, one, ?_, ?_, ?_, fun access => ?_, fun other => ?_⟩
  · rw [cpuClock_free free dma]
    exact free
  · rw [cpuClock_enables nes running free mask]
    exact settled.blanked
  · rw [asked, asks_of_free free, latch]
  · exact pulse.trans (settled.quiet .write)
  · rw [settled.quiet .write, settled.quiet .read, settled.quiet .load, settled.quiet .inc]
      at held
    exact (congrArg LoopyReg.bits held).trans address
  · rw [stored, settled.pulse] at contents
    exact contents.trans settled.contents
  · obtain ⟨kept, step, data⟩ := cpuClock_data running free access port.scroll.v
    exact ⟨kept.trans scroll, step.trans down, data⟩
  · have scrolls : bus.scrolls = true := by
      simpa [CpuBus.ports, other] using ports
    have cycle := cpuClock_cycle running scrolls free port.scroll.v
    rw [scroll, latch] at cycle
    have step := cpuClock_down running free scrolls
    rw [down] at step
    exact ⟨cycle, step⟩

/-- The two edges inside the next bus cycle serve the one before it, unless a palette read that
is live in it holds up a read. -/
theorem PortRequested.served {next : CpuBus} (running : pins.Running)
    (unprogrammed : pins.chrRomPrgmrWren = false)
    (free : ¬ HeldUp nes next) (requested : PortRequested nes bus port) :
    PortSettled ((nes.ppuClock pins next false).ppuClock pins next false)
      (port.cycle pins.header bus) := by
  let first := nes.ppuClock pins next false
  obtain ⟨contents, pulse, address⟩ :=
    one_dot nes next false running unprogrammed requested.blanked
  obtain ⟨quiet, pulse', contents', address'⟩ :=
    two_dots running unprogrammed requested.blanked requested.one free
  rw [requested.waiting] at pulse address'
  simp only [requested.waiting] at address
  rw [stored, requested.pulse] at contents
  have kept : first.mem.contents = port.mem := contents.trans requested.contents
  have blanked : first.ppu.renderEnable = false := requested.blanked
  have cell : first.ppuAddrBus.toNat = first.ppu.vram.activeVramAddress.bits.toNat % 0x4000 :=
    Ppu.ppuAddr_blanked first.ppu blanked
  cases access : bus.accessesData with
  | true =>
    obtain ⟨scroll, down, data⟩ := requested.access access
    have none := (accessesData_asks port.scroll.w access).1
    have asks : (bus.asks port.scroll.w .write || bus.asks port.scroll.w .read) = true := access
    have inc := (accessesData_asks port.scroll.w access).2
    rw [asks, if_pos rfl] at address
    have still : first.ppu.vram.activeVramAddress.bits = port.scroll.v :=
      (congrArg LoopyReg.bits address).trans requested.address
    have increment : first.ppu.cpu.addrIncrement = port.down := down
    rw [inc, if_pos rfl] at address'
    have advanced : (first.ppuClock pins next false).ppu.cpu.scroll
        (first.ppuClock pins next false).ppu.vram.activeVramAddress.bits = port.advance := by
      rw [address', Ppu.incremented, LoopyReg.bits_ofBits, still, increment, MemoryPort.advance,
        ← scroll]
      rfl
    cases written : bus.writes 7 with
    | true =>
      have byte : first.ppu.cpu.ppuWriteBuffer = bus.dataOut := data written
      have pulses : first.ppuWrite = true := pulse.trans written
      rw [stored, pulses, if_pos rfl, kept, cell, still, byte] at contents'
      rw [MemoryPort.cycle, if_pos written]
      exact ⟨requested.free, requested.blanked, quiet, pulse', advanced, down, contents'⟩
    | false =>
      have reading : bus.reads 7 = true := by
        simpa [CpuBus.accessesData, written] using access
      have silent : first.ppuWrite = false := pulse.trans written
      rw [stored, silent, if_neg Bool.false_ne_true, kept] at contents'
      rw [MemoryPort.cycle, written, reading]
      exact ⟨requested.free, requested.blanked, quiet, pulse', advanced, down, contents'⟩
  | false =>
    obtain ⟨scroll, down⟩ := requested.other access
    obtain ⟨unwritten, unread⟩ : bus.writes 7 = false ∧ bus.reads 7 = false := by
      simpa [CpuBus.accessesData] using access
    have silent : first.ppuWrite = false := pulse.trans unwritten
    rw [stored, silent, if_neg Bool.false_ne_true, kept] at contents'
    simp only [CpuBus.asks, unwritten, unread, Bool.or_self, Bool.false_eq_true, if_false]
      at address address'
    have moved : first.ppu.vram.activeVramAddress.bits =
        if bus.writes 6 && port.scroll.w then nes.ppu.cpu.tempVramAddress.bits
        else port.scroll.v := by
      rw [address, apply_ite LoopyReg.bits, requested.address]
    rw [MemoryPort.cycle, unwritten, unread]
    refine ⟨requested.free, requested.blanked, quiet, pulse', ?_, down, contents'⟩
    rw [address', moved]
    exact scroll

/-! ## The read buffer below the palette -/

/-- A console at rest is settled. -/
theorem PortAtRest.settled (rest : PortAtRest nes port) : PortSettled nes port :=
  ⟨rest.free, rest.blanked, rest.quiet, rest.pulse, rest.scroll, rest.down, rest.contents⟩

/-- A console that is asked has its requests waiting. -/
theorem PortAsked.requested (asked : PortAsked nes bus port) : PortRequested nes bus port :=
  ⟨asked.free, asked.blanked, asked.waiting, asked.one, asked.pulse, asked.address,
    asked.contents, asked.access, asked.other⟩

/-- The edge that ends a bus cycle below the palette leaves the read buffer alone. -/
theorem PortAtRest.edge (running : pins.Running) (unprogrammed : pins.chrRomPrgmrWren = false)
    (ports : bus.ports = true) (below : bus.reads 7 = true → port.addr < 0x3F00)
    (rest : PortAtRest ((nes.ppuClock pins bus false).ppuClock pins bus false) port) :
    PortAsked (nes.cpuClock pins bus) bus port := by
  let second := (nes.ppuClock pins bus false).ppuClock pins bus false
  have requested := rest.settled.edge running unprogrammed ports
  have address : second.ppu.vram.activeVramAddress.bits = port.scroll.v :=
    congrArg ScrollRegisters.v rest.scroll
  have buffered : second.ppu.cpuFramePaletteRead (second.cpuControl bus) = false := by
    apply Ppu.buffered_of_below _ _ rest.blanked
    intro reading
    rw [address]
    exact below (control_reads second bus reading)
  obtain ⟨-, -, read, capture, buffer, -⟩ :=
    one_period true running unprogrammed rest.blanked buffered
  rw [rest.quiet .read] at read
  rw [rest.quiet .read, Bool.and_false] at capture
  rw [rest.capture] at buffer
  exact ⟨requested.free, requested.blanked, requested.waiting, requested.one, requested.pulse,
    read, capture, requested.address, buffer.trans rest.buffer, requested.contents,
    requested.access, requested.other⟩

/-- No palette read is live inside the next bus cycle before its first edge. -/
theorem PortAsked.buffered {next : CpuBus} (below : next.reads 7 = true → port.addr < 0x3F00)
    (asked : PortAsked nes bus port) :
    nes.ppu.cpuFramePaletteRead (nes.cpuControl next) = false := by
  apply Ppu.buffered_of_below _ _ asked.blanked
  intro reading
  rw [asked.address]
  exact below (control_reads nes next reading)

/-- The first edge inside the next bus cycle performs a load and leaves the address of an
access where it is. -/
theorem PortAsked.first_address {next : CpuBus} (running : pins.Running)
    (unprogrammed : pins.chrRomPrgmrWren = false) (asked : PortAsked nes bus port) :
    (nes.ppuClock pins next false).ppu.vram.activeVramAddress.bits =
      if bus.writes 6 && port.scroll.w then nes.ppu.cpu.tempVramAddress.bits
      else port.scroll.v := by
  obtain ⟨-, -, held⟩ := one_dot nes next false running unprogrammed asked.blanked
  simp only [asked.waiting, CpuBus.asks] at held
  rw [held, ← asked.address]
  cases access : (bus.writes 7 || bus.reads 7) with
  | true =>
    have none := (accessesData_asks port.scroll.w access).1
    rw [CpuBus.asks] at none
    simp only [if_true, none, Bool.false_eq_true, if_false]
  | false => simp only [Bool.false_eq_true, if_false, apply_ite LoopyReg.bits]

/-- The byte a read has on the PPU bus after the first edge inside the next bus cycle. -/
theorem PortAsked.read_data {next : CpuBus} (running : pins.Running)
    (unprogrammed : pins.chrRomPrgmrWren = false)
    (below : next.reads 7 = true → port.addr < 0x3F00) (asked : PortAsked nes bus port)
    (reading : bus.reads 7 = true) :
    (nes.ppuClock pins next false).settledData pins next =
      port.mem.read pins.header port.addr := by
  let first := nes.ppuClock pins next false
  obtain ⟨contents, pulse, read, -, -, -⟩ :=
    one_period false running unprogrammed asked.blanked (asked.buffered below)
  have direction := (CpuBus.reads_iff.mp reading).1
  have unwritten : bus.writes 7 = false := by simp [CpuBus.writes, direction]
  have unloaded : bus.writes 6 = false := by simp [CpuBus.writes, direction]
  rw [asked.waiting, CpuBus.asks, unwritten] at pulse
  rw [stored, asked.pulse, if_neg Bool.false_ne_true, asked.contents] at contents
  have out : first.ppuRead next = true := by
    rw [ppuRead, Ppu.ppuReadOut, read, asked.waiting, CpuBus.asks, reading, Bool.or_true]
  have address : first.ppu.vram.activeVramAddress.bits = _ :=
    asked.first_address running unprogrammed
  rw [unloaded, Bool.false_and, if_neg Bool.false_ne_true] at address
  have cell : first.ppuAddrBus.toNat = port.addr := by
    apply (Ppu.ppuAddr_blanked first.ppu asked.blanked).trans
    rw [address]
    rfl
  rw [settledData_eq pins next first unprogrammed, pulse, out, contents, cell]
  rfl

/-- The two edges inside the next bus cycle serve the one before it. -/
theorem PortAsked.served {next : CpuBus} (running : pins.Running)
    (unprogrammed : pins.chrRomPrgmrWren = false)
    (below : next.reads 7 = true →
      port.addr < 0x3F00 ∧ (bus.writes 6 && port.scroll.w) = false)
    (asked : PortAsked nes bus port) :
    PortAtRest ((nes.ppuClock pins next false).ppuClock pins next false)
      (port.cycle pins.header bus) := by
  let first := nes.ppuClock pins next false
  have low : next.reads 7 = true → port.addr < 0x3F00 := fun reading => (below reading).1
  have buffered := asked.buffered low
  have free : ¬ HeldUp nes next := fun held => Bool.false_ne_true (buffered.symm.trans held.2)
  have settled := asked.requested.served running unprogrammed free
  have buffered' : first.ppu.cpuFramePaletteRead (nes.cpuControl next) = false := by
    apply Ppu.buffered_of_below first.ppu _ asked.blanked
    intro reading
    obtain ⟨inside, unloaded⟩ := below (control_reads nes next reading)
    rw [asked.first_address running unprogrammed, unloaded]
    exact inside
  obtain ⟨-, -, -, capture, buffer, -⟩ :=
    one_period false running unprogrammed asked.blanked buffered
  obtain ⟨-, -, read, capture', -, buffer', -⟩ :=
    two_periods running unprogrammed asked.blanked asked.one buffered buffered'
  rw [asked.capture, asked.waiting, CpuBus.asks] at capture
  rw [asked.capture, if_neg Bool.false_ne_true, asked.buffer] at buffer
  rw [capture, Bool.not_false, Bool.true_and, buffer] at buffer'
  have taken : ((nes.ppuClock pins next false).ppuClock pins next false).ppu.access.ppuReadBuffer =
      (port.cycle pins.header bus).buffer := by
    rw [buffer', MemoryPort.cycle_buffer]
    cases reading : bus.reads 7 with
    | true => exact asked.read_data running unprogrammed low reading
    | false => rfl
  exact ⟨settled.free, settled.blanked, settled.quiet, settled.pulse, read, capture',
    settled.scroll, settled.down, taken, settled.contents⟩

/-! ## Runs -/

/-- The abstract port of a console with no request waiting: a read or a write that is still
on the PPU bus has already taken effect. -/
def memoryPort (pins : Pins) (nes : Nes) : MemoryPort where
  scroll := nes.ppu.cpu.scroll nes.ppu.vram.activeVramAddress.bits
  down := nes.ppu.cpu.addrIncrement
  buffer :=
    if nes.ppu.access.oneAfterRead then
      if nes.ppuWrite then nes.ppu.cpu.ppuWriteBuffer
      else if nes.ppu.access.ppuRead then
        nes.mem.contents.read pins.header nes.ppuAddrBus.toNat
      else 0xAA
    else nes.ppu.access.ppuReadBuffer
  mem := nes.stored pins

/-- Two periods bring a quiet console with rendering disabled to its port. -/
theorem portSettled_of_quiet (running : pins.Running)
    (unprogrammed : pins.chrRomPrgmrWren = false) (quiet : nes.ppu.Quiet)
    (free : nes.dma.dmaActive = false) (blanked : nes.ppu.renderEnable = false) :
    PortSettled ((nes.ppuClock pins bus false).ppuClock pins bus false)
      (nes.memoryPort pins) := by
  have one : OneAccess nes.ppu := by
    constructor <;> simp [quiet _]
  have open' : ¬ HeldUp nes bus := fun held =>
    Bool.false_ne_true ((quiet .read).symm.trans held.1)
  obtain ⟨contents, pulse, address⟩ := one_dot nes bus false running unprogrammed blanked
  obtain ⟨quiet', pulse', contents', address'⟩ :=
    two_dots running unprogrammed blanked one open'
  rw [quiet .write] at pulse
  rw [quiet .write, quiet .read, quiet .load, quiet .inc] at address
  rw [quiet .inc, if_neg Bool.false_ne_true] at address'
  rw [stored, pulse, if_neg Bool.false_ne_true, contents] at contents'
  refine ⟨free, blanked, quiet', pulse', ?_, rfl, contents'⟩
  rw [address', address]
  rfl

/-- Below the palette they bring it to rest. -/
theorem portAtRest_of_quiet (running : pins.Running)
    (unprogrammed : pins.chrRomPrgmrWren = false) (quiet : nes.ppu.Quiet)
    (free : nes.dma.dmaActive = false) (blanked : nes.ppu.renderEnable = false)
    (below : bus.reads 7 = true → (nes.memoryPort pins).addr < 0x3F00) :
    PortAtRest ((nes.ppuClock pins bus false).ppuClock pins bus false)
      (nes.memoryPort pins) := by
  let first := nes.ppuClock pins bus false
  have settled : PortSettled (first.ppuClock pins bus false) (nes.memoryPort pins) :=
    portSettled_of_quiet running unprogrammed quiet free blanked
  have buffered : nes.ppu.cpuFramePaletteRead (nes.cpuControl bus) = false := by
    apply Ppu.buffered_of_below _ _ blanked
    intro reading
    exact below (control_reads nes bus reading)
  obtain ⟨-, -, -, capture, buffer, held⟩ :=
    one_period false running unprogrammed blanked buffered
  rw [quiet .write, quiet .read, quiet .load, quiet .inc] at held
  rw [quiet .read, Bool.and_false] at capture
  have still : first.ppu.vram.activeVramAddress = nes.ppu.vram.activeVramAddress := held
  have buffered' : first.ppu.cpuFramePaletteRead (nes.cpuControl bus) = false := by
    apply Ppu.buffered_of_below first.ppu _ blanked
    intro reading
    rw [still]
    exact below (control_reads nes bus reading)
  have one : OneAccess nes.ppu := by
    constructor <;> simp [quiet _]
  obtain ⟨-, -, read, capture', -, buffer', -⟩ :=
    two_periods running unprogrammed blanked one buffered buffered'
  rw [capture, if_neg Bool.false_ne_true, buffer, settledData_eq pins bus nes unprogrammed,
    ppuRead, Ppu.ppuReadOut, buffered, Bool.false_or] at buffer'
  exact ⟨settled.free, settled.blanked, settled.quiet, settled.pulse, read, capture',
    settled.scroll, settled.down, buffer', settled.contents⟩

/-- A read of `$2007` shows the PPU bus in the palette and the read buffer below it. -/
theorem cpuDataBus_data (pins : Pins) (reading : nes.asks bus .read = true) :
    nes.cpuDataBus pins bus =
      if 0x3F00 ≤ nes.ppuAddrBus.toNat then nes.ppuDataBus pins bus
      else nes.ppu.access.ppuReadBuffer := by
  have free : nes.dma.dmaActive = false := by
    cases active : nes.dma.dmaActive with
    | false => rfl
    | true => simp [asks, CpuPort.asks, cpuControl, dmaWrite, active] at reading
  rw [asks_of_free free] at reading
  obtain ⟨direction, inside, number⟩ := CpuBus.reads_iff.mp reading
  have rden : (nes.cpuControl bus).rden = true := by
    simp [cpuControl, cpuPpuRden, free, direction, inside]
  have register : (nes.cpuControl bus).addr.toNat = 7 := bus.register_toNat.trans number
  rw [cpuDataBus, free, direction, inside, Ppu.cpuDataOut, rden, register]
  rfl

/-- At rest, a read of `$2007` below the palette returns the read buffer. -/
theorem PortAtRest.read_data (rest : PortAtRest nes port) (reading : bus.reads 7 = true)
    (below : port.addr < 0x3F00) :
    (nes.settle pins bus).cpuDataBus pins bus = port.buffer := by
  let settled := nes.settle pins bus
  have free : settled.dma.dmaActive = false := rest.free
  have asked : settled.asks bus .read = true := (asks_of_free free .read).trans reading
  have address : settled.ppu.vram.activeVramAddress.bits = port.scroll.v :=
    congrArg ScrollRegisters.v rest.scroll
  have addr : settled.ppuAddrBus.toNat = port.addr := by
    apply (Ppu.ppuAddr_blanked settled.ppu rest.blanked).trans
    rw [address]
    rfl
  have low : ¬ 0x3F00 ≤ settled.ppuAddrBus.toNat := by omega
  rw [cpuDataBus_data pins asked, if_neg low]
  exact rest.buffer

/-- A read of `$2007` that follows a bus cycle of the memory port on the next CPU cycle
finds no load waiting and the address it will read. -/
theorem below_next {next : CpuBus} (header : Header) (spaced : bus.SameRegister next)
    (below : bus.accessesData = true → port.addr < 0x3F00)
    (below' : next.accessesData = true → (port.cycle header bus).addr < 0x3F00)
    (reading : next.reads 7 = true) :
    port.addr < 0x3F00 ∧ (bus.writes 6 && port.scroll.w) = false := by
  obtain ⟨-, inside', number'⟩ := CpuBus.reads_iff.mp reading
  cases inside : ppuRange bus.addr with
  | true =>
    have number : bus.addr.toNat % 8 = 7 := (spaced inside inside').trans number'
    have access : bus.accessesData = true := by
      cases direction : bus.rwN <;>
        simp [CpuBus.accessesData, CpuBus.writes, CpuBus.reads, inside, direction, number]
    exact ⟨below access, by simp [CpuBus.writes, number]⟩
  | false =>
    have outside : ∀ register, bus.writes register = false ∧ bus.reads register = false := by
      intro register
      simp [CpuBus.writes, CpuBus.reads, inside]
    have kept : port.cycle header bus = port := by
      simp [MemoryPort.cycle, ScrollRegisters.cycle, outside]
    have low := below' (by simp [CpuBus.accessesData, reading])
    rw [kept] at low
    exact ⟨low, by rw [(outside 6).1, Bool.false_and]⟩

/-- Over every run of bus cycles of the memory port with rendering disabled, where accesses
of consecutive cycles are to one register and `$2007` is accessed below the palette: just
before each CPU edge a read of `$2007` returns the abstract read buffer, and the memories,
the VRAM address, the read buffer and the scroll registers are the abstract ones. -/
theorem memoryPort_refines (io : ℕ → Input) (start : Nes) (header : Header) (n : ℕ)
    (running : ∀ i ≤ n, (io i).pins.Running)
    (unprogrammed : ∀ i ≤ n, (io i).pins.chrRomPrgmrWren = false)
    (game : ∀ i ≤ n, (io i).pins.header = header)
    (ports : ∀ i ≤ n, (io i).bus.ports = true)
    (spaced : ∀ i < n, (io i).bus.SameRegister (io (i + 1)).bus)
    (below : ∀ i ≤ n, (io i).bus.accessesData = true →
      (MemoryPort.run header io (start.memoryPort (io 0).pins) i).addr < 0x3F00)
    (quiet : start.ppu.Quiet) (free : start.dma.dmaActive = false)
    (blanked : start.ppu.renderEnable = false) :
    let reference := MemoryPort.run header io (start.memoryPort (io 0).pins) n
    let nes := (cpuRun io start n).sample (io n).pins (io n).bus
    ((io n).bus.reads 7 = true →
        nes.cpuDataBus (io n).pins (io n).bus = reference.buffer) ∧
      nes.mem.contents = reference.mem ∧
      nes.ppu.access.ppuReadBuffer = reference.buffer ∧
      nes.ppu.cpu.addrIncrement = reference.down ∧
      nes.ppu.cpu.scroll nes.ppu.vram.activeVramAddress.bits = reference.scroll := by
  let reference := MemoryPort.run header io (start.memoryPort (io 0).pins)
  let nes (i : ℕ) := cpuRun io start i
  have low : ∀ i ≤ n, (io i).bus.reads 7 = true → (reference i).addr < 0x3F00 := by
    intro i le reading
    exact below i le (by simp [CpuBus.accessesData, reading])
  have rest : ∀ i ≤ n, PortAtRest (((nes i).ppuClock (io i).pins (io i).bus false).ppuClock
      (io i).pins (io i).bus false) (reference i) := by
    intro i
    induction i with
    | zero =>
      intro le
      exact portAtRest_of_quiet (running 0 le) (unprogrammed 0 le) quiet free blanked (low 0 le)
    | succ i ih =>
      intro le
      have lt : i ≤ n := Nat.le_of_succ_le le
      have edge := (ih lt).edge (running i lt) (unprogrammed i lt) (ports i lt) (low i lt)
      have next := below_next header (spaced i le) (below i lt) (below (i + 1) le)
      have served := edge.served (running (i + 1) le) (unprogrammed (i + 1) le) next
      rw [game (i + 1) le] at served
      exact served
  have last := rest n (Nat.le_refl n)
  refine ⟨fun reading => ?_, ?_, last.buffer, last.down, last.scroll⟩
  · exact last.read_data reading (low n (Nat.le_refl n) reading)
  · have settled := settle_contents (io n).pins (io n).bus
      (((nes n).ppuClock (io n).pins (io n).bus false).ppuClock (io n).pins (io n).bus false)
      (unprogrammed n (Nat.le_refl n))
    rw [stored, last.pulse] at settled
    exact settled.trans last.contents

/-- A byte written through the port, its address set again, and two reads. -/
def writeAndReadBack : ℕ → Input
  | 0 => .write 0x2006 0x21
  | 1 => .write 0x2006 0x08
  | 3 => .write 0x2007 0x5A
  | 5 => .write 0x2006 0x21
  | 6 => .write 0x2006 0x08
  | 8 => .read 0x2007
  | 10 => .read 0x2007
  | _ => .read 0x8000

/-- After power-up the second read returns the byte written, which is in its one cell. -/
theorem writeAndReadBack_refines :
    let last := writeAndReadBack 10
    let nes := (cpuRun writeAndReadBack (powerUp .blank) 10).sample last.pins last.bus
    nes.cpuDataBus last.pins last.bus = 0x5A ∧ nes.mem.contents.vram 0x108 = 0x5A ∧
      nes.mem.contents.vram 0x109 = 0 := by
  obtain ⟨data, mem, -⟩ := memoryPort_refines writeAndReadBack (powerUp .blank) ⟨false, true⟩ 10
    (fun i le => by interval_cases i <;> exact ⟨rfl, rfl⟩)
    (fun i le => by interval_cases i <;> rfl)
    (fun i le => by interval_cases i <;> rfl)
    (fun i le => by interval_cases i <;> decide)
    (fun i lt => by
      unfold CpuBus.SameRegister
      interval_cases i <;> decide)
    (fun i le => by interval_cases i <;> decide +kernel)
    (fun l => by cases l <;> rfl) rfl rfl
  refine ⟨(data rfl).trans (by decide +kernel), ?_, ?_⟩
  · rw [mem]
    decide +kernel
  · rw [mem]
    decide +kernel

end Nes

end FpgaNes
