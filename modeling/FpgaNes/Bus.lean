import FpgaNes.Period
import FpgaNes.Hdl.Trace
import FpgaNes.Hdl.Handshake

/-!
# Bus cycles and runs of the console

The processor is an environment that presents one bus cycle per CPU clock. This module
names the register accesses a bus cycle can be, the runs of the console under a stream
of bus cycles, and the five request and handle pairs as toggle handshakes.
-/

namespace FpgaNes

open Hdl

/-! ## Register accesses -/

namespace CpuBus

/-- A write of the PPU register with this number, at any of its mirrors. -/
def writes (bus : CpuBus) (register : ℕ) : Bool :=
  !bus.rwN && Nes.ppuRange bus.addr && bus.addr.toNat % 8 == register

/-- A read of the PPU register with this number, at any of its mirrors. -/
def reads (bus : CpuBus) (register : ℕ) : Bool :=
  bus.rwN && Nes.ppuRange bus.addr && bus.addr.toNat % 8 == register

/-- A write of `$4014`. -/
def startsDma (bus : CpuBus) : Bool := !bus.rwN && bus.addr.toNat == 0x4014

/-- A cycle that accesses no PPU register and starts no DMA. -/
def idle (bus : CpuBus) : Bool := !Nes.ppuRange bus.addr && !bus.startsDma

/-- The register access of a bus cycle, on the CPU interface. -/
def act (bus : CpuBus) (r : CpuInterface) : CpuInterface :=
  if Nes.ppuRange bus.addr then
    if bus.rwN then r.read (bus.addr.setWidth 3)
    else r.write (bus.addr.setWidth 3) bus.dataOut
  else r

/-- A cycle in the register range starts no DMA. -/
theorem startsDma_of_range {bus : CpuBus} (inside : Nes.ppuRange bus.addr = true) :
    bus.startsDma = false := by
  simp only [Nes.ppuRange, Bool.and_eq_true, decide_eq_true_eq] at inside
  simp only [startsDma, Bool.and_eq_false_iff, beq_eq_false_iff_ne]
  omega

/-- A register write is a write cycle in the register range, to that register. -/
theorem writes_iff {bus : CpuBus} {register : ℕ} :
    bus.writes register = true ↔
      bus.rwN = false ∧ Nes.ppuRange bus.addr = true ∧ bus.addr.toNat % 8 = register := by
  simp [writes, and_assoc]

/-- One cycle writes at most one register. -/
theorem writes_other {bus : CpuBus} {register other : ℕ} (access : bus.writes register = true)
    (differs : register ≠ other) : bus.writes other = false := by
  rw [writes_iff] at access
  rw [writes, access.2.2, beq_false_of_ne differs, Bool.and_false]

/-- A register read is a read cycle in the register range, to that register. -/
theorem reads_iff {bus : CpuBus} {register : ℕ} :
    bus.reads register = true ↔
      bus.rwN = true ∧ Nes.ppuRange bus.addr = true ∧ bus.addr.toNat % 8 = register := by
  simp [reads, and_assoc]

/-- An idle cycle is outside the register range and no write of `$4014`. -/
theorem idle_iff {bus : CpuBus} :
    bus.idle = true ↔ Nes.ppuRange bus.addr = false ∧ bus.startsDma = false := by
  simp [idle]

/-- The register number the PPU sees. -/
theorem register_toNat (bus : CpuBus) : (bus.addr.setWidth 3).toNat = bus.addr.toNat % 8 :=
  BitVec.toNat_setWidth 3 bus.addr

end CpuBus

/-- The console is out of reset and enabled. -/
structure Pins.Running (pins : Pins) : Prop where
  /-- `RESET` is low. -/
  reset : pins.reset = false
  /-- `ENABLE` is high. -/
  enable : pins.enable = true

/-- What the environment presents over one CPU clock. -/
structure Input where
  /-- The pins. -/
  pins : Pins
  /-- What the processor presents. -/
  bus : CpuBus

/-- What the environment presents over one PPU clock, and whether `CPU_CLK` rises with
the edge that ends it. -/
structure Dot extends Input where
  /-- `CPU_CLK` rises with the edge that ends the dot. -/
  cpuEdge : Bool

/-- Edges of `CPU_CLK` are not on adjacent dots: three dots make a CPU clock. -/
def Spaced (io : ℕ → Dot) : Prop := ∀ i, (io i).cpuEdge = true → (io (i + 1)).cpuEdge = false

/-- Pins of a console in play: CHR ROM and vertical mirroring. -/
def Pins.playing : Pins where
  reset := false
  enable := true
  header := ⟨false, true⟩
  prgRomPrgmrWren := false
  chrRomPrgmrWren := false
  romPrgmrAddr := 0
  romPrgmrData := 0
  apuDataOut := 0
  controllerOneDataOut := 0
  controllerTwoDataOut := 0

/-- A write cycle of a console in play. -/
def Input.write (addr : BitVec 16) (data : Byte) : Input := ⟨.playing, ⟨addr, data, false⟩⟩

/-- A read cycle of a console in play. -/
def Input.read (addr : BitVec 16) : Input := ⟨.playing, ⟨addr, 0, true⟩⟩

namespace Nes

/-! ## Runs -/

/-- The console after each number of CPU clocks, on the edge of `CPU_CLK`. -/
def cpuRun (io : ℕ → Input) (start : Nes) : ℕ → Nes :=
  trace (fun input nes => nes.cpuClock input.pins input.bus) io start

/-- The console after each number of PPU clocks. -/
def dotRun (io : ℕ → Dot) (start : Nes) : ℕ → Nes :=
  trace (fun dot nes => nes.ppuClock dot.pins dot.bus dot.cpuEdge) io start

/-- A run ends with its last bus cycle. -/
theorem cpuRun_succ (io : ℕ → Input) (start : Nes) (n : ℕ) :
    cpuRun io start (n + 1) = (cpuRun io start n).cpuClock (io n).pins (io n).bus := rfl

/-- A run of no dot. -/
@[simp] theorem dotRun_zero (io : ℕ → Dot) (start : Nes) : dotRun io start 0 = start := rfl

/-- A run ends with its last dot. -/
theorem dotRun_succ (io : ℕ → Dot) (start : Nes) (n : ℕ) :
    dotRun io start (n + 1) =
      (dotRun io start n).ppuClock (io n).pins (io n).bus (io n).cpuEdge := rfl

variable (pins : Pins) (bus : CpuBus) (nes : Nes)

/-- A CPU clock is three PPU clocks, the last of them ending on the CPU edge. -/
theorem cpuClock_eq :
    nes.cpuClock pins bus =
      ((nes.ppuClock pins bus false).ppuClock pins bus false).ppuClock pins bus true := rfl

/-- Registers clocked by the CPU hold until the end of the bus cycle. -/
@[simp] theorem sample_cpu : (nes.sample pins bus).ppu.cpu = nes.ppu.cpu := rfl

/-- The DMA holds until the end of the bus cycle. -/
@[simp] theorem sample_dma : (nes.sample pins bus).dma = nes.dma := rfl

/-- The last of the eleven free edges of a bus cycle finds what the first left and each edge
in between kept. -/
theorem sample_last (kept : Memories → Prop) (first : kept (nes.memNext pins bus))
    (edge : ∀ n : Nes, n.dma = nes.dma → kept n.mem → kept (n.memNext pins bus)) :
    ∃ n : Nes, n.dma = nes.dma ∧ kept n.mem ∧ (nes.sample pins bus).mem = n.memNext pins bus := by
  have settled (n : Nes) (same : n.dma = nes.dma) (inside : kept (n.memNext pins bus)) :
      kept ((n.mclkEdge pins bus).memNext pins bus) ∧ kept (n.settle pins bus).mem := by
    have second := edge (n.mclkEdge pins bus) same inside
    exact ⟨second, edge ((n.mclkEdge pins bus).mclkEdge pins bus) same second⟩
  have period (n : Nes) (same : n.dma = nes.dma) (inside : kept (n.memNext pins bus)) :
      kept ((n.ppuClock pins bus false).memNext pins bus) := by
    have last := edge (n.settle pins bus) same (settled n same inside).2
    exact edge (n.ppuClock pins bus false) same last
  let last := (nes.ppuClock pins bus false).ppuClock pins bus false
  have third := period (nes.ppuClock pins bus false) rfl (period nes rfl first)
  exact ⟨(last.mclkEdge pins bus).mclkEdge pins bus, rfl, (settled last rfl third).1, rfl⟩

/-- The bus control signals do not depend on the memories. -/
@[simp] theorem settle_control (other : CpuBus) :
    (nes.settle pins bus).cpuControl other = nes.cpuControl other := rfl

/-- The bus control signals hold until the CPU edge. -/
@[simp] theorem hold_control (other : CpuBus) :
    (nes.ppuClock pins bus false).cpuControl other = nes.cpuControl other := rfl

/-- The CPU interface acts once, on the edge that ends the bus cycle. -/
theorem cpuClock_cpu :
    (nes.cpuClock pins bus).ppu.cpu =
      nes.ppu.cpu.next pins.reset ((nes.sample pins bus).cpuPort pins bus) := rfl

/-- The DMA acts once, on the edge that ends the bus cycle. -/
theorem cpuClock_dma :
    (nes.cpuClock pins bus).dma = (nes.sample pins bus).dmaNext pins bus := rfl

/-! ## The CPU interface under a bus cycle -/

variable {pins bus nes}

/-- Out of reset and with no DMA, the CPU interface makes the register access of the bus
cycle. -/
theorem next_cpuPort (bus : CpuBus) (nes : Nes) (released : pins.reset = false)
    (free : nes.dma.dmaActive = false) (r : CpuInterface) :
    r.next pins.reset (nes.cpuPort pins bus) = bus.act r := by
  cases inside : ppuRange bus.addr <;> cases direction : bus.rwN <;>
    simp [CpuInterface.next, cpuPort, cpuControl, cpuPpuWren, cpuPpuRden, dmaWrite,
      cpuDataBus, CpuBus.act, released, free, inside, direction]

/-- Out of reset and with no DMA, a cycle in the register range is one register access and
every other cycle leaves the CPU interface alone. -/
theorem cpuNext_of_bus (bus : CpuBus) (nes : Nes) (running : pins.Running)
    (free : nes.dma.dmaActive = false) :
    nes.ppu.cpu.next pins.reset (nes.cpuPort pins bus) =
      if ppuRange bus.addr then
        if bus.rwN then nes.ppu.cpu.read (bus.addr.setWidth 3)
        else nes.ppu.cpu.write (bus.addr.setWidth 3) bus.dataOut
      else nes.ppu.cpu :=
  next_cpuPort bus nes running.reset free nes.ppu.cpu

/-- A bus cycle that writes a register. -/
theorem cpuClock_of_writes (nes : Nes) (running : pins.Running)
    (free : nes.dma.dmaActive = false)
    {register : ℕ} (access : bus.writes register = true) :
    (nes.cpuClock pins bus).ppu.cpu =
        nes.ppu.cpu.write (bus.addr.setWidth 3) bus.dataOut ∧
      (bus.addr.setWidth 3).toNat = register := by
  obtain ⟨direction, inside, number⟩ := CpuBus.writes_iff.mp access
  have edge := cpuNext_of_bus bus (nes.sample pins bus) running free
  rw [sample_cpu, inside, direction] at edge
  exact ⟨(cpuClock_cpu pins bus nes).trans edge, bus.register_toNat.trans number⟩

/-- A bus cycle that reads a register. -/
theorem cpuClock_of_reads (nes : Nes) (running : pins.Running)
    (free : nes.dma.dmaActive = false)
    {register : ℕ} (access : bus.reads register = true) :
    (nes.cpuClock pins bus).ppu.cpu = nes.ppu.cpu.read (bus.addr.setWidth 3) ∧
      (bus.addr.setWidth 3).toNat = register := by
  obtain ⟨direction, inside, number⟩ := CpuBus.reads_iff.mp access
  have edge := cpuNext_of_bus bus (nes.sample pins bus) running free
  rw [sample_cpu, inside, direction] at edge
  exact ⟨(cpuClock_cpu pins bus nes).trans edge, bus.register_toNat.trans number⟩

/-- A bus cycle outside the register range. -/
theorem cpuClock_of_outside (nes : Nes) (running : pins.Running)
    (free : nes.dma.dmaActive = false)
    (outside : ppuRange bus.addr = false) : (nes.cpuClock pins bus).ppu.cpu = nes.ppu.cpu := by
  have edge := cpuNext_of_bus bus (nes.sample pins bus) running free
  rw [sample_cpu, outside] at edge
  exact (cpuClock_cpu pins bus nes).trans edge

/-- Only a write of `$2001` moves the rendering enables. -/
theorem cpuClock_enables (nes : Nes) (running : pins.Running)
    (free : nes.dma.dmaActive = false) (other : bus.writes 1 = false) :
    (nes.cpuClock pins bus).ppu.renderEnable = nes.ppu.renderEnable := by
  have edge := cpuNext_of_bus bus (nes.sample pins bus) running free
  rw [sample_cpu, ← cpuClock_cpu] at edge
  rw [Ppu.renderEnable, edge, Ppu.renderEnable]
  cases inside : ppuRange bus.addr with
  | false => rfl
  | true =>
    cases direction : bus.rwN with
    | true =>
      simp only [if_true, CpuInterface.read]
      split <;> rfl
    | false =>
      have number : (bus.addr.setWidth 3).toNat ≠ 1 := by
        rw [CpuBus.register_toNat]
        simpa [CpuBus.writes, inside, direction] using other
      simp only [if_true, Bool.false_eq_true, if_false, CpuInterface.write]
      split
      case h_2 one => exact absurd one number
      all_goals first | rfl | (split <;> rfl)

/-- With no DMA running and none started, the DMA state machine stays idle. -/
theorem dmaNext_of_free (pins : Pins) (nes : Nes) (free : nes.dma.dmaActive = false)
    (other : bus.startsDma = false) :
    nes.dmaNext pins bus = nes.dma := by
  have addr : nes.cpuAddrBus bus = bus.addr := by simp [cpuAddrBus, free]
  simp only [CpuBus.startsDma] at other
  simp [dmaNext, addr, other, free]

/-- A bus cycle other than a write of `$4014` leaves an idle DMA idle. -/
theorem cpuClock_free (free : nes.dma.dmaActive = false) (other : bus.startsDma = false) :
    (nes.cpuClock pins bus).dma = nes.dma :=
  (cpuClock_dma pins bus nes).trans
    (dmaNext_of_free pins (nes.sample pins bus) free other)

end Nes

/-! ## Request and handle pairs -/

/-- The five request and handle pairs. -/
inductive Lane where
  | write
  | read
  | load
  | inc
  | nmiClear
  deriving DecidableEq

/-- The pairs whose handles `ENABLE` low clears. -/
def Lane.gated : Lane → Bool
  | .write => true
  | .read => true
  | _ => false

/-- The register accesses that ask for service on a pair. -/
def CpuPort.asks (port : CpuPort) (latch : Bool) : Lane → Bool
  | .write => !port.dmaWrite && port.wren && port.addr.toNat == 7
  | .read => !port.dmaWrite && !port.wren && port.rden && port.addr.toNat == 7
  | .load => !port.dmaWrite && port.wren && port.addr.toNat == 6 && latch
  | .inc => !port.dmaWrite && (port.wren || port.rden) && port.addr.toNat == 7
  | .nmiClear => !port.dmaWrite && !port.wren && port.rden && port.addr.toNat == 2

/-- The pairs a bus cycle asks, given the write toggle. -/
def CpuBus.asks (bus : CpuBus) (latch : Bool) : Lane → Bool
  | .write => bus.writes 7
  | .read => bus.reads 7
  | .load => bus.writes 6 && latch
  | .inc => bus.writes 7 || bus.reads 7
  | .nmiClear => bus.reads 2

namespace Ppu

/-- The flags of a pair, as a toggle handshake. -/
def lane (ppu : Ppu) : Lane → Handshake
  | .write => ⟨ppu.cpu.cpuWriteRequest, ppu.access.ppuWriteHandle⟩
  | .read => ⟨ppu.cpu.cpuReadRequest, ppu.access.ppuReadHandle⟩
  | .load => ⟨ppu.cpu.cpuLoadVramRequest, ppu.vram.ppuLoadVramHandle⟩
  | .inc => ⟨ppu.cpu.cpuIncVramRequest, ppu.vram.ppuIncVramHandle⟩
  | .nmiClear => ⟨ppu.cpu.cpuNmiClearRequest, ppu.nmi.ppuNmiClearHandle⟩

/-- A request waits on this pair. -/
def waiting (ppu : Ppu) (l : Lane) : Bool := (ppu.lane l).pending

/-- What waits on each pair is the pending signal of the source. -/
theorem waiting_write (ppu : Ppu) : ppu.waiting .write = ppu.writePending := rfl

/-- The pair of the reads. -/
theorem waiting_read (ppu : Ppu) : ppu.waiting .read = ppu.readPending := rfl

/-- The pair of the loads of `v`. -/
theorem waiting_load (ppu : Ppu) : ppu.waiting .load = ppu.loadPending := rfl

/-- The pair of the increments. -/
theorem waiting_inc (ppu : Ppu) : ppu.waiting .inc = ppu.incPending := rfl

/-- The pair of the reads of `$2002`. -/
theorem waiting_nmiClear (ppu : Ppu) : ppu.waiting .nmiClear = ppu.nmiClearPending := rfl

/-- No pair disagrees: the PPU has performed every request. -/
def Quiet (ppu : Ppu) : Prop := ∀ l, ppu.waiting l = false

/-- The PPU answers a waiting request on this pair at its next edge. A live palette read
holds up the read handler; accesses hold up the VRAM address; loads go before increments. -/
def ready (ppu : Ppu) (port : CpuPort) : Lane → Bool
  | .write => true
  | .read => !ppu.cpuFramePaletteRead port
  | .load => !ppu.waiting .write && !ppu.waiting .read
  | .inc => !ppu.waiting .write && !ppu.waiting .read && !ppu.waiting .load
  | .nmiClear => true

end Ppu

/-- The request flags after an edge of `CPU_CLK`. -/
theorem CpuInterface.next_requests (r : CpuInterface) (port : CpuPort) :
    let r' := r.next false port
    r'.cpuWriteRequest = (r.cpuWriteRequest ^^ port.asks r.ppuLatch .write) ∧
      r'.cpuReadRequest = (r.cpuReadRequest ^^ port.asks r.ppuLatch .read) ∧
      r'.cpuLoadVramRequest = (r.cpuLoadVramRequest ^^ port.asks r.ppuLatch .load) ∧
      r'.cpuIncVramRequest = (r.cpuIncVramRequest ^^ port.asks r.ppuLatch .inc) ∧
      r'.cpuNmiClearRequest = (r.cpuNmiClearRequest ^^ port.asks r.ppuLatch .nmiClear) := by
  have number : port.addr.toNat = 0 ∨ port.addr.toNat = 1 ∨ port.addr.toNat = 2 ∨
      port.addr.toNat = 3 ∨ port.addr.toNat = 4 ∨ port.addr.toNat = 5 ∨
      port.addr.toNat = 6 ∨ port.addr.toNat = 7 := by
    have bound := port.addr.isLt
    omega
  cases dma : port.dmaWrite
  · cases wren : port.wren
    · cases rden : port.rden
      · simp [next, CpuPort.asks, dma, wren, rden]
      · rcases number with h | h | h | h | h | h | h | h <;>
          simp [next, read, CpuPort.asks, dma, wren, rden, h]
    · rcases number with h | h | h | h | h | h | h | h <;>
        cases latch : r.ppuLatch <;>
        simp [next, write, CpuPort.asks, dma, wren, h, latch]
  · simp [next, CpuPort.asks, dma]

namespace Ppu

variable (ppu : Ppu) (port : CpuPort) (data : Byte)

/-- The write pulse and the access handles after an edge of the PPU clock. -/
theorem accessNext_handles :
    let r := ppu.accessNext false true port data
    r.ppuWrite = ppu.waiting .write ∧
      r.ppuWriteHandle = (ppu.access.ppuWriteHandle ^^ ppu.waiting .write) ∧
      r.ppuReadHandle =
        (ppu.access.ppuReadHandle ^^ (ppu.waiting .read && ppu.ready port .read)) := by
  rw [waiting_write, waiting_read]
  cases w : ppu.writePending <;> cases live : ppu.cpuFramePaletteRead port <;>
    cases r : ppu.readPending <;> cases q : ppu.ppuReadRequest <;>
    cases one : ppu.access.oneAfterRead <;>
    simp [accessNext, writeHalf, readHalf, ready, ppuWriteRequest, w, live, r, q, one]

/-- The address handles after an edge of the PPU clock. -/
theorem vramNext_handles :
    let r := ppu.vramNext false
    r.ppuLoadVramHandle =
        (ppu.vram.ppuLoadVramHandle ^^ (ppu.waiting .load && ppu.ready port .load)) ∧
      r.ppuIncVramHandle =
        (ppu.vram.ppuIncVramHandle ^^ (ppu.waiting .inc && ppu.ready port .inc)) := by
  simp only [ready, waiting_write, waiting_read, waiting_load, waiting_inc]
  cases w : ppu.writePending <;> cases r : ppu.readPending <;> cases l : ppu.loadPending <;>
    cases i : ppu.incPending <;> cases e : ppu.renderEnable <;>
    simp [vramNext, w, r, l, i, e]

/-- The vertical blank handle after an edge of the PPU clock. -/
theorem nmiNext_handle :
    (ppu.nmiNext false).ppuNmiClearHandle =
      (ppu.nmi.ppuNmiClearHandle ^^ ppu.waiting .nmiClear) := by
  rw [waiting_nmiClear]
  cases c : ppu.nmiClearPending <;> cases u : ppu.ppuNmiSetRequest <;>
    cases d : ppu.ppuNmiClearRequest <;> simp [nmiNext, c, u, d]

end Ppu

namespace Nes

variable {pins : Pins} {bus : CpuBus} {nes : Nes}

/-- The bus cycle asks for service on a pair. -/
def asks (nes : Nes) (bus : CpuBus) (l : Lane) : Bool :=
  (nes.cpuControl bus).asks nes.ppu.cpu.ppuLatch l

/-- The PPU answers on a pair at its next edge. -/
def ready (nes : Nes) (bus : CpuBus) (l : Lane) : Bool :=
  nes.ppu.ready (nes.cpuControl bus) l

/-- Out of reset each pair makes one step of the toggle handshake over a period of the PPU
clock, when the two access handles make theirs: the pairs of the VRAM address and of vertical
blank do not see `ENABLE`. -/
theorem lane_of_handles (released : pins.reset = false) (cpuEdge : Bool) (answers : Lane → Bool)
    (ungated : ∀ l, l.gated = false → answers l = nes.ready bus l)
    (write : (nes.ppuClock pins bus cpuEdge).ppu.access.ppuWriteHandle =
      (nes.ppu.access.ppuWriteHandle ^^ (nes.ppu.waiting .write && answers .write)))
    (read : (nes.ppuClock pins bus cpuEdge).ppu.access.ppuReadHandle =
      (nes.ppu.access.ppuReadHandle ^^ (nes.ppu.waiting .read && answers .read))) (l : Lane) :
    (nes.ppuClock pins bus cpuEdge).ppu.lane l =
      (nes.ppu.lane l).step (cpuEdge && nes.asks bus l) (answers l) := by
  have requests := CpuInterface.next_requests nes.ppu.cpu (nes.settledPort pins bus)
  have port : ∀ l, (nes.settledPort pins bus).asks nes.ppu.cpu.ppuLatch l = nes.asks bus l := by
    intro l
    cases l <;> rfl
  simp only [port] at requests
  obtain ⟨writeRequest, readRequest, loadRequest, incRequest, nmiRequest⟩ := requests
  obtain ⟨loadHandle, incHandle⟩ := nes.ppu.vramNext_handles (nes.cpuControl bus)
  have nmiHandle := nes.ppu.nmiNext_handle
  have load := ungated .load rfl
  have inc := ungated .inc rfl
  have nmi := ungated .nmiClear rfl
  cases l <;> cases cpuEdge <;>
    simp only [Ppu.lane, write, read, load, inc, nmi, ppuClock_cpu, ppuClock_vram, ppuClock_nmi,
      released, Handshake.step, Handshake.served, Bool.false_and, Bool.true_and, Bool.xor_false,
      if_true, Bool.false_eq_true, if_false, writeRequest, readRequest, loadRequest, incRequest,
      nmiRequest, loadHandle, incHandle, nmiHandle, ready, Ppu.ready, Ppu.waiting,
      Bool.and_true]

/-- Over a period of the PPU clock each pair makes one step of the toggle handshake. -/
theorem lane_ppuClock (running : pins.Running) (cpuEdge : Bool) (l : Lane) :
    (nes.ppuClock pins bus cpuEdge).ppu.lane l =
      (nes.ppu.lane l).step (cpuEdge && nes.asks bus l) (nes.ready bus l) := by
  obtain ⟨-, write, read⟩ :=
    nes.ppu.accessNext_handles (nes.cpuControl bus) (nes.settledData pins bus)
  apply lane_of_handles running.reset cpuEdge (nes.ready bus) fun _ _ => rfl
  · rw [ppuClock_access, running.reset, running.enable, write, ready, Ppu.ready, Bool.and_true]
  · rw [ppuClock_access, running.reset, running.enable, read, ready]

/-- With no DMA the pairs are asked by the register accesses of the bus cycle. -/
theorem asks_of_free (free : nes.dma.dmaActive = false) (l : Lane) :
    nes.asks bus l = bus.asks nes.ppu.cpu.ppuLatch l := by
  cases l <;> cases direction : bus.rwN <;> cases inside : ppuRange bus.addr <;>
    simp [asks, CpuPort.asks, CpuBus.asks, CpuBus.writes, CpuBus.reads, cpuControl, dmaWrite,
      cpuPpuWren, cpuPpuRden, CpuBus.register_toNat, free, direction, inside,
      -BitVec.toNat_setWidth]

/-- What waits on a pair after a period: what it asked for, or what was held up. -/
theorem waiting_ppuClock (bus : CpuBus) (nes : Nes) (running : pins.Running) (cpuEdge : Bool)
    (l : Lane) :
    (nes.ppuClock pins bus cpuEdge).ppu.waiting l =
      ((cpuEdge && nes.asks bus l) ^^ (nes.ppu.waiting l && !nes.ready bus l)) := by
  rw [Ppu.waiting, lane_ppuClock running, Handshake.pending_step]
  rfl

/-- What waits on a pair after a bus cycle, from what waited just before its last edge. -/
theorem waiting_cpuClock (bus : CpuBus) (nes : Nes) (running : pins.Running) (l : Lane) :
    (nes.cpuClock pins bus).ppu.waiting l =
      (nes.asks bus l ^^
        ((nes.sample pins bus).ppu.waiting l && !(nes.sample pins bus).ready bus l)) := by
  have third := waiting_ppuClock bus
    ((nes.ppuClock pins bus false).ppuClock pins bus false) running true l
  rw [cpuClock_eq, third, Bool.true_and]
  simp only [sample, ready, asks, settle_ppu, settle_control, hold_control, ppuClock_cpu,
    Bool.false_eq_true, if_false]

end Nes

end FpgaNes
