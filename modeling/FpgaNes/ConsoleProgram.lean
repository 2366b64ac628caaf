import FpgaNes.Console
import FpgaNes.CpuMemory

/-!
# Programs on the console

The processor of the console, stalled by transfers, among devices and with the interrupts of
the PPU, follows the 6502 on the memory of a program.
-/

namespace FpgaNes

open Hdl
open Mos6502 (Word Running DeviceStep afterReset)
open T65 (System Lines Represents)

namespace Nes

/-- A byte may be stored twice. -/
theorem cpuMemory_store_twice (cells : Cells 11 × Cells 15) (addr : Word) (data : Byte) :
    cpuMemory.store (cpuMemory.store cells addr data) addr data =
      cpuMemory.store cells addr data := by
  by_cases low : addr.toNat ≤ 0x0FFF <;> simp [cpuMemory, low, Function.update_idem]

end Nes

namespace Console

variable {input : ConsoleInput} {c : Console} {b : System (Cells 11 × Cells 15)}

/-- What a processor with its memory sees of a bus cycle of the console: whether it goes on, the
interrupt lines, and the data bus. -/
def signal (input : ConsoleInput) (c : Console) : Bool × Lines × Byte :=
  ((c.drive input).enable, ⟨true, (c.sampled input).ppu.nmiN⟩, c.dataBus input)

/-- The console is at a bus cycle of a processor with its memory. In a write cycle that is
stalled the byte may have been stored already. -/
structure Follows (c : Console) (b : System (Cells 11 × Cells 15)) : Prop where
  /-- The processors are in one state. -/
  cpu : c.cpu.core = b.cpu
  /-- The first stage of the reset synchronizer is released. -/
  resNI : c.cpu.resNI = true
  /-- So is the second. -/
  resND : c.cpu.resND = true
  /-- The memories hold the same, but for a store that is still on the bus. -/
  cells : c.nes.cells = b.mem ∨
    c.cpu.core.wrN = false ∧
      c.nes.cells = Nes.cpuMemory.store b.mem c.cpu.core.address c.cpu.core.dataOut

/-- `RESET` low leaves the registers of the processor alone. -/
theorem core_released (released : input.reset = false) : c.core input = c.cpu.core := by
  rw [core, released]
  rfl

/-- Out of reset the registers of the processor are on the bus. -/
theorem bus_released (released : input.reset = false) :
    c.bus input = ⟨c.cpu.core.address, c.cpu.core.dataOut, c.cpu.core.wrN⟩ := by
  rw [bus, core_released released]

/-- The cells after a bus cycle of the console. -/
theorem clock_cells (idle : input.prgRomPrgmrWren = false) :
    (c.clock input).nes.cells =
      if c.nes.dma.dmaActive || (c.bus input).rwN then c.nes.cells
      else Nes.cpuMemory.store c.nes.cells (c.bus input).addr (c.bus input).dataOut :=
  Nes.cpuClock_cells (c.bus input) c.nes idle

/-- A read that no device answers finds RAM or ROM on the data bus. -/
theorem dataBus_load (released : input.reset = false) (idle : input.prgRomPrgmrWren = false)
    (free : c.nes.dma.dmaActive = false) (reading : c.cpu.core.wrN = true)
    (alone : Nes.cpuDevice c.cpu.core.address = false) :
    c.dataBus input = Nes.cpuMemory.load c.nes.cells c.cpu.core.address := by
  show (c.nes.sample (c.pins input) (c.bus input)).cpuDataBus (c.pins input) (c.bus input) = _
  generalize pins : c.pins input = p
  have quiet : p.prgRomPrgmrWren = false := by
    rw [← pins]
    exact idle
  rw [bus_released released]
  exact Nes.cpuDataBus_load _ c.nes quiet free reading alone

/-- A bus cycle of the console is one of the processor with its memory, or stalls it. -/
theorem Follows.clock (h : Follows c b) (released : input.reset = false)
    (idle : input.prgRomPrgmrWren = false) :
    Follows (c.clock input)
      (gated (System.deviceClock Nes.cpuMemory Nes.cpuDevice) (c.signal input) b) := by
  have cells := clock_cells (c := c) idle
  rw [bus_released released] at cells
  have resN : (c.drive input).resN = true := by
    show (!input.reset) = true
    rw [released]
    rfl
  have up : (c.clock input).cpu.resNI = true ∧ (c.clock input).cpu.resND = true := by
    show (c.cpu.step _).resNI = true ∧ (c.cpu.step _).resND = true
    rw [ResetT65.step, ResetT65.edge, resN]
    exact ⟨h.resND, rfl⟩
  cases goes : (c.drive input).enable with
  | false =>
    have stalled :
        gated (System.deviceClock Nes.cpuMemory Nes.cpuDevice) (c.signal input) b = b := by
      rw [gated, signal, goes]
      rfl
    have core : (c.clock input).cpu.core = c.cpu.core := by
      show (c.cpu.step _).core = _
      rw [ResetT65.step, ResetT65.edge, resN, h.resNI, goes]
      rfl
    rw [stalled]
    refine ⟨core.trans h.cpu, up.1, up.2, ?_⟩
    rw [core, cells]
    split
    · exact h.cells
    · next writes =>
      rw [Bool.or_eq_true, not_or, Bool.not_eq_true, Bool.not_eq_true] at writes
      refine .inr ⟨writes.2, ?_⟩
      rcases h.cells with same | ⟨-, stored⟩
      · rw [same]
      · rw [stored, Nes.cpuMemory_store_twice]
  | true =>
    have free : c.nes.dma.dmaActive = false := by
      have enable : (input.enable && !c.nes.dma.dmaActive) = true := goes
      rw [Bool.and_eq_true, Bool.not_eq_true'] at enable
      exact enable.2
    have clocked : c.cpu.clocks (c.drive input) = true := by
      rw [ResetT65.clocks, resN, h.resNI, goes]
      rfl
    have core : (c.clock input).cpu.core =
        c.cpu.core.clock (c.drive input).pins (c.drive input).di := ResetT65.step_clocked clocked
    have steps : gated (System.deviceClock Nes.cpuMemory Nes.cpuDevice) (c.signal input) b =
        b.deviceClock Nes.cpuMemory Nes.cpuDevice (c.signal input).2 := by
      rw [gated, signal, goes]
      rfl
    have load : Cpu2A03.di c.cpu.core (c.dataBus input) =
        Cpu2A03.di b.cpu ((Nes.cpuMemory.answering Nes.cpuDevice fun _ => c.dataBus input).load
          b.mem b.cpu.address) := by
      rw [← h.cpu, Cpu2A03.di, Cpu2A03.di]
      cases reading : c.cpu.core.wrN with
      | false => rfl
      | true =>
        show c.dataBus input = if Nes.cpuDevice _ then c.dataBus input else Nes.cpuMemory.load _ _
        cases device : Nes.cpuDevice c.cpu.core.address with
        | true => rfl
        | false =>
          have same : c.nes.cells = b.mem := h.cells.resolve_right fun stored =>
            Bool.false_ne_true (stored.1.symm.trans reading)
          rw [dataBus_load released idle free reading device, same]
          rfl
    rw [steps]
    refine ⟨?_, up.1, up.2, .inl ?_⟩
    · have di : (c.drive input).di = Cpu2A03.di c.cpu.core (c.dataBus input) := by
        show Cpu2A03.di (c.core input) _ = _
        rw [core_released released]
      rw [core, di, load, h.cpu]
      rfl
    · rw [cells, free, Bool.false_or]
      show _ = if b.cpu.wrN then b.mem else Nes.cpuMemory.store b.mem b.cpu.address b.cpu.dataOut
      rw [← h.cpu]
      rcases h.cells with same | ⟨writes, stored⟩
      · rw [same]
      · rw [writes, stored, if_neg Bool.false_ne_true, if_neg Bool.false_ne_true,
          Nes.cpuMemory_store_twice]

/-! ## Runs from a reset -/

/-- Out of reset, with the programmer of the ROM idle, from the second clock on. -/
structure Started (io : ℕ → ConsoleInput) : Prop where
  /-- `RESET` is high for one clock. -/
  asserted : (io 0).reset = true
  /-- It is low ever after. -/
  released : ∀ n, (io (n + 1)).reset = false
  /-- PRG ROM is not being programmed. -/
  idle : ∀ n, (io n).prgRomPrgmrWren = false

variable {io : ℕ → ConsoleInput} {start : Console}

/-- For three clocks after a reset the registers are those of the reset. -/
theorem run_reset (asserted : (io 0).reset = true) (released : ∀ n, (io (n + 1)).reset = false)
    (start : Console) :
    (run io start 1).cpu = ⟨start.cpu.core.reset, false, false⟩ ∧
      (run io start 2).cpu = ⟨start.cpu.core.reset, false, true⟩ ∧
        (run io start 3).cpu = ⟨start.cpu.core.reset, true, true⟩ := by
  have holds (n : ℕ) (resND : Bool)
      (held : (run io start (n + 1)).cpu = ⟨start.cpu.core.reset, false, resND⟩) :
      (run io start (n + 1 + 1)).cpu = ⟨start.cpu.core.reset, resND, true⟩ := by
    show (run io start (n + 1)).cpu.step ((run io start (n + 1)).drive (io (n + 1))) = _
    have high : ((run io start (n + 1)).drive (io (n + 1))).resN = true := by
      show (!(io (n + 1)).reset) = true
      rw [released]
      rfl
    rw [held, ResetT65.step, ResetT65.edge, high]
    rfl
  have one : (run io start 1).cpu = ⟨start.cpu.core.reset, false, false⟩ := by
    show start.cpu.step (start.drive (io 0)) = _
    have low : (start.drive (io 0)).resN = false := by
      show (!(io 0).reset) = false
      rw [asserted]
      rfl
    rw [ResetT65.step, ResetT65.edge, low]
    rfl
  have two := holds 0 false one
  exact ⟨one, two, holds 1 true two⟩

/-- Three clocks after a reset nothing was stored. -/
theorem run_started (begins : Started io) (start : Console) :
    (run io start 3).cpu = ⟨start.cpu.core.reset, true, true⟩ ∧
      (run io start 3).nes.cells = start.nes.cells := by
  obtain ⟨one, two, three⟩ := run_reset begins.asserted begins.released start
  have kept (n : ℕ) (held : (run io start n).core (io n) = start.cpu.core.reset) :
      (run io start (n + 1)).nes.cells = (run io start n).nes.cells := by
    have reads : ((run io start n).bus (io n)).rwN = true := congrArg T65.wrN held
    have cells := clock_cells (c := run io start n) (begins.idle n)
    rw [reads, Bool.or_true, if_pos rfl] at cells
    exact cells
  have zero : start.core (io 0) = start.cpu.core.reset := by
    rw [core, begins.asserted]
    rfl
  refine ⟨three, ?_⟩
  rw [kept 2 (by rw [core_released (begins.released 1), two]),
    kept 1 (by rw [core_released (begins.released 0), one]), kept 0 zero]
  rfl

/-- The signals of the bus cycles after a reset. -/
def signals (io : ℕ → ConsoleInput) (start : Console) (n : ℕ) : Bool × Lines × Byte :=
  (run io start (3 + n)).signal (io (3 + n))

/-- From a reset on the console makes the bus cycles of a processor with its memory. -/
theorem run_follows (begins : Started io) (n : ℕ) :
    Follows (run io start (3 + n))
      (trace (gated (System.deviceClock Nes.cpuMemory Nes.cpuDevice)) (signals io start)
        ⟨start.cpu.core.reset, start.nes.cells⟩ n) := by
  induction n with
  | zero =>
    obtain ⟨cpu, cells⟩ := run_started begins start
    refine ⟨?_, ?_, ?_, .inl cells⟩ <;> rw [Nat.add_zero, cpu]
    rfl
  | succ n ih =>
    have released : (io (3 + n)).reset = false := by
      rw [show 3 + n = 2 + n + 1 by omega]
      exact begins.released (2 + n)
    exact ih.clock released (begins.idle (3 + n))

/-- The machine cycles of the processor before a clock after a reset. -/
def cycles (io : ℕ → ConsoleInput) (start : Console) (n : ℕ) : ℕ :=
  enabledCount (signals io start) n

/-- The registers of the processor in a clock after a reset. -/
def coreAt (io : ℕ → ConsoleInput) (start : Console) (n : ℕ) : T65 :=
  (run io start (3 + n)).cpu.core

/-- From the reset and from each opcode fetch on, over seven machine cycles, each device that is
read answers with one byte. -/
def DevicesAnswer (io : ℕ → ConsoleInput) (start : Console) (answers : ℕ → Word → Byte)
    (time : ℕ) : Prop :=
  ∀ r s, s < time → (signals io start r).1 = true → (signals io start s).1 = true →
    cycles io start r = 0 ∨ (coreAt io start r).sync = true →
    cycles io start r ≤ cycles io start s → cycles io start s < cycles io start r + 7 →
    (coreAt io start s).wrN = true → Nes.cpuDevice (coreAt io start s).address = true →
    (run io start (3 + s)).dataBus (io (3 + s)) =
      answers (cycles io start r) (coreAt io start s).address

/-- The run of the processor with its memory, by machine cycles. -/
theorem follows_cycle (begins : Started io) (start : Console) (n : ℕ) :
    Follows (run io start (3 + n))
      (trace (System.deviceClock Nes.cpuMemory Nes.cpuDevice) (enabledInputs (signals io start))
        ⟨start.cpu.core.reset, start.nes.cells⟩ (cycles io start n)) := by
  rw [cycles, ← trace_gated]
  exact run_follows begins n

/-- The devices answer the processor by machine cycles as they do by clocks. -/
theorem DevicesAnswer.answered (begins : Started io) {answers : ℕ → Word → Byte} {time : ℕ}
    (devices : DevicesAnswer io start answers time) :
    T65.Answered Nes.cpuMemory Nes.cpuDevice (enabledInputs (signals io start))
      ⟨start.cpu.core.reset, start.nes.cells⟩ answers (cycles io start time) := by
  intro m fetch j near within asks
  obtain ⟨s, before, enabled, here⟩ := enabledCount_step (signals io start) within
  obtain ⟨r, -, enabled', there⟩ := enabledCount_step (signals io start)
    (Nat.lt_of_le_of_lt (Nat.le_add_right m j) within)
  have now := (follows_cycle begins start s).cpu
  have then' := (follows_cycle begins start r).cpu
  rw [cycles, here] at now
  rw [cycles, there] at then'
  have answer := devices r s before enabled' enabled
  rw [cycles, there, cycles, here, coreAt, coreAt, now, then'] at answer
  rw [System.asks, Bool.and_eq_true] at asks
  rw [← answer fetch (Nat.le_add_right m j) (by omega) asks.1 asks.2, ← here,
    enabledInputs_count _ enabled]
  rfl

/-- The program at the reset vector of the console. -/
def afterReset (start : Console) : Running (Cells 11 × Cells 15) :=
  ⟨Mos6502.afterReset Nes.cpuMemory start.cpu.core.regs start.nes.cells, none⟩

/-- No device is at the reset vector. -/
theorem afterReset_answering (answer : Word → Byte) (start : Console) :
    (⟨Mos6502.afterReset (Nes.cpuMemory.answering Nes.cpuDevice answer) start.cpu.core.regs
      start.nes.cells, none⟩ : Running (Cells 11 × Cells 15)) = afterReset start := rfl

/-- Every register low, as the device powers up, over memories that hold anything. -/
def powerUp (mem : Memories) : Console where
  cpu := .powerUp
  nes := .powerUp mem
  apu := .powerUp
  playerOne := ⟨0, false, false, false, false, false⟩
  playerTwo := ⟨0, false, false, false, false, false⟩

/-- A jump to itself at `$8000`, where every vector points. -/
def endlessLoop (addr : BitVec 15) : Byte :=
  if addr = 0 then 0x4C
  else if addr = 1 then 0x00
  else if addr = 2 ∨ addr.getLsbD 0 = true then 0x80
  else 0x00

/-- A console with the loop in its ROM. -/
def looping : Console := powerUp { Memories.blank with prgRom := ⟨endlessLoop, 0⟩ }

/-- One clock of reset, then a console in play. -/
def playing (n : ℕ) : ConsoleInput where
  reset := n == 0
  enable := true
  header := ⟨false, true⟩
  prgRomPrgmrWren := false
  chrRomPrgmrWren := false
  romPrgmrAddr := 0
  romPrgmrData := 0
  controllerOneKeycode := 0
  controllerTwoKeycode := 0

/-- The program is in the loop. -/
def InLoop (p : Running (Cells 11 × Cells 15)) : Prop :=
  p.machine.regs.pc = 0x8000 ∧ p.machine.mem.2 = endlessLoop

/-- The loop, read through the bus. -/
theorem endlessLoop_load (answer : Word → Byte) (ram : Cells 11) {addr : Word} {data : Byte}
    (alone : Nes.cpuDevice addr = false) (rom : 0x4020 ≤ addr.toNat)
    (holds : endlessLoop (addr.setWidth 15) = data) :
    (Nes.cpuMemory.answering Nes.cpuDevice answer).load (ram, endlessLoop) addr = data :=
  (Nes.cpuMemory_load_rom answer (ram, endlessLoop) alone rom).trans holds

/-- Every vector is the start of the loop. -/
theorem endlessLoop_vector (answer : Word → Byte) (ram : Cells 11) {vector : Word}
    (chosen : vector ∈ Mos6502.vectors) :
    Mos6502.loadWord (Nes.cpuMemory.answering Nes.cpuDevice answer) (ram, endlessLoop) vector
      (vector + 1) = 0x8000 := by
  rw [Mos6502.vectors, List.mem_pair] at chosen
  rw [Mos6502.loadWord]
  rcases chosen with rfl | rfl
  · rw [endlessLoop_load answer ram (by decide) (by decide) rfl,
      endlessLoop_load answer ram (by decide) (by decide) rfl]
    rfl
  · rw [endlessLoop_load answer ram (by decide) (by decide) rfl,
      endlessLoop_load answer ram (by decide) (by decide) rfl]
    rfl

/-- The instruction of the loop is a jump. -/
theorem InLoop.opcode {p : Running (Cells 11 × Cells 15)} (inside : InLoop p)
    (answer : Word → Byte) :
    (Nes.cpuMemory.answering Nes.cpuDevice answer).load p.machine.mem p.machine.regs.pc =
      0x4C := by
  obtain ⟨⟨⟨a, x, y, sp, pc, flags⟩, ram, rom⟩, accepted⟩ := p
  obtain ⟨rfl, rfl⟩ : pc = 0x8000 ∧ rom = endlessLoop := inside
  show Mos6502.Memory.load _ (ram, endlessLoop) 0x8000 = 0x4C
  exact endlessLoop_load answer ram (by decide) (by decide) rfl

/-- A step stays in the loop. -/
theorem step_inLoop (answer : Word → Byte) {p q : Running (Cells 11 × Cells 15)} {k : ℕ}
    (inside : InLoop p) (step : DeviceStep Nes.cpuMemory Nes.cpuDevice answer p k q) :
    InLoop q := by
  have opcode := inside.opcode answer
  obtain ⟨⟨⟨a, x, y, sp, pc, flags⟩, ram, rom⟩, accepted⟩ := p
  obtain ⟨rfl, rfl⟩ : pc = 0x8000 ∧ rom = endlessLoop := inside
  have low : (Nes.cpuMemory.answering Nes.cpuDevice answer).load (ram, endlessLoop) 0x8001 =
      0x00 := endlessLoop_load answer ram (by decide) (by decide) rfl
  have high : (Nes.cpuMemory.answering Nes.cpuDevice answer).load (ram, endlessLoop) 0x8002 =
      0x80 := endlessLoop_load answer ram (by decide) (by decide) rfl
  cases step with
  | execute decoded other masked =>
    rw [opcode] at decoded
    cases decoded
    refine ⟨?_, rfl⟩
    show ((Nes.cpuMemory.answering Nes.cpuDevice answer).load (ram, endlessLoop) 0x8002 ++
      (Nes.cpuMemory.answering Nes.cpuDevice answer).load (ram, endlessLoop) 0x8001 : Word) = 0x8000
    rw [low, high]
    rfl
  | brk decoded chosen =>
    rw [opcode] at decoded
    cases decoded
  | irq chosen => exact ⟨endlessLoop_vector answer _ chosen, rfl⟩
  | nmi => exact ⟨endlessLoop_vector answer _ (List.mem_pair.mpr (.inr rfl)), rfl⟩

end Console

end FpgaNes
