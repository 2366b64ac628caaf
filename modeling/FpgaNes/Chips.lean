import FpgaNes.InterruptFlag
import FpgaNes.LengthCounters
import FpgaNes.Bus
import Mathlib.Data.Nat.Count

/-!
# The PPU and the APU side by side

The two chips on their shared pins, with the processor and the memories as the environment:
the PPU is clocked on every dot and the APU on the dots that end with an edge of `CPU_CLK`.
The registers that `RESET` leaves of each are told below.
-/

namespace FpgaNes

open Hdl

/-- What the two chips read over one PPU clock. -/
structure ChipInput where
  /-- `RESET`. -/
  reset : Bool
  /-- `ENABLE`. -/
  enable : Bool
  /-- `CPU_CLK` rises with the edge that ends this clock. -/
  cpuEdge : Bool
  /-- The port of the PPU. -/
  ppuPort : CpuPort
  /-- The bus interface of the APU, whose `RESET` is the pin above. -/
  apuPort : ApuPort
  /-- What the memory on the PPU bus answers. -/
  dataIn : Byte
  /-- What the frame palette answers. -/
  renderData : Byte

/-- The port of the APU, on the shared reset. -/
def ChipInput.apu (input : ChipInput) : ApuPort := { input.apuPort with reset := input.reset }

/-- The registers of the two chips. -/
structure Chips where
  /-- The PPU. -/
  ppu : Ppu
  /-- The APU. -/
  apu : Apu

/-- Every block of the PPU on `posedge CLK`, and its CPU interface when `CPU_CLK` rises too. -/
def Ppu.clock (input : ChipInput) (ppu : Ppu) : Ppu where
  cpu := if input.cpuEdge then ppu.cpu.next input.reset input.ppuPort else ppu.cpu
  engine := ppu.engineNext input.reset
  bg := ppu.backgroundNext input.reset input.dataIn
  units := ppu.unitsNext input.reset input.dataIn
  eval := ppu.evalNext input.reset
  vram := ppu.vramNext input.reset
  access := ppu.accessNext input.reset input.enable input.ppuPort input.dataIn
  nmi := ppu.nmiNext input.reset
  sprite0Hit := ppu.sprite0HitNext input.reset
  lines := ppu.linesNext input.reset input.renderData

namespace Chips

/-- One period of the PPU clock. -/
def clock (input : ChipInput) (chips : Chips) : Chips where
  ppu := chips.ppu.clock input
  apu := if input.cpuEdge then chips.apu.clock input.apu else chips.apu

/-- The chips after each number of PPU clocks. -/
def run (io : ℕ → ChipInput) (start : Chips) : ℕ → Chips := trace clock io start

/-- Both chips as the device powers up. -/
def powerUp : Chips := ⟨(Nes.powerUp .blank).ppu, .powerUp⟩

/-- What leaves the chips in one clock, other than addresses and samples: the interrupt line, the
write pulse, what a read of each status register finds, and the frame events. -/
structure Observation where
  /-- The interrupt line. -/
  nmiN : Bool
  /-- The write pulse of the PPU. -/
  ppuWrite : Bool
  /-- What a read of `$2002` returns. -/
  ppuStatus : Byte
  /-- What a read of `$4015` returns. -/
  apuStatus : Byte
  /-- A quarter-frame event. -/
  quarter : Bool
  /-- A half-frame event. -/
  half : Bool
  deriving DecidableEq

/-- The read of `$2002`, on the port of the PPU. -/
def ppuStatusRead : CpuPort := ⟨0, 2, false, true, false, 0, 0⟩

/-- The read of `$4015`, on the port of the APU. -/
def apuStatusRead : ApuPort := ⟨false, 0, 0x15, false, true⟩

/-- What a clock shows. Frame events are on edges of `CPU_CLK`. -/
def observe (input : ChipInput) (chips : Chips) : Observation where
  nmiN := chips.ppu.nmiN
  ppuWrite := chips.ppu.access.ppuWrite
  ppuStatus := chips.ppu.cpuDataOut ppuStatusRead 0
  apuStatus := chips.apu.cpuDataOut apuStatusRead
  quarter := input.cpuEdge && (chips.apu.frameEvents input.apu).quarter
  half := input.cpuEdge && (chips.apu.frameEvents input.apu).half

/-- No request and handle pair disagrees: the five of the PPU, the mode updates of the frame
sequencer, and the clears and sets of the frame interrupt. -/
structure Quiet (chips : Chips) : Prop where
  /-- The pairs of the PPU agree. -/
  ppu : chips.ppu.Quiet
  /-- The pair of the mode updates agrees. -/
  mode : chips.apu.modePair.pending = false
  /-- The pair of the clears agrees. -/
  clear : chips.apu.clearPair.pending = false
  /-- The pair of the sets agrees. -/
  set : chips.apu.setPair.pending = false

end Chips

/-! ## The console -/

namespace Nes

/-- What the chips read in the console: the decoded bus cycle, and the data of its memories. -/
def chipInput (pins : Pins) (bus : CpuBus) (cpuEdge : Bool) (nes : Nes) : ChipInput where
  reset := pins.reset
  enable := pins.enable
  cpuEdge := cpuEdge
  ppuPort := nes.cpuPort pins bus
  apuPort := nes.apuPort pins bus
  dataIn := nes.ppuDataBus pins bus
  renderData := nes.mem.framePalette.renderData

/-- The PPU of the console takes the clock of the chip. -/
theorem ppuEdge_chip (pins : Pins) (bus : CpuBus) (cpuEdge : Bool) (nes : Nes) :
    (nes.ppuEdge pins bus cpuEdge).ppu = nes.ppu.clock (nes.chipInput pins bus cpuEdge) := rfl

end Nes

/-! ## Reset -/

/-- `RESET` is held high over a number of clocks that end with two edges of `CPU_CLK` or more. It
resets the processor too, which then makes no access. -/
structure ResetHold (io : ℕ → ChipInput) (n : ℕ) : Prop where
  /-- `RESET` is high. -/
  reset : ∀ i < n, (io i).reset = true
  /-- The APU is not written. -/
  unwritten : ∀ i < n, (io i).apuPort.cpuWren = false
  /-- The APU is not read. -/
  unread : ∀ i < n, (io i).apuPort.cpuRden = false
  /-- `CPU_CLK` rises at least twice. -/
  edges : 2 ≤ Nat.count (fun i => (io i).cpuEdge = true) n

namespace Ppu

/-- The PPU with every register that `RESET` clears low. -/
def cleared (ppu : Ppu) : Ppu where
  cpu :=
    { ppu.cpu with
      cpuWriteRequest := false
      cpuReadRequest := false
      cpuIncVramRequest := false
      cpuNmiClearRequest := false
      cpuLoadVramRequest := false
      ppuLatch := false
      oam := fun _ _ => 0 }
  engine := ⟨0, 0, 0, 0, false⟩
  bg := { ppu.bg with ntableByte := 0 }
  units := ppu.units
  eval :=
    { ppu.eval with
      oamClearCounter := 0
      spriteOamIdx := 0
      spriteByteIdx := 0
      spriteCounter := 0
      spriteFetchIdx := 0 }
  vram := ⟨.ofBits 0, false, false⟩
  access :=
    { ppu.access with
      ppuRead := false
      ppuWrite := false
      ppuWriteHandle := false
      ppuReadHandle := false
      oneAfterRead := false }
  nmi := { ppu.nmi with nmiOccured := false }
  sprite0Hit := false
  lines := { ppu.lines with ppuLinebuffer := false }

/-- A clock with `RESET` high clears the PPU, but for its CPU interface, which waits for an edge of
`CPU_CLK`. -/
theorem clock_reset {input : ChipInput} (held : input.reset = true) (ppu : Ppu) :
    ppu.clock input =
      { ppu.cleared with cpu := if input.cpuEdge then ppu.cleared.cpu else ppu.cpu } := by
  rw [clock, held]
  rfl

/-- A clock with `RESET` high moves no register that stays. -/
theorem cleared_clock {input : ChipInput} (held : input.reset = true) (ppu : Ppu) :
    (ppu.clock input).cleared = ppu.cleared := by
  rw [clock_reset held]
  cases input.cpuEdge <;> rfl

/-- The PPU is cleared by the first edge of `CPU_CLK`, and stays so. -/
theorem run_cleared {io : ℕ → ChipInput} {n : ℕ} (reset : ∀ i < n, (io i).reset = true)
    (edges : 1 ≤ Nat.count (fun i => (io i).cpuEdge = true) n) (start : Chips) :
    (Chips.run io start n).ppu = start.ppu.cleared := by
  have kept (m : ℕ) (le : m ≤ n) : (Chips.run io start m).ppu.cleared = start.ppu.cleared :=
    trace_invariant (fun _ (chips : Chips) => chips.ppu.cleared = start.ppu.cleared) rfl m
      fun i below before =>
        (cleared_clock (reset i (by omega)) (Chips.run io start i).ppu).trans before
  induction n with
  | zero => exact absurd edges (by rw [Nat.count_zero]; decide)
  | succ n ih =>
    have clock : (Chips.run io start (n + 1)).ppu = _ :=
      clock_reset (reset n (Nat.lt_succ_self n)) (Chips.run io start n).ppu
    rw [kept n (Nat.le_succ n)] at clock
    rw [clock]
    cases edge : (io n).cpuEdge with
    | true => rfl
    | false =>
      rw [Nat.count_succ, edge, if_neg Bool.false_ne_true] at edges
      rw [ih (fun i below => reset i (by omega)) edges fun m le => kept m (by omega)]
      rfl

/-- The PPU after a reset of the device. -/
theorem run_held {io : ℕ → ChipInput} {n : ℕ} (hold : ResetHold io n) (start : Chips) :
    (Chips.run io start n).ppu = start.ppu.cleared :=
  run_cleared hold.reset (Nat.le_of_succ_le hold.edges) start

end Ppu

namespace PulseRegisters

/-- A clock with `RESET` high and no access clears the registers of a channel. -/
theorem next_reset (p : PulseRegisters) {port : ApuPort} (channel : Channel)
    (held : port.reset = true) (unwritten : port.cpuWren = false) :
    p.next port channel = cleared := by
  have silent (register : BitVec 5) : port.writes register = false := by
    rw [ApuPort.writes, unwritten, Bool.false_and]
  rw [next, silent, silent, silent, held]
  rfl

end PulseRegisters

namespace Apu

/-- A half-frame event that a disabled channel has not answered. -/
def staleLength (apu : Apu) (channel : Channel) : Bool :=
  (apu.lengthPair channel).pending && !apu.status.pulseEnable channel

/-- What `RESET` makes of the APU, seen from what it was. -/
structure Cleared (start apu : Apu) : Prop where
  /-- The status block is cleared. -/
  status : apu.status = start.status.cleared
  /-- The count is cleared. -/
  sequencer : apu.sequencer = { start.sequencer with counter := 0 }
  /-- The flag is cleared. -/
  interrupt : apu.interrupt = { start.interrupt with frameInterrupt := false }
  /-- No channel is halted. -/
  halted : ∀ channel, (apu.pulse channel).regs.loopFlag = false
  /-- A half-frame event waits only where a disabled channel has kept it. -/
  length : ∀ channel, (apu.lengthPair channel).pending = start.staleLength channel

variable {start apu : Apu} {port : ApuPort}

/-- A clock with `RESET` high and no access: the status block and the sequencer. -/
theorem clock_reset (held : port.reset = true) (unwritten : port.cpuWren = false)
    (unread : port.cpuRden = false) (apu : Apu) :
    (apu.clock port).status = apu.status.cleared ∧
      (apu.clock port).sequencer = { apu.sequencer with counter := 0 } ∧
      (apu.clock port).interrupt = { apu.interrupt with frameInterrupt := false } ∧
      ∀ channel, ((apu.clock port).pulse channel).regs = PulseRegisters.cleared ∧
        ((apu.clock port).lengthPair channel).pending = apu.staleLength channel := by
  have silent (register : BitVec 5) : port.writes register = false := by
    rw [ApuPort.writes, unwritten, Bool.false_and]
  have quiet : port.readsStatus = false := by
    rw [ApuPort.readsStatus, unread, Bool.and_false, Bool.and_false]
  refine ⟨?_, ?_, ?_, fun channel => ⟨?_, ?_⟩⟩
  · show apu.status.next port = _
    rw [ApuStatus.next, silent, silent, quiet, held]
    rfl
  · show apu.sequencer.next port.reset _ _ = _
    rw [held]
    rfl
  · show apu.interrupt.next port.reset _ _ _ = _
    rw [held]
    rfl
  · exact (apu.pulse channel).regs.next_reset channel held unwritten
  · have still : apu.halfFrame port = false := by
      show (apu.sequencer.halfClock ^^ (apu.sequencer.next port.reset _ _).halfClock) = false
      rw [held]
      exact Bool.xor_self _
    have unloaded : port.pulseLcLoad channel = false := silent _
    rw [lengthPending_clock, still, unloaded, Bool.false_xor, Bool.not_false, Bool.and_true,
      staleLength]

/-- The first edge clears the APU. -/
theorem cleared_first (held : port.reset = true) (unwritten : port.cpuWren = false)
    (unread : port.cpuRden = false) (start : Apu) : Cleared start (start.clock port) := by
  obtain ⟨status, sequencer, interrupt, channels⟩ := clock_reset held unwritten unread start
  exact ⟨status, sequencer, interrupt, fun channel => by rw [(channels channel).1]; rfl,
    fun channel => (channels channel).2⟩

/-- Further edges leave it cleared, and its disabled length counters empty. -/
theorem Cleared.clock (cleared : Cleared start apu) (held : port.reset = true)
    (unwritten : port.cpuWren = false) (unread : port.cpuRden = false) :
    Cleared start (apu.clock port) ∧
      ∀ channel, (apu.clock port).pulseLengthCounter channel = 0 := by
  obtain ⟨status, sequencer, interrupt, channels⟩ := clock_reset held unwritten unread apu
  refine ⟨⟨?_, ?_, ?_, fun channel => by rw [(channels channel).1]; rfl, fun channel => ?_⟩,
    fun channel => ?_⟩
  · rw [status, cleared.status]
    rfl
  · rw [sequencer, cleared.sequencer]
  · rw [interrupt, cleared.interrupt]
  · rw [(channels channel).2, staleLength, cleared.length, cleared.status]
    exact Bool.and_true _
  · apply BitVec.eq_of_toNat_eq
    rw [pulseLengthCounter_clock, cleared.status]
    rfl

/-- After two edges of `CPU_CLK` with `RESET` high the APU is cleared and its length counters are
empty. -/
theorem run_cleared {io : ℕ → ChipInput} {n : ℕ} (hold : ResetHold io n) (start : Chips) :
    Cleared start.apu (Chips.run io start n).apu ∧
      ∀ channel, (Chips.run io start n).apu.pulseLengthCounter channel = 0 := by
  let edges := Nat.count fun i => (io i).cpuEdge = true
  have counted (m : ℕ) (le : m ≤ n) :
      (edges m = 0 ∧ (Chips.run io start m).apu = start.apu) ∨
        (1 ≤ edges m ∧ Cleared start.apu (Chips.run io start m).apu ∧
          (2 ≤ edges m →
            ∀ channel, (Chips.run io start m).apu.pulseLengthCounter channel = 0)) := by
    induction m with
    | zero => exact Or.inl ⟨Nat.count_zero _, rfl⟩
    | succ m ih =>
      have before := ih (by omega)
      have held : (io m).apu.reset = true := hold.reset m (by omega)
      have unwritten : (io m).apu.cpuWren = false := hold.unwritten m (by omega)
      have unread : (io m).apu.cpuRden = false := hold.unread m (by omega)
      have clock : (Chips.run io start (m + 1)).apu =
          if (io m).cpuEdge then (Chips.run io start m).apu.clock (io m).apu
          else (Chips.run io start m).apu := rfl
      have count : edges (m + 1) = edges m + if (io m).cpuEdge = true then 1 else 0 :=
        Nat.count_succ _ m
      cases edge : (io m).cpuEdge with
      | false =>
        rw [edge, if_neg Bool.false_ne_true] at clock count
        rw [count, clock]
        exact before
      | true =>
        rw [edge, if_pos rfl] at clock count
        rw [count, clock]
        right
        rcases before with ⟨none', same⟩ | ⟨some', cleared, -⟩
        · rw [same]
          exact ⟨by omega, cleared_first held unwritten unread start.apu, by omega⟩
        · obtain ⟨again, empty⟩ := cleared.clock held unwritten unread
          exact ⟨by omega, again, fun _ => empty⟩
  have two : 2 ≤ edges n := hold.edges
  rcases counted n (Nat.le_refl n) with ⟨none', -⟩ | ⟨-, cleared, empty⟩
  · omega
  · exact ⟨cleared, empty two⟩

end Apu

end FpgaNes
