import FpgaNes.Ppu.State

/-!
# Units of the APU

The five modules that `APU.sv` instantiates. Each is clocked by `CPU_CLK` and takes the clock
of the unit before it as a level that toggles: a register of its own, the handle, holds the
level it has answered, and a difference between the two is an edge to act on.
-/

namespace FpgaNes

/-! ## Frame sequencer -/

/-- Registers of `APU_FRAME_SEQUENCER.sv`. -/
@[ext]
structure FrameSequencer where
  /-- The clocks since the sequence started. -/
  counter : BitVec 16
  /-- The mode update this module has answered. -/
  modeHandler : Bool
  /-- `half_clock`, turned over for each half-frame event. -/
  halfClock : Bool
  /-- `quarter_clock`, turned over for each quarter-frame event. -/
  quarterClock : Bool
  /-- `frame_irq_request`, turned over for each set. -/
  frameIrqRequest : Bool
  deriving DecidableEq

namespace FrameSequencer

/-- A step of the sequence whose last step is at a given count. The last step also asks for a
frame interrupt when `irq` is set. -/
def step (last : ℕ) (irq : Bool) (q : FrameSequencer) : FrameSequencer :=
  if q.counter.toNat = 7457 then
    { q with quarterClock := !q.quarterClock, counter := q.counter + 1 }
  else if q.counter.toNat = 14913 then
    { q with
      quarterClock := !q.quarterClock
      halfClock := !q.halfClock
      counter := q.counter + 1 }
  else if q.counter.toNat = 22371 then
    { q with quarterClock := !q.quarterClock, counter := q.counter + 1 }
  else if last ≤ q.counter.toNat then
    { q with
      counter := 0
      quarterClock := !q.quarterClock
      halfClock := !q.halfClock
      frameIrqRequest := q.frameIrqRequest ^^ irq }
  else { q with counter := q.counter + 1 }

/-- The count at which the sequence of a mode ends. -/
def lastCount (mode : Bool) : ℕ := if mode then 37281 else 29839

/-- `MODE ZERO`: four steps, and an interrupt. -/
def modeZero (q : FrameSequencer) : FrameSequencer := q.step (lastCount false) true

/-- `MODE ONE`: five steps, and none. -/
def modeOne (q : FrameSequencer) : FrameSequencer := q.step (lastCount true) false

/-- The mode was written, with bit 7 set, and the clocks owe it an edge. -/
def immediate (q : FrameSequencer) (mode modeUpdate : Bool) : Bool :=
  (q.modeHandler ^^ modeUpdate) && mode

/-- `always_ff @ (posedge cpu_clk)` of the frame sequencer. -/
def next (q : FrameSequencer) (reset mode modeUpdate : Bool) : FrameSequencer :=
  if reset then { q with counter := 0 }
  else if q.immediate mode modeUpdate then
    { q with
      modeHandler := !q.modeHandler
      halfClock := !q.halfClock
      quarterClock := !q.quarterClock }
  else if mode then q.modeOne else q.modeZero

end FrameSequencer

/-! ## Envelope generator -/

/-- Registers of `APU_ENVELOPE_GENERATOR.sv`. -/
structure EnvelopeGenerator where
  /-- The level of the clock that was last answered. -/
  clkHandle : Bool
  /-- The counter of the divider. -/
  dividerCounter : BitVec 4
  /-- The decay level. -/
  decayLevel : BitVec 4
  deriving DecidableEq

namespace EnvelopeGenerator

/-- `always_ff @ (posedge cpu_clk)` of the envelope generator. -/
def next (e : EnvelopeGenerator) (clkEdge reset loop start : Bool) (volume : BitVec 4) :
    EnvelopeGenerator :=
  if reset then { e with decayLevel := 0, dividerCounter := 0 }
  else if clkEdge ^^ e.clkHandle then
    if !start then
      if e.dividerCounter = 0 then
        { clkHandle := !e.clkHandle
          dividerCounter := volume
          decayLevel := if loop then 15 else e.decayLevel - 1 }
      else
        { clkHandle := !e.clkHandle
          dividerCounter := e.dividerCounter - 1
          decayLevel := e.decayLevel }
    else ⟨!e.clkHandle, volume, 15⟩
  else e

/-- `envelope_out`. -/
def envelopeOut (e : EnvelopeGenerator) (constantVolume : Bool) (volume : BitVec 4) : BitVec 4 :=
  if constantVolume then volume else e.decayLevel

end EnvelopeGenerator

/-! ## Sweep and timer unit -/

/-- Registers of the sweep unit of `APU_SWEEP_TIMER_UNIT.sv`. -/
structure SweepUnit where
  /-- The level of the clock that was last answered. -/
  clkHandle : Bool
  /-- The period as swept so far. -/
  currentPeriod : BitVec 11
  /-- The counter of the divider. -/
  dividerCounter : BitVec 11
  /-- A reload of the divider is due. -/
  resetFlag : Bool
  /-- `timer_reload`, one clock late. -/
  timerReloadDelayed : Bool
  deriving DecidableEq

/-- The sweep parameters of a pulse channel. -/
structure SweepInputs where
  /-- Bit 7 of the second register. -/
  enable : Bool
  /-- Bits 6 to 4 of the second register. -/
  period : BitVec 3
  /-- Bit 3 of the second register. -/
  negate : Bool
  /-- Bits 2 to 0 of the second register. -/
  shift : BitVec 3
  deriving DecidableEq

/-- `mute`: a timer value too short to be heard. -/
def timerMute (timer : BitVec 11) : Bool := timer.toNat < 8

namespace SweepUnit

/-- `target_period`, one bit wider than the period. -/
def targetPeriod (s : SweepUnit) (timer : BitVec 11) (inputs : SweepInputs) : BitVec 12 :=
  let change := (timer >>> inputs.shift.toNat).setWidth 12
  if inputs.negate then s.currentPeriod.setWidth 12 - change
  else s.currentPeriod.setWidth 12 + change

/-- The first two conditions of the block: a written timer value arrives a clock late, and the
delayed flag, once set, is never cleared. -/
def reloaded (s : SweepUnit) (timerReload : Bool) (timer : BitVec 11) : SweepUnit :=
  { s with
    timerReloadDelayed := timerReload || s.timerReloadDelayed
    currentPeriod := if s.timerReloadDelayed then timer else s.currentPeriod }

/-- `always_ff @ (posedge cpu_clk)` of the sweep unit. -/
def next (s : SweepUnit) (reset clkEdge timerReload sweepReload : Bool) (timer : BitVec 11)
    (inputs : SweepInputs) : SweepUnit :=
  let r := s.reloaded timerReload timer
  let period := inputs.period.setWidth 11
  if reset then { s with currentPeriod := 0 }
  else if sweepReload then { r with resetFlag := true }
  else if s.clkHandle ^^ clkEdge then
    { r with
      clkHandle := !s.clkHandle
      resetFlag := false
      -- the divider restarts only when it has run out: a set reset flag does not reload it
      dividerCounter := if s.dividerCounter = 0 then period else s.dividerCounter - 1
      currentPeriod :=
        if s.dividerCounter = 0 ∧ inputs.enable ∧ inputs.shift ≠ 0 ∧ !timerMute timer then
          (s.targetPeriod timer inputs).setWidth 11
        else r.currentPeriod }
  else r

end SweepUnit

/-- Registers of the timer unit of `APU_SWEEP_TIMER_UNIT.sv`. -/
structure TimerUnit where
  /-- The counter, two clocks for each count of the timer. -/
  counter : BitVec 12
  /-- `sequencer_clock`, turned over on each match. -/
  sequencerClock : Bool
  deriving DecidableEq

/-- `always_ff @ (posedge cpu_clk)` of the timer unit. -/
def TimerUnit.next (t : TimerUnit) (reset : Bool) (timer : BitVec 11) : TimerUnit :=
  if reset then { t with counter := 0 }
  else if t.counter >>> 1 = timer.setWidth 12 then ⟨0, !t.sequencerClock⟩
  else { t with counter := t.counter + 1 }

/-! ## Pulse sequencer -/

/-- Registers of `APU_PULSE_SEQUENCER.sv`. -/
structure PulseSequencer where
  /-- The level of the clock that was last answered. -/
  clkHandle : Bool
  /-- The step of the waveform. -/
  idx : BitVec 3
  deriving DecidableEq

namespace PulseSequencer

/-- `pulse_wave`. The duty cycle is ignored. -/
def pulseWave : BitVec 8 := 0b00001111

/-- `always_ff @ (posedge cpu_clk)` of the pulse sequencer. -/
def next (p : PulseSequencer) (clkEdge reset : Bool) : PulseSequencer :=
  if reset then { p with idx := 0 }
  else if p.clkHandle ^^ clkEdge then ⟨!p.clkHandle, p.idx + 1⟩
  else p

/-- `waveform`. -/
def waveform (p : PulseSequencer) : Bool := pulseWave.getLsbD p.idx.toNat

end PulseSequencer

/-! ## Length counter -/

/-- Registers of `APU_LENGTH_COUNTER.sv`. -/
structure LengthCounter where
  /-- The level of the half clock that was last answered. -/
  clkHandle : Bool
  /-- The count. -/
  counter : Byte
  deriving DecidableEq

namespace LengthCounter

/-- `lc_lookup_table`. -/
def lcLookupTable : List Byte :=
  [10, 254, 20, 2, 40, 4, 80, 6, 160, 8, 60, 10, 14, 12, 26, 14, 12, 16, 24, 18, 48, 20, 96,
    22, 192, 24, 72, 26, 16, 28, 32, 30]

/-- The entry of the table that `data_in` selects. -/
def entry (dataIn : BitVec 5) : Byte := lcLookupTable.getD dataIn.toNat 0

/-- `always_ff @ (posedge cpu_clk)` of the length counter. -/
def next (l : LengthCounter) (clkEdge load halt enable : Bool) (dataIn : BitVec 5) :
    LengthCounter :=
  if enable then
    if load then { l with counter := entry dataIn }
    else if clkEdge ^^ l.clkHandle then
      { clkHandle := !l.clkHandle
        counter := if halt || l.counter = 0 then l.counter else l.counter - 1 }
    else l
  else { l with counter := 0 }

end LengthCounter

end FpgaNes
