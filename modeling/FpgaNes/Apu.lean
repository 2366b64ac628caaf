import FpgaNes.Apu.Units
import FpgaNes.Nes
import FpgaNes.Hdl.Trace

/-!
# The APU

`APU.sv`: the status and frame counter registers, the frame interrupt handler, the parameters
of the two pulse channels and the wiring of their units, up to the sample. Every block is
clocked by `CPU_CLK` and reads the registers as they were before the edge. The triangle and
noise channels are commented out in the source, and the serial output of the sample runs on
the clocks of the audio interface.
-/

namespace FpgaNes

/-- The pins of the APU that its blocks read: `RESET` and the CPU bus interface. -/
structure ApuPort where
  /-- `RESET`. -/
  reset : Bool
  /-- The byte on the data bus. -/
  cpuDataIn : Byte
  /-- The low five bits of the address. -/
  cpuAddr : BitVec 5
  /-- `CPU_wren`. -/
  cpuWren : Bool
  /-- `CPU_rden`. -/
  cpuRden : Bool
  deriving DecidableEq

/-- The two pulse channels: the indices of the source's arrays. -/
inductive Channel where
  | one
  | two
  deriving DecidableEq

/-- The index of a channel, which is its bit in the status register. -/
def Channel.bit : Channel → ℕ
  | .one => 0
  | .two => 1

/-- The first register of a channel: `$4000` and `$4004`. -/
def Channel.base : Channel → BitVec 5
  | .one => 0
  | .two => 4

/-- Registers of the status and frame counter interface. -/
structure ApuStatus where
  /-- `pulse_1_enable` and `pulse_2_enable`. -/
  pulseEnable : Channel → Bool
  /-- `noise_enable`. -/
  noiseEnable : Bool
  /-- `triangle_enable`. -/
  triangleEnable : Bool
  /-- Cleared by reset and by a write of `$4015`, and set nowhere. -/
  dmcInterrupt : Bool
  /-- `frame_counter_mode`, bit 7 of `$4017`. -/
  frameCounterMode : Bool
  /-- Toggled by a write of `$4017`. -/
  frameCounterModeUpdate : Bool
  /-- `frame_irq_inhibit`, bit 6 of `$4017`. -/
  frameIrqInhibit : Bool
  /-- Toggled by a read of `$4015` and by a write of `$4017` with bit 6 set. -/
  frameInterruptClearRequest : Bool

/-- Registers of the frame interrupt request handler. -/
structure FrameInterrupt where
  /-- `frame_interrupt`, the flag. -/
  frameInterrupt : Bool
  /-- The handle of the clears. -/
  clearHandle : Bool
  /-- The handle of the sets. -/
  setHandle : Bool
  deriving DecidableEq

/-- The parameters of a pulse channel that the CPU sets. -/
structure PulseRegisters where
  /-- Bits 7 and 6 of the first register. -/
  duty : BitVec 2
  /-- High plays without end, and halts the length counter. -/
  loopFlag : Bool
  /-- Bit 4 of the first register. -/
  constantVolume : Bool
  /-- Bits 3 to 0 of the first register. -/
  volume : BitVec 4
  /-- Cleared by reset and written nowhere. -/
  sweep : SweepInputs
  /-- The 11 bits of the third and fourth registers. -/
  timer : BitVec 11
  deriving DecidableEq

/-- Registers of a pulse channel and its units. -/
structure PulseChannel where
  /-- Its registers. -/
  regs : PulseRegisters
  /-- Its envelope. -/
  envelope : EnvelopeGenerator
  /-- Its sweep unit. -/
  sweep : SweepUnit
  /-- Its timer. -/
  timer : TimerUnit
  /-- Its sequencer. -/
  sequencer : PulseSequencer
  /-- Its length counter. -/
  lengthCounter : LengthCounter

/-- All registers of the APU. -/
structure Apu where
  /-- The status block. -/
  status : ApuStatus
  /-- `apu_clk`, at half the rate of `CPU_CLK`. -/
  apuClk : Bool
  /-- The frame sequencer. -/
  sequencer : FrameSequencer
  /-- The handler of the frame interrupt. -/
  interrupt : FrameInterrupt
  /-- The two pulse channels. -/
  pulse : Channel → PulseChannel

/-! ## Decoder -/

namespace ApuPort

/-- A write of one register. -/
def writes (port : ApuPort) (register : BitVec 5) : Bool :=
  port.cpuWren && port.cpuAddr == register

/-- A read of `$4015`; the write enable wins. -/
def readsStatus (port : ApuPort) : Bool :=
  port.cpuAddr == 0x15 && (!port.cpuWren && port.cpuRden)

/-- A write of `$4017` with bit 6 set. -/
def inhibits (port : ApuPort) : Bool := port.writes 0x17 && port.cpuDataIn.getLsbD 6

/-- `pulse_lc_load` and `pulse_sequencer_restart`: a write of `$4003` or `$4007`. -/
def pulseLcLoad (port : ApuPort) (channel : Channel) : Bool := port.writes (channel.base + 3)

/-- `pulse_timer_reload`: a write of either half of the timer. -/
def pulseTimerReload (port : ApuPort) (channel : Channel) : Bool :=
  port.writes (channel.base + 2) || port.writes (channel.base + 3)

/-- `pulse_sweep_reload`: both sweep registers reload the sweep unit of the first channel. -/
def pulseSweepReload (port : ApuPort) : Channel → Bool
  | .one => port.writes 0x01 || port.writes 0x05
  | .two => false

/-- A clock without an access. -/
def idle : ApuPort := ⟨false, 0, 0, false, false⟩

/-- A write of `$4017`. -/
def frameCounter (data : Byte) : ApuPort := ⟨false, data, 0x17, true, false⟩

end ApuPort

/-! ## Blocks -/

namespace ApuStatus

/-- The registers that `RESET` clears. -/
def cleared (s : ApuStatus) : ApuStatus :=
  { s with
    pulseEnable := fun _ => false
    noiseEnable := false
    triangleEnable := false
    dmcInterrupt := false
    frameCounterModeUpdate := false
    frameInterruptClearRequest := false }

/-- The status block, on `posedge CPU_CLK`. `RESET` does not keep an access from acting. -/
def next (s : ApuStatus) (port : ApuPort) : ApuStatus :=
  let r := if port.reset then s.cleared else s
  if port.writes 0x15 then
    { r with
      pulseEnable := fun channel => port.cpuDataIn.getLsbD channel.bit
      triangleEnable := port.cpuDataIn.getLsbD 2
      noiseEnable := port.cpuDataIn.getLsbD 3
      dmcInterrupt := false }
  else if port.readsStatus then
    { r with frameInterruptClearRequest := !s.frameInterruptClearRequest }
  else if port.writes 0x17 then
    { r with
      frameIrqInhibit := port.cpuDataIn.getLsbD 6
      frameCounterMode := port.cpuDataIn.getLsbD 7
      frameCounterModeUpdate := !s.frameCounterModeUpdate
      frameInterruptClearRequest :=
        if port.cpuDataIn.getLsbD 6 then !s.frameInterruptClearRequest
        else r.frameInterruptClearRequest }
  else r

end ApuStatus

namespace FrameInterrupt

/-- The handler, on `posedge CPU_CLK`: a clear goes before a set, and the inhibit bit turns a
set into a clear. -/
def next (f : FrameInterrupt) (reset clearRequest setRequest inhibit : Bool) : FrameInterrupt :=
  if reset then { f with frameInterrupt := false }
  else if clearRequest ^^ f.clearHandle then
    { f with clearHandle := !f.clearHandle, frameInterrupt := false }
  else if setRequest ^^ f.setHandle then
    { f with setHandle := !f.setHandle, frameInterrupt := !inhibit }
  else f

end FrameInterrupt

namespace PulseRegisters

/-- The registers that `RESET` clears: all of them. -/
def cleared : PulseRegisters := ⟨0, false, false, 0, ⟨false, 0, false, 0⟩, 0⟩

/-- The registers of one channel, on `posedge CPU_CLK`. `RESET` does not keep a write from
acting. -/
def next (p : PulseRegisters) (port : ApuPort) (channel : Channel) : PulseRegisters :=
  let r := if port.reset then cleared else p
  let data := port.cpuDataIn
  if port.writes channel.base then
    { r with
      duty := data.extractLsb' 6 2
      loopFlag := data.getLsbD 5
      constantVolume := data.getLsbD 4
      volume := data.extractLsb' 0 4 }
  else if port.writes (channel.base + 2) then
    { r with timer := r.timer.extractLsb' 8 3 ++ data }
  else if port.writes (channel.base + 3) then
    { r with timer := data.extractLsb' 0 3 ++ r.timer.extractLsb' 0 8 }
  else r

end PulseRegisters

namespace Apu

/-- `frame_irq`. -/
def frameIrq (apu : Apu) : Bool :=
  apu.interrupt.frameInterrupt && !apu.status.frameIrqInhibit

/-- The length counter of a channel, `pulse_length_counter`. -/
def pulseLengthCounter (apu : Apu) (channel : Channel) : Byte :=
  (apu.pulse channel).lengthCounter.counter

/-- The status register, from bit 7 down: the DMC and frame interrupts, an unused bit, the DMC,
noise and triangle channels, which are absent, and the pulse channels. -/
def statusByte (dmcInterrupt frameIrq two one : Bool) : Byte :=
  BitVec.ofBool dmcInterrupt ++ BitVec.ofBool frameIrq ++ 0#4 ++ BitVec.ofBool two ++
    BitVec.ofBool one

/-- `CPU_DATA_OUT`. -/
def cpuDataOut (apu : Apu) (port : ApuPort) : Byte :=
  if port.readsStatus then
    statusByte apu.status.dmcInterrupt apu.frameIrq (apu.pulseLengthCounter .two != 0)
      (apu.pulseLengthCounter .one != 0)
  else 0

/-- A pulse channel and its units, on `posedge CPU_CLK`. -/
def pulseNext (apu : Apu) (port : ApuPort) (channel : Channel) : PulseChannel :=
  let p := apu.pulse channel
  { regs := p.regs.next port channel
    envelope :=
      p.envelope.next apu.sequencer.quarterClock false p.regs.loopFlag false p.regs.volume
    sweep :=
      p.sweep.next port.reset apu.sequencer.halfClock (port.pulseTimerReload channel)
        (port.pulseSweepReload channel) p.regs.timer p.regs.sweep
    timer := p.timer.next port.reset p.regs.timer
    sequencer := p.sequencer.next p.timer.sequencerClock (port.pulseLcLoad channel)
    lengthCounter :=
      p.lengthCounter.next apu.sequencer.halfClock (port.pulseLcLoad channel) p.regs.loopFlag
        (apu.status.pulseEnable channel) (port.cpuDataIn.extractLsb' 3 5) }

/-- Every block of the APU on `posedge CPU_CLK`. -/
def clock (port : ApuPort) (apu : Apu) : Apu where
  status := apu.status.next port
  apuClk := !port.reset && !apu.apuClk
  sequencer :=
    apu.sequencer.next port.reset apu.status.frameCounterMode apu.status.frameCounterModeUpdate
  interrupt :=
    apu.interrupt.next port.reset apu.status.frameInterruptClearRequest
      apu.sequencer.frameIrqRequest apu.status.frameIrqInhibit
  pulse := apu.pulseNext port

/-- `pulse_mixer_in`. -/
def pulseMixerIn (apu : Apu) (channel : Channel) : BitVec 4 :=
  let p := apu.pulse channel
  if !p.sequencer.waveform || p.lengthCounter.counter = 0 || timerMute p.regs.timer then 0
  else p.envelope.envelopeOut p.regs.constantVolume p.regs.volume

/-- `sample`. -/
def sample (apu : Apu) : BitVec 24 :=
  ((apu.pulseMixerIn .one).setWidth 24 + (apu.pulseMixerIn .two).setWidth 24) <<< 12

/-- Every register low, as the device powers up. -/
def powerUp : Apu where
  status := ⟨fun _ => false, false, false, false, false, false, false, false⟩
  apuClk := false
  sequencer := ⟨0, false, false, false, false⟩
  interrupt := ⟨false, false, false⟩
  pulse := fun _ =>
    { regs := PulseRegisters.cleared
      envelope := ⟨false, 0, 0⟩
      sweep := ⟨false, 0, 0, false, false⟩
      timer := ⟨0, false⟩
      sequencer := ⟨false, 0⟩
      lengthCounter := ⟨false, 0⟩ }

end Apu

/-! ## The APU on the CPU bus -/

namespace Nes

/-- `APU_wren`: `$4000` to `$4013`, `$4015` and `$4017`. -/
def apuWren (nes : Nes) (bus : CpuBus) : Bool :=
  !nes.dma.dmaActive && !bus.rwN &&
    ((0x4000 ≤ bus.addr.toNat && bus.addr.toNat ≤ 0x4013) || bus.addr == 0x4015 ||
      bus.addr == 0x4017)

/-- `APU_rden`. -/
def apuRden (nes : Nes) (bus : CpuBus) : Bool :=
  !nes.dma.dmaActive && bus.rwN && bus.addr == 0x4015

/-- The port of the APU: the low five bits of the address the processor presents. -/
def apuPort (nes : Nes) (pins : Pins) (bus : CpuBus) : ApuPort where
  reset := pins.reset
  cpuDataIn := nes.cpuDataBus pins bus
  cpuAddr := bus.addr.setWidth 5
  cpuWren := nes.apuWren bus
  cpuRden := nes.apuRden bus

end Nes

/-! ## What the registers become -/

/-- The bits of the status register. -/
theorem Apu.statusByte_bits (dmcInterrupt frameIrq two one : Bool) :
    (statusByte dmcInterrupt frameIrq two one).getLsbD 6 = frameIrq ∧
      (statusByte dmcInterrupt frameIrq two one).getLsbD 1 = two ∧
        (statusByte dmcInterrupt frameIrq two one).getLsbD 0 = one := by
  cases dmcInterrupt <;> cases frameIrq <;> cases two <;> cases one <;> decide

namespace ApuPort

/-- One access writes at most one register. -/
theorem writes_other {port : ApuPort} {register other : BitVec 5}
    (written : port.writes register = true) (differs : register ≠ other) :
    port.writes other = false := by
  rw [writes, Bool.and_eq_true, beq_iff_eq] at written
  rw [writes, written.2, beq_false_of_ne differs, Bool.and_false]

/-- A write is not a read of the status register. -/
theorem readsStatus_of_writes {port : ApuPort} {register : BitVec 5}
    (written : port.writes register = true) : port.readsStatus = false := by
  rw [writes, Bool.and_eq_true] at written
  rw [readsStatus, written.1, Bool.not_true, Bool.false_and, Bool.and_false]

end ApuPort

namespace ApuStatus

variable (s : ApuStatus) (port : ApuPort)

/-- What a write of `$4017` leaves. -/
theorem next_of_frameCounter (written : port.writes 0x17 = true) :
    let r := if port.reset then s.cleared else s
    s.next port =
      { r with
        frameIrqInhibit := port.cpuDataIn.getLsbD 6
        frameCounterMode := port.cpuDataIn.getLsbD 7
        frameCounterModeUpdate := !s.frameCounterModeUpdate
        frameInterruptClearRequest :=
          if port.cpuDataIn.getLsbD 6 then !s.frameInterruptClearRequest
          else r.frameInterruptClearRequest } := by
  have other := ApuPort.writes_other written (show (0x17 : BitVec 5) ≠ 0x15 by decide)
  rw [next, other, ApuPort.readsStatus_of_writes written, written]
  rfl

/-- The mode is bit 7 of the last write of `$4017`. -/
theorem next_mode :
    (s.next port).frameCounterMode =
      if port.writes 0x17 then port.cpuDataIn.getLsbD 7 else s.frameCounterMode := by
  cases written : port.writes 0x17 with
  | true => rw [next_of_frameCounter s port written, if_pos rfl]
  | false =>
    rw [next, written]
    cases port.writes 0x15 <;> cases port.readsStatus <;> cases port.reset <;> rfl

/-- The inhibit bit is bit 6 of the last write of `$4017`. -/
theorem next_inhibit :
    (s.next port).frameIrqInhibit =
      if port.writes 0x17 then port.cpuDataIn.getLsbD 6 else s.frameIrqInhibit := by
  cases written : port.writes 0x17 with
  | true => rw [next_of_frameCounter s port written, if_pos rfl]
  | false =>
    rw [next, written]
    cases port.writes 0x15 <;> cases port.readsStatus <;> cases port.reset <;> rfl

/-- Every write of `$4017` is passed on. -/
theorem next_modeUpdate (released : port.reset = false) :
    (s.next port).frameCounterModeUpdate = (s.frameCounterModeUpdate ^^ port.writes 0x17) := by
  cases written : port.writes 0x17 with
  | true =>
    rw [next_of_frameCounter s port written, Bool.xor_true]
  | false =>
    rw [next, written, released, Bool.xor_false]
    cases port.writes 0x15 <;> cases port.readsStatus <;> rfl

/-- A clear of the frame interrupt is asked for by a read of `$4015` and by an inhibiting
write. -/
theorem next_clearRequest (released : port.reset = false) :
    (s.next port).frameInterruptClearRequest =
      (s.frameInterruptClearRequest ^^ (port.readsStatus || port.inhibits)) := by
  rw [ApuPort.inhibits]
  cases written : port.writes 0x17 with
  | true =>
    rw [next_of_frameCounter s port written, released, ApuPort.readsStatus_of_writes written]
    show (if port.cpuDataIn.getLsbD 6 then !s.frameInterruptClearRequest
      else s.frameInterruptClearRequest) = _
    cases port.cpuDataIn.getLsbD 6 <;> cases s.frameInterruptClearRequest <;> rfl
  | false =>
    rw [next, written, released, Bool.false_and, Bool.or_false]
    cases read : port.readsStatus with
    | false =>
      rw [Bool.xor_false]
      cases port.writes 0x15 <;> rfl
    | true =>
      have other : port.writes 0x15 = false := by
        apply Bool.eq_false_iff.mpr
        intro status
        exact Bool.false_ne_true ((ApuPort.readsStatus_of_writes status).symm.trans read)
      rw [other, Bool.xor_true]
      rfl

/-- The channel enables are the low bits of the last write of `$4015`. -/
theorem next_pulseEnable (released : port.reset = false) (channel : Channel) :
    (s.next port).pulseEnable channel =
      if port.writes 0x15 then port.cpuDataIn.getLsbD channel.bit
      else s.pulseEnable channel := by
  rw [next, released]
  cases port.writes 0x15 <;> cases port.readsStatus <;> cases port.writes 0x17 <;> rfl

end ApuStatus

/-! ## Runs -/

/-- The states of the APU under a stream of bus accesses. -/
def apuRun (io : ℕ → ApuPort) (start : Apu) : ℕ → Apu := Hdl.trace Apu.clock io start

section Runs

variable (io : ℕ → ApuPort) (start : Apu)

/-- A run of no clock. -/
@[simp] theorem apuRun_zero : apuRun io start 0 = start := rfl

/-- A run ends with its last clock. -/
theorem apuRun_succ (n : ℕ) : apuRun io start (n + 1) = (apuRun io start n).clock (io n) := rfl

end Runs

end FpgaNes
