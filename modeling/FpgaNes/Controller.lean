import FpgaNes.Nes
import FpgaNes.Hdl.Trace
import FpgaNes.Hdl.Handshake
import Mathlib.Data.Nat.Count

/-!
# The controllers

`CONTROLLER.sv`, an eight-bit shift register behind one address of the CPU bus. While `strobe`
is high it copies its keys on every clock; afterwards each read pulse presents one bit and
moves the rest down, with ones behind the last. A pulse lasts as long as the bus cycle that
makes it, so the module acts on its rising edge and shifts one clock later.
-/

namespace FpgaNes

open Hdl

/-- Registers of `CONTROLLER.sv`. -/
structure Controller where
  /-- The shift register. -/
  keycodes : Byte
  /-- The strobe bit. -/
  strobe : Bool
  /-- `shift_req`, turned over for each shift asked for. -/
  shiftReq : Bool
  /-- `shift_handle`. -/
  shiftHandle : Bool
  /-- The level of `CPU_rden` on the clock before. -/
  rdenPrev : Bool
  /-- `data_out[0]`; the other bits of `data_out` are wired low. -/
  dataOutBit : Bool
  deriving DecidableEq

/-- Inputs of `CONTROLLER.sv`. -/
structure ControllerPort where
  /-- `CPU_rden`: the port is being read. -/
  rden : Bool
  /-- `CPU_wren`: the port is being written. -/
  wren : Bool
  /-- `RESET`. -/
  reset : Bool
  /-- The byte written. -/
  dataIn : Byte
  /-- The buttons that are pressed. -/
  keycodesIn : Byte
  deriving DecidableEq

namespace Controller

/-- `data_out`. -/
def dataOut (c : Controller) : Byte := 0#7 ++ BitVec.ofBool c.dataOutBit

/-- `rden` changed, and is high. -/
def rises (c : Controller) (port : ControllerPort) : Bool :=
  c.rdenPrev != port.rden && port.rden == true

/-- `shift_req` and `shift_handle` as a handshake. -/
def shiftPair (c : Controller) : Handshake := ⟨c.shiftReq, c.shiftHandle⟩

/-- The keys moved down by one, behind a one. -/
def shifted (keycodes : Byte) : Byte := 1#1 ++ keycodes.extractLsb' 1 7

/-- `always_ff @ (posedge clk)`. -/
def next (c : Controller) (port : ControllerPort) : Controller :=
  if !port.reset then
    { rdenPrev :=
        if !c.rdenPrev then port.rden
        else if !port.rden then false
        else c.rdenPrev
      shiftReq := if c.rises port then !c.shiftReq else c.shiftReq
      dataOutBit := if c.rises port then c.keycodes.getLsbD 0 else c.dataOutBit
      strobe := if port.wren then port.dataIn.getLsbD 0 else c.strobe
      shiftHandle := if c.shiftPair.pending then !c.shiftHandle else c.shiftHandle
      keycodes :=
        if c.strobe then port.keycodesIn
        else if c.shiftPair.pending then
          if !c.strobe then shifted c.keycodes else port.keycodesIn
        else c.keycodes }
  else ⟨0, false, false, false, false, false⟩

/-! ## What a clock does -/

section Clock

variable (c : Controller) {port : ControllerPort} (released : port.reset = false)

include released

/-- The edge detector remembers the level of the clock before. -/
theorem next_rdenPrev : (c.next port).rdenPrev = port.rden := by
  rw [next, released]
  cases c.rdenPrev <;> cases port.rden <;> rfl

/-- A write moves the strobe, and nothing else does. -/
theorem next_strobe :
    (c.next port).strobe = if port.wren then port.dataIn.getLsbD 0 else c.strobe := by
  rw [next, released]
  rfl

/-- A rising read presents the lowest key; the output holds otherwise. -/
theorem next_dataOutBit :
    (c.next port).dataOutBit = if c.rises port then c.keycodes.getLsbD 0 else c.dataOutBit := by
  rw [next, released]
  rfl

/-- A rising read asks for a shift, and a shift asked for is made on the next clock. -/
theorem next_shiftPair : (c.next port).shiftPair = c.shiftPair.step (c.rises port) true := by
  have asked : (c.next port).shiftReq = if c.rises port then !c.shiftReq else c.shiftReq := by
    rw [next, released]
    rfl
  have answered :
      (c.next port).shiftHandle =
        if c.shiftPair.pending then !c.shiftHandle else c.shiftHandle := by
    rw [next, released]
    rfl
  rw [shiftPair, asked, answered, Handshake.step, Handshake.served, Bool.and_true]
  cases c.rises port <;> cases c.shiftPair.pending <;> simp [shiftPair]

/-- What is waiting after a clock was asked for on that clock. -/
theorem next_pending : (c.next port).shiftPair.pending = c.rises port := by
  rw [next_shiftPair c released, Handshake.pending_step, Bool.not_true, Bool.and_false,
    Bool.xor_false]

/-- The handle moves exactly when a shift is waiting. -/
theorem next_shiftHandle :
    (c.next port).shiftHandle ≠ c.shiftHandle ↔ c.shiftPair.pending = true := by
  have moves := Handshake.handle_step c.shiftPair (c.rises port) true
  rw [← next_shiftPair c released, Handshake.served, Bool.and_true] at moves
  exact moves

/-- Under the strobe the keys are copied. -/
theorem next_keycodes_of_strobe (strobes : c.strobe = true) :
    (c.next port).keycodes = port.keycodesIn := by
  rw [next, released, strobes]
  rfl

/-- Without the strobe a waiting shift is made. -/
theorem next_keycodes_of_quiet (quiet : c.strobe = false) :
    (c.next port).keycodes =
      if c.shiftPair.pending then shifted c.keycodes else c.keycodes := by
  rw [next, released, quiet]
  rfl

end Clock

/-- Only the lowest bit of the output is ever driven high. -/
theorem dataOut_high (c : Controller) : c.dataOut.extractLsb' 1 7 = 0 := by
  cases bit : c.dataOutBit <;> rw [dataOut, bit] <;> rfl

/-- The lowest bit of the output is the registered one. -/
theorem dataOut_low (c : Controller) : c.dataOut.getLsbD 0 = c.dataOutBit := by
  cases bit : c.dataOutBit <;> rw [dataOut, bit] <;> rfl

/-! ## What a poll leaves to be read -/

/-- The bits behind the strobe: the keys from the lowest up, then ones. -/
def serialBit (keys : Byte) (position : ℕ) : Bool :=
  if position < 8 then keys.getLsbD position else true

/-- A shift moves every bit down by one place. -/
theorem shifted_getLsbD (keycodes : Byte) (i : ℕ) (inside : i < 8) :
    (shifted keycodes).getLsbD i = if i < 7 then keycodes.getLsbD (i + 1) else true := by
  rw [shifted, BitVec.getLsbD_append, BitVec.getLsbD_extractLsb', Nat.add_comm 1 i]
  by_cases low : i < 7
  · rw [if_pos low, if_pos low, decide_eq_true low, Bool.true_and]
  · have last : i = 7 := by omega
    rw [if_neg low, if_neg low, last]
    rfl

/-- The register after some read pulses: what it holds are the serial bits from the first one
not shifted out, and the shift of the last pulse may still wait. -/
def Drained (keys : Byte) (pulses : ℕ) (c : Controller) : Prop :=
  ∃ shifts, shifts + c.shiftPair.pending.toNat = pulses ∧
    ∀ i < 8, c.keycodes.getLsbD i = serialBit keys (shifts + i)

/-- A clock without the strobe keeps count of the pulses. -/
theorem Drained.next {keys : Byte} {pulses : ℕ} {c : Controller} {port : ControllerPort}
    (drained : Drained keys pulses c) (released : port.reset = false)
    (quiet : c.strobe = false) :
    Drained keys (pulses + (c.rises port).toNat) (c.next port) := by
  obtain ⟨shifts, count, held⟩ := drained
  cases waits : c.shiftPair.pending with
  | false =>
    rw [waits] at count
    refine ⟨shifts, ?_, fun i inside => ?_⟩
    · rw [next_pending c released, ← count]
      rfl
    · rw [next_keycodes_of_quiet c released quiet, waits]
      exact held i inside
  | true =>
    rw [waits] at count
    refine ⟨shifts + 1, ?_, fun i inside => ?_⟩
    · rw [next_pending c released, ← count]
      rfl
    · rw [next_keycodes_of_quiet c released quiet, waits, if_pos rfl,
        shifted_getLsbD c.keycodes i inside]
      by_cases last : i < 7
      · rw [if_pos last, held (i + 1) (by omega)]
        exact congrArg (serialBit keys) (by omega)
      · -- The bit of the last place, a one, and the bit it replaces is past the last key.
        have past : ¬ shifts + 1 + i < 8 := by omega
        rw [if_neg last, serialBit, if_neg past]

/-- The clock that ends the strobe leaves the keys of that clock, and no pulse. -/
theorem drained_of_strobe {c : Controller} {port : ControllerPort}
    (released : port.reset = false) (strobes : c.strobe = true)
    (quiet : c.rises port = false) : Drained port.keycodesIn 0 (c.next port) := by
  refine ⟨0, ?_, fun i inside => ?_⟩
  · rw [next_pending c released, quiet]
    rfl
  · rw [next_keycodes_of_strobe c released strobes, Nat.zero_add, serialBit, if_pos inside]

/-- What the next pulse presents is the serial bit with the number of the pulses before it. -/
theorem Drained.lowest {keys : Byte} {pulses : ℕ} {c : Controller}
    (drained : Drained keys pulses c) (settled : c.shiftPair.pending = false) :
    c.keycodes.getLsbD 0 = serialBit keys pulses := by
  obtain ⟨shifts, count, held⟩ := drained
  rw [settled] at count
  rw [held 0 (by decide), ← count]
  rfl

/-! ## Runs -/

/-- The controller after each number of clocks. -/
def clockRun (io : ℕ → ControllerPort) (start : Controller) : ℕ → Controller :=
  trace (fun port c => c.next port) io start

/-- A read pulse begins on a clock of a run: `rden` is high, and low on the clock before it. On
the first clock `rden` high is enough. -/
def pulseAt (io : ℕ → ControllerPort) : ℕ → Bool
  | 0 => (io 0).rden
  | n + 1 => !(io n).rden && (io (n + 1)).rden

/-- The number of read pulses that begin from one clock on and before another. -/
def pulsesFrom (io : ℕ → ControllerPort) (first n : ℕ) : ℕ :=
  Nat.count (fun i => first ≤ i ∧ pulseAt io i = true) n

/-- The level of the strobe before a clock: the lowest bit of the last write, or the level it
starts with. -/
def strobeAt (io : ℕ → ControllerPort) (level : Bool) : ℕ → Bool
  | 0 => level
  | n + 1 => if (io n).wren then (io n).dataIn.getLsbD 0 else strobeAt io level n

/-- One more clock of a run. -/
theorem clockRun_succ (io : ℕ → ControllerPort) (start : Controller) (n : ℕ) :
    clockRun io start (n + 1) = (clockRun io start n).next (io n) := rfl

/-- No pulse begins in no time. -/
theorem pulsesFrom_self (io : ℕ → ControllerPort) (first : ℕ) :
    pulsesFrom io first first = 0 := by
  apply Nat.count_iff_forall_not.mpr
  intro i before begins
  exact absurd begins.1 (Nat.not_le.mpr before)

/-- One more clock may begin one more pulse. -/
theorem pulsesFrom_succ (io : ℕ → ControllerPort) {first n : ℕ} (later : first ≤ n) :
    pulsesFrom io first (n + 1) = pulsesFrom io first n + (pulseAt io n).toNat := by
  rw [pulsesFrom, Nat.count_succ, ← pulsesFrom]
  cases begins : pulseAt io n with
  | true => rw [if_pos ⟨later, rfl⟩]; rfl
  | false => rw [if_neg (fun both => Bool.false_ne_true both.2)]; rfl

section Runs

variable {io : ℕ → ControllerPort} {start : Controller}
  (released : ∀ n, (io n).reset = false)

include released

/-- The controller sees an edge on the clocks on which a pulse begins. -/
theorem rises_succ (n : ℕ) :
    (clockRun io start (n + 1)).rises (io (n + 1)) = pulseAt io (n + 1) := by
  rw [pulseAt, rises, clockRun_succ, next_rdenPrev _ (released n)]
  cases (io n).rden <;> cases (io (n + 1)).rden <;> rfl

/-- On the first clock it does where no read was under way. -/
theorem rises_of_pulse {n : ℕ} (begins : pulseAt io n = true)
    (low : n = 0 → start.rdenPrev = false) : (clockRun io start n).rises (io n) = true := by
  cases n with
  | zero =>
    have high : (io 0).rden = true := begins
    show start.rises (io 0) = true
    rw [rises, low rfl, high]
    rfl
  | succ n =>
    rw [rises_succ released]
    exact begins

/-- The strobe is at the level last written. -/
theorem strobe_run (n : ℕ) :
    (clockRun io start n).strobe = strobeAt io start.strobe n := by
  induction n with
  | zero => rfl
  | succ n ih => rw [clockRun_succ, next_strobe _ (released n), ih, strobeAt]

/-- A shift waits on the clock after an edge, and on no other. -/
theorem pending_succ (n : ℕ) :
    (clockRun io start (n + 1)).shiftPair.pending = (clockRun io start n).rises (io n) := by
  rw [clockRun_succ, next_pending _ (released n)]

/-- No shift waits when a pulse begins, after the first clock of the run. -/
theorem settled_of_pulse {n : ℕ} (begins : pulseAt io (n + 1) = true) :
    (clockRun io start (n + 1)).shiftPair.pending = false := by
  rw [pending_succ released]
  rw [pulseAt, Bool.and_eq_true, Bool.not_eq_true'] at begins
  rw [rises, begins.1]
  cases (clockRun io start n).rdenPrev <;> rfl

/-- The output holds what a pulse presented for as long as the read is high. -/
theorem output_of_pulse {n later : ℕ} (begins : (clockRun io start n).rises (io n) = true)
    (after : n < later)
    (high : ∀ m, n ≤ m → m < later → (io m).rden = true) :
    (clockRun io start later).dataOutBit = (clockRun io start n).keycodes.getLsbD 0 := by
  have first : (clockRun io start (n + 1)).dataOutBit =
      (clockRun io start n).keycodes.getLsbD 0 := by
    rw [clockRun_succ, next_dataOutBit _ (released n)]
    exact if_pos begins
  rw [← first]
  apply trace_held Controller.dataOutBit (n + 1) later after
  intro i past before
  change (clockRun io start (i + 1)).dataOutBit = (clockRun io start i).dataOutBit
  rw [clockRun_succ, next_dataOutBit _ (released i)]
  obtain ⟨j, rfl⟩ := Nat.exists_eq_add_of_lt past
  have same : (clockRun io start (n + j + 1)).rises (io (n + j + 1)) = false := by
    rw [rises_succ released, pulseAt, high (n + j) (by omega) (by omega)]
    rfl
  exact if_neg (fun rises => Bool.false_ne_true (same.symm.trans rises))

/-- Under the strobe a pulse presents the lowest key of the clock before it. -/
theorem output_of_strobe {n later : ℕ} (strobes : (clockRun io start n).strobe = true)
    (begins : pulseAt io (n + 1) = true) (after : n + 1 < later)
    (high : ∀ m, n + 1 ≤ m → m < later → (io m).rden = true) :
    (clockRun io start later).dataOutBit = (io n).keycodesIn.getLsbD 0 := by
  have rising : (clockRun io start (n + 1)).rises (io (n + 1)) = true :=
    (rises_succ released n).trans begins
  rw [output_of_pulse released rising after high, clockRun_succ,
    next_keycodes_of_strobe _ (released n) strobes]

/-- From the clock that ends the strobe on, the register holds the keys of that clock, less
what the pulses since have shifted out. -/
theorem drained_since {n later : ℕ} (apart : ((io n).rden && (io n).wren) = false)
    (strobes : (clockRun io start n).strobe = true) (after : n < later)
    (quiet : ∀ m, n < m → m ≤ later → (clockRun io start m).strobe = false) :
    Drained (io n).keycodesIn (pulsesFrom io (n + 1) later) (clockRun io start later) := by
  have written : (io n).wren = true := by
    have falls := quiet (n + 1) (Nat.lt_succ_self n) after
    rw [clockRun_succ, next_strobe _ (released n)] at falls
    apply eq_true_of_ne_false
    intro silent
    rw [silent, if_neg Bool.false_ne_true, strobes] at falls
    exact Bool.noConfusion falls
  have still : (clockRun io start n).rises (io n) = false := by
    rw [written, Bool.and_true] at apart
    rw [rises, apart]
    exact Bool.and_false _
  apply trace_from
    (fun time c => Drained (io n).keycodesIn (pulsesFrom io (n + 1) time) c) (n + 1) ?_
    later after
  · intro i past before drained
    change Drained _ _ (clockRun io start i) at drained
    have count := drained.next (released i) (quiet i past (Nat.le_of_lt before))
    obtain ⟨j, rfl⟩ := Nat.exists_eq_add_of_lt past
    rw [rises_succ released] at count
    rw [pulsesFrom_succ io past]
    exact count
  · rw [pulsesFrom_self]
    exact drained_of_strobe (released n) strobes still

/-- A pulse moves the handle once, on the clock after it began. -/
theorem shifts_once {n len : ℕ} (begins : (clockRun io start n).rises (io n) = true)
    (high : ∀ m, n ≤ m → m < n + len → (io m).rden = true) (low : (io (n + len)).rden = false)
    {m : ℕ} (after : n < m) (before : m ≤ n + len + 1) :
    (clockRun io start m).shiftPair.pending = true ↔ m = n + 1 := by
  obtain ⟨i, rfl⟩ := Nat.exists_eq_add_of_lt after
  rw [pending_succ released]
  cases i with
  | zero => exact ⟨fun _ => rfl, fun _ => begins⟩
  | succ i =>
    have quiet : (clockRun io start (n + (i + 1))).rises (io (n + (i + 1))) = false := by
      rw [← Nat.add_assoc, rises_succ released, pulseAt]
      by_cases inside : n + i + 1 < n + len
      · rw [high (n + i) (by omega) (by omega)]
        rfl
      · have last : n + i + 1 = n + len := by omega
        rw [last, low, Bool.and_false]
    constructor
    · intro shifts
      exact absurd (quiet.symm.trans shifts) Bool.false_ne_true
    · intro same
      omega

end Runs

/-- The serial protocol, from any state and for any keys, writes and read pulses, a read never
together with a write. Under the strobe a pulse presents the lowest key of the clock before
it. After the strobe fell the pulses present the keys of its last clock from the lowest up,
then ones, each for as long as it lasts. A pulse of any length, with the low clock behind it,
shifts exactly once; one on the first clock of the run does where no read was under way. The
other output bits are low. -/
theorem serial_protocol (io : ℕ → ControllerPort) (start : Controller)
    (released : ∀ n, (io n).reset = false)
    (apart : ∀ n, ((io n).rden && (io n).wren) = false) :
    (∀ n later, strobeAt io start.strobe n = true → pulseAt io (n + 1) = true →
      n + 1 < later → (∀ m, n + 1 ≤ m → m < later → (io m).rden = true) →
      (clockRun io start later).dataOut.getLsbD 0 = (io n).keycodesIn.getLsbD 0) ∧
    (∀ last n later, strobeAt io start.strobe last = true → last < n →
      (∀ m, last < m → m ≤ n → strobeAt io start.strobe m = false) →
      pulseAt io n = true → n < later →
      (∀ m, n ≤ m → m < later → (io m).rden = true) →
      (clockRun io start later).dataOut.getLsbD 0 =
        if pulsesFrom io (last + 1) n < 8 then
          (io last).keycodesIn.getLsbD (pulsesFrom io (last + 1) n)
        else true) ∧
    (∀ n len, pulseAt io n = true → (n = 0 → start.rdenPrev = false) →
      (∀ m, n ≤ m → m < n + len → (io m).rden = true) → (io (n + len)).rden = false →
      ∀ m, n < m → m ≤ n + len + 1 →
        ((clockRun io start (m + 1)).shiftHandle ≠ (clockRun io start m).shiftHandle ↔
          m = n + 1) ∧
        (strobeAt io start.strobe m = false →
          (clockRun io start (m + 1)).keycodes =
            if m = n + 1 then shifted (clockRun io start m).keycodes
            else (clockRun io start m).keycodes)) ∧
    (∀ n, (clockRun io start n).dataOut.extractLsb' 1 7 = 0) := by
  simp only [← strobe_run released]
  refine ⟨?_, ?_, ?_, fun n => dataOut_high _⟩
  · intro n later strobes begins after high
    rw [dataOut_low]
    exact output_of_strobe released strobes begins after high
  · intro last n later strobes after quiet begins past high
    have drained := drained_since released (apart last) strobes after quiet
    obtain ⟨before, rfl⟩ := Nat.exists_eq_add_of_lt after
    have rising : (clockRun io start (last + before + 1)).rises (io (last + before + 1)) = true :=
      (rises_succ released (last + before)).trans begins
    rw [dataOut_low, output_of_pulse released rising past high,
      drained.lowest (settled_of_pulse released begins)]
    rfl
  · intro n len begins first high low m after before
    have rising := rises_of_pulse released begins first
    have once := shifts_once released rising high low after before
    constructor
    · rw [clockRun_succ, next_shiftHandle _ (released m)]
      exact once
    · intro quiet
      rw [clockRun_succ, next_keycodes_of_quiet _ (released m) quiet]
      exact if_congr once rfl rfl

/-- The port over a poll: the strobe is written high and low again, then every other clock
reads. -/
def polling (keys : Byte) (n : ℕ) : ControllerPort where
  rden := 2 ≤ n && n % 2 == 0
  wren := n < 2
  reset := false
  dataIn := if n = 0 then 1 else 0
  keycodesIn := keys

/-- The third read of a poll, from power-up. -/
theorem serial_protocol_polling :
    (clockRun (polling 0xA5) ⟨0, false, false, false, false, false⟩ 7).dataOut.getLsbD 0 =
      if pulsesFrom (polling 0xA5) 2 6 < 8 then
        (0xA5 : Byte).getLsbD (pulsesFrom (polling 0xA5) 2 6)
      else true := by
  have apart (n : ℕ) : ((polling 0xA5 n).rden && (polling 0xA5 n).wren) = false := by
    by_cases early : n < 2
    · simp [polling, early]
    · simp [polling, early]
  have quiet : ∀ m ≤ 6, 1 < m → strobeAt (polling 0xA5) false m = false := by decide
  have high : ∀ m < 7, 6 ≤ m → (polling 0xA5 m).rden = true := by decide
  exact (serial_protocol (polling 0xA5) ⟨0, false, false, false, false, false⟩ (fun _ => rfl)
    apart).2.1 1 6 7 (by decide) (by decide) (fun m after before => quiet m before after)
    (by decide) (by decide) (fun m after before => high m before after)

end Controller

/-! ## On the CPU bus -/

namespace Nes

variable (nes : Nes) (pins : Pins) (bus : CpuBus)

/-- `CONTROLLER_ONE_rden`. -/
def controllerOneRden : Bool := !nes.dma.dmaActive && bus.rwN && bus.addr.toNat == 0x4016

/-- `CONTROLLER_TWO_rden`. -/
def controllerTwoRden : Bool := !nes.dma.dmaActive && bus.rwN && bus.addr.toNat == 0x4017

/-- `CONTROLLER_ONE_wren` and `CONTROLLER_TWO_wren`. -/
def controllerWren : Bool := !nes.dma.dmaActive && !bus.rwN && bus.addr.toNat == 0x4016

/-- The port of `playerone`. -/
def controllerOnePort (keycodes : Byte) : ControllerPort where
  rden := nes.controllerOneRden bus
  wren := nes.controllerWren bus
  reset := pins.reset
  dataIn := nes.cpuDataBus pins bus
  keycodesIn := keycodes

/-- The port of `playertwo`. -/
def controllerTwoPort (keycodes : Byte) : ControllerPort where
  rden := nes.controllerTwoRden bus
  wren := nes.controllerWren bus
  reset := pins.reset
  dataIn := nes.cpuDataBus pins bus
  keycodesIn := keycodes

variable {pins bus nes}

/-- A bus cycle never reads a controller and writes it. -/
theorem controllerPort_apart (keycodes : Byte) :
    ((nes.controllerOnePort pins bus keycodes).rden &&
        (nes.controllerOnePort pins bus keycodes).wren) = false ∧
      ((nes.controllerTwoPort pins bus keycodes).rden &&
        (nes.controllerTwoPort pins bus keycodes).wren) = false := by
  simp only [controllerOnePort, controllerTwoPort, controllerOneRden, controllerTwoRden,
    controllerWren]
  cases bus.rwN <;> simp

/-- A read of `$4016` shows the output of the first controller on the data bus. -/
theorem cpuDataBus_controllerOne (c : Controller)
    (read : nes.controllerOneRden bus = true)
    (driven : pins.controllerOneDataOut = c.dataOut) : nes.cpuDataBus pins bus = c.dataOut := by
  simp only [controllerOneRden, Bool.and_eq_true, Bool.not_eq_true', beq_iff_eq] at read
  obtain ⟨⟨free, reads⟩, address⟩ := read
  have outside : ppuRange bus.addr = false := by
    simp [ppuRange, address]
  rw [cpuDataBus, free, reads, outside, address, if_neg Bool.false_ne_true,
    if_neg (by decide), if_neg Bool.false_ne_true, if_pos rfl]
  exact driven

/-- A read of `$4017` shows the output of the second controller on the data bus. -/
theorem cpuDataBus_controllerTwo (c : Controller)
    (read : nes.controllerTwoRden bus = true)
    (driven : pins.controllerTwoDataOut = c.dataOut) : nes.cpuDataBus pins bus = c.dataOut := by
  simp only [controllerTwoRden, Bool.and_eq_true, Bool.not_eq_true', beq_iff_eq] at read
  obtain ⟨⟨free, reads⟩, address⟩ := read
  have outside : ppuRange bus.addr = false := by
    simp [ppuRange, address]
  rw [cpuDataBus, free, reads, outside, address, if_neg Bool.false_ne_true,
    if_neg (by decide), if_neg Bool.false_ne_true, if_neg (by decide), if_pos rfl]
  exact driven

end Nes

end FpgaNes
