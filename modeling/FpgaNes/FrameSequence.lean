import Mathlib.Tactic.SplitIfs
import FpgaNes.Apu
import FpgaNes.Hdl.Handshake

/-!
# The frame sequence

What an edge of `CPU_CLK` does to the frame sequencer, as arithmetic of its counter: the next
count, and which of the three toggled outputs move. A write of `$4017` leaves the count alone,
so the steps after the write come at times that depend on the count it found.
-/

namespace FpgaNes

namespace FrameSequencer

/-! ## One edge -/

/-- A sequence ends after its other steps, and before the counter is full. -/
theorem lastCount_bounds (mode : Bool) :
    29839 ≤ lastCount mode ∧ lastCount mode ≤ 37281 := by
  cases mode <;> decide

/-- A count at which the half-frame clock moves. -/
def halfStep (last count : ℕ) : Bool := count == 14913 || decide (last ≤ count)

/-- A count at which the quarter-frame clock moves. -/
def quarterStep (last count : ℕ) : Bool :=
  count == 7457 || (count == 22371 || halfStep last count)

/-- The count after a step. -/
def countNext (last count : ℕ) : ℕ := if last ≤ count then 0 else count + 1

variable (q : FrameSequencer)

/-- The next mode of a sequencer that owes no immediate edge. -/
theorem next_scheduled {mode modeUpdate : Bool} (still : q.immediate mode modeUpdate = false) :
    q.next false mode modeUpdate = q.step (lastCount mode) (!mode) := by
  rw [next, still]
  cases mode <;> rfl

/-- An immediate edge: the clocks move and the count does not. -/
theorem next_immediate {mode modeUpdate : Bool} (owed : q.immediate mode modeUpdate = true) :
    q.next false mode modeUpdate =
      { q with
        modeHandler := !q.modeHandler
        halfClock := !q.halfClock
        quarterClock := !q.quarterClock } := by
  rw [next, owed]
  rfl

/-- The count of the last step of a sequence is within the counter. -/
theorem count_succ {last : ℕ} (bound : last ≤ 37281) (running : q.counter.toNat < last) :
    (q.counter + 1).toNat = q.counter.toNat + 1 := by
  rw [BitVec.toNat_add, Nat.mod_eq_of_lt]
  · rfl
  · show q.counter.toNat + 1 < 2 ^ 16
    omega

/-- The count after a scheduled step. -/
theorem step_counter {last : ℕ} (irq : Bool) (late : 29839 ≤ last) (bound : last ≤ 37281) :
    (q.step last irq).counter.toNat = countNext last q.counter.toNat := by
  by_cases running : q.counter.toNat < last
  · have succ := q.count_succ bound running
    rw [countNext, if_neg (Nat.not_le.mpr running), ← succ, step,
      if_neg (Nat.not_le.mpr running)]
    split_ifs <;> rfl
  · have past : last ≤ q.counter.toNat := Nat.le_of_not_lt running
    rw [countNext, if_pos past, step, if_neg (by omega), if_neg (by omega), if_neg (by omega),
      if_pos past]
    rfl

/-- When a scheduled step moves the half-frame clock. -/
theorem step_halfClock {last : ℕ} (irq : Bool) (late : 29839 ≤ last) :
    (q.step last irq).halfClock = (q.halfClock ^^ halfStep last q.counter.toNat) := by
  rw [step]
  split_ifs with first second third ends
  · have still : halfStep last q.counter.toNat = false := by simp [halfStep, first]; omega
    rw [still, Bool.xor_false]
  · have moves : halfStep last q.counter.toNat = true := by simp [halfStep, second]
    rw [moves, Bool.xor_true]
  · have still : halfStep last q.counter.toNat = false := by simp [halfStep, third]; omega
    rw [still, Bool.xor_false]
  · have moves : halfStep last q.counter.toNat = true := by simp [halfStep, ends]
    rw [moves, Bool.xor_true]
  · have still : halfStep last q.counter.toNat = false := by simp [halfStep, second, ends]
    rw [still, Bool.xor_false]

/-- When a scheduled step moves the quarter-frame clock. -/
theorem step_quarterClock {last : ℕ} (irq : Bool) :
    (q.step last irq).quarterClock = (q.quarterClock ^^ quarterStep last q.counter.toNat) := by
  rw [step]
  split_ifs with first second third ends
  · have moves : quarterStep last q.counter.toNat = true := by simp [quarterStep, first]
    rw [moves, Bool.xor_true]
  · have moves : quarterStep last q.counter.toNat = true := by
      simp [quarterStep, halfStep, second]
    rw [moves, Bool.xor_true]
  · have moves : quarterStep last q.counter.toNat = true := by simp [quarterStep, third]
    rw [moves, Bool.xor_true]
  · have moves : quarterStep last q.counter.toNat = true := by
      simp [quarterStep, halfStep, ends]
    rw [moves, Bool.xor_true]
  · have still : quarterStep last q.counter.toNat = false := by
      simp [quarterStep, halfStep, first, second, third, ends]
    rw [still, Bool.xor_false]

/-- When a scheduled step asks for a frame interrupt. -/
theorem step_frameIrqRequest {last : ℕ} (irq : Bool) (late : 29839 ≤ last) :
    (q.step last irq).frameIrqRequest =
      (q.frameIrqRequest ^^ (irq && decide (last ≤ q.counter.toNat))) := by
  rw [step]
  split_ifs with first second third ends
  · rw [decide_eq_false (by omega), Bool.and_false, Bool.xor_false]
  · rw [decide_eq_false (by omega), Bool.and_false, Bool.xor_false]
  · rw [decide_eq_false (by omega), Bool.and_false, Bool.xor_false]
  · rw [decide_eq_true ends, Bool.and_true]
  · rw [decide_eq_false ends, Bool.and_false, Bool.xor_false]

/-- A scheduled step answers no mode update. -/
theorem step_modeHandler (last : ℕ) (irq : Bool) :
    (q.step last irq).modeHandler = q.modeHandler := by
  rw [step]
  split_ifs <;> rfl

end FrameSequencer

/-! ## The sequencer in the APU -/

namespace Apu

/-- The count of the frame sequencer. -/
def count (apu : Apu) : ℕ := apu.sequencer.counter.toNat

/-- The count at which the sequence of the current mode ends. -/
def lastCount (apu : Apu) : ℕ := FrameSequencer.lastCount apu.status.frameCounterMode

/-- The next edge is an immediate one. -/
def immediate (apu : Apu) : Bool :=
  apu.sequencer.immediate apu.status.frameCounterMode apu.status.frameCounterModeUpdate

/-- The handshake that carries writes of `$4017` to the sequencer. -/
def modePair (apu : Apu) : Hdl.Handshake :=
  ⟨apu.status.frameCounterModeUpdate, apu.sequencer.modeHandler⟩

/-- What the sequencer emits on an edge: the outputs that toggle. -/
structure FrameEvents where
  /-- A quarter-frame event. -/
  quarter : Bool
  /-- A half-frame event. -/
  half : Bool
  /-- A request to set the frame interrupt. -/
  irq : Bool
  deriving DecidableEq

/-- The events of the edge that ends a clock of the APU. -/
def frameEvents (apu : Apu) (port : ApuPort) : FrameEvents where
  quarter := apu.sequencer.quarterClock ^^ (apu.clock port).sequencer.quarterClock
  half := apu.sequencer.halfClock ^^ (apu.clock port).sequencer.halfClock
  irq := apu.sequencer.frameIrqRequest ^^ (apu.clock port).sequencer.frameIrqRequest

variable (apu : Apu) {port : ApuPort}

/-- The sequencer after a clock with `RESET` low. -/
theorem clock_sequencer (released : port.reset = false) :
    (apu.clock port).sequencer =
      apu.sequencer.next false apu.status.frameCounterMode apu.status.frameCounterModeUpdate := by
  rw [clock, released]

/-- An immediate edge is a waiting update in mode one. -/
theorem immediate_eq : apu.immediate = (apu.modePair.pending && apu.status.frameCounterMode) := by
  rw [immediate, FrameSequencer.immediate, Hdl.Handshake.pending, Bool.xor_comm]
  rfl

/-- The handshake takes one step on each edge: writes of `$4017` ask, and the sequencer is
ready in mode one only. -/
theorem modePair_clock (released : port.reset = false) :
    (apu.clock port).modePair =
      apu.modePair.step (port.writes 0x17) apu.status.frameCounterMode := by
  have asked := apu.status.next_modeUpdate port released
  have answered : (apu.clock port).sequencer.modeHandler =
      (apu.sequencer.modeHandler ^^ apu.modePair.served apu.status.frameCounterMode) := by
    rw [clock_sequencer apu released, Hdl.Handshake.served, ← immediate_eq, immediate]
    cases owed : apu.sequencer.immediate apu.status.frameCounterMode
        apu.status.frameCounterModeUpdate with
    | true => rw [FrameSequencer.next_immediate _ owed, Bool.xor_true]
    | false =>
      rw [FrameSequencer.next_scheduled _ owed, FrameSequencer.step_modeHandler,
        Bool.xor_false]
  rw [modePair, answered]
  show Hdl.Handshake.mk (apu.status.next port).frameCounterModeUpdate _ = _
  rw [asked]
  rfl

/-- What waits after an edge: a write on it, or an update that mode zero left waiting. -/
theorem pending_clock (released : port.reset = false) :
    (apu.clock port).modePair.pending =
      (port.writes 0x17 ^^ (apu.modePair.pending && !apu.status.frameCounterMode)) := by
  rw [modePair_clock apu released, Hdl.Handshake.pending_step]

/-- An immediate edge follows a write of `$4017` with bit 7 set that finds nothing waiting, and
nothing else. -/
theorem immediate_clock (released : port.reset = false) :
    (apu.clock port).immediate =
      ((port.writes 0x17 && port.cpuDataIn.getLsbD 7) &&
        !(apu.modePair.pending && !apu.status.frameCounterMode)) := by
  have mode : (apu.clock port).status.frameCounterMode =
      if port.writes 0x17 then port.cpuDataIn.getLsbD 7 else apu.status.frameCounterMode :=
    apu.status.next_mode port
  rw [immediate_eq, pending_clock apu released, mode]
  cases port.writes 0x17 <;> cases port.cpuDataIn.getLsbD 7 <;>
    cases apu.modePair.pending <;> cases apu.status.frameCounterMode <;> rfl

/-- The count after an edge. -/
theorem count_clock (released : port.reset = false) :
    (apu.clock port).count =
      if apu.immediate then apu.count
      else FrameSequencer.countNext apu.lastCount apu.count := by
  have bounds := FrameSequencer.lastCount_bounds apu.status.frameCounterMode
  rw [count, clock_sequencer apu released]
  cases owed : apu.immediate with
  | true =>
    rw [if_pos rfl, FrameSequencer.next_immediate _ owed]
    rfl
  | false =>
    rw [if_neg Bool.false_ne_true, FrameSequencer.next_scheduled _ owed,
      FrameSequencer.step_counter _ _ bounds.1 bounds.2]
    rfl

/-- The events of an edge: an immediate one moves both clocks, and a scheduled one moves what
its count says. -/
theorem frameEvents_eq (released : port.reset = false) :
    apu.frameEvents port =
      if apu.immediate then ⟨true, true, false⟩
      else
        { quarter := FrameSequencer.quarterStep apu.lastCount apu.count
          half := FrameSequencer.halfStep apu.lastCount apu.count
          irq := !apu.status.frameCounterMode && decide (apu.lastCount ≤ apu.count) } := by
  have bounds := FrameSequencer.lastCount_bounds apu.status.frameCounterMode
  rw [frameEvents, clock_sequencer apu released]
  cases owed : apu.immediate with
  | true =>
    rw [if_pos rfl, FrameSequencer.next_immediate _ owed]
    cases apu.sequencer.quarterClock <;> cases apu.sequencer.halfClock <;>
      cases apu.sequencer.frameIrqRequest <;> rfl
  | false =>
    rw [if_neg Bool.false_ne_true, FrameSequencer.next_scheduled _ owed,
      FrameSequencer.step_quarterClock, FrameSequencer.step_halfClock _ _ bounds.1,
      FrameSequencer.step_frameIrqRequest _ _ bounds.1, lastCount, count]
    simp only [← Bool.xor_assoc, Bool.xor_self, Bool.false_xor]

end Apu

/-! ## Undisturbed runs -/

section Runs

variable {io : ℕ → ApuPort} {start : Apu}

/-- While `$4017` is not written and nothing is owed, the sequencer counts the edges up to the
end of its sequence. -/
theorem apuRun_count (n : ℕ) (released : ∀ i, (io i).reset = false)
    (unwritten : ∀ i < n, (io i).writes 0x17 = false) (still : start.immediate = false)
    (room : start.count + n ≤ start.lastCount) :
    (apuRun io start n).count = start.count + n ∧
      (apuRun io start n).immediate = false ∧
        (apuRun io start n).status.frameCounterMode = start.status.frameCounterMode := by
  apply Hdl.trace_invariant (fun time (apu : Apu) => apu.count = start.count + time ∧
    apu.immediate = false ∧ apu.status.frameCounterMode = start.status.frameCounterMode)
    ⟨rfl, still, rfl⟩ n
  intro i below ⟨counted, served, mode⟩
  rw [← apuRun] at counted served mode
  have unwritten := unwritten i below
  have last : (apuRun io start i).lastCount = start.lastCount :=
    congrArg FrameSequencer.lastCount mode
  have running : ¬ start.lastCount ≤ start.count + i := by omega
  refine ⟨?_, ?_, ?_⟩
  · show ((apuRun io start i).clock (io i)).count = _
    rw [Apu.count_clock _ (released i), served, if_neg Bool.false_ne_true, last, counted,
      FrameSequencer.countNext, if_neg running, Nat.add_assoc]
  · show ((apuRun io start i).clock (io i)).immediate = _
    rw [Apu.immediate_clock _ (released i), unwritten]
    rfl
  · show ((apuRun io start i).status.next (io i)).frameCounterMode = _
    rw [ApuStatus.next_mode, unwritten, if_neg Bool.false_ne_true, mode]

end Runs

end FpgaNes
