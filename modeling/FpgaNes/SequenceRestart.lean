import FpgaNes.FrameSequence

/-!
# A write of `$4017` and the count it finds

Two runs of the APU that start with different counts of the frame sequencer, over the same
write of `$4017` and the same accesses after it. The write does not restart the count, so the
two sequences fall together only where both have reached their end.
-/

namespace FpgaNes

open FrameSequencer (halfStep quarterStep countNext lastCount_bounds)

namespace Apu

/-- The APU with another count of the frame sequencer. -/
def withCount (apu : Apu) (counter : BitVec 16) : Apu :=
  { apu with sequencer := { apu.sequencer with counter } }

/-- Two states that agree on what decides the next event, apart from the count. -/
structure Alike (apu other : Apu) : Prop where
  /-- The status block. -/
  status : other.status = apu.status
  /-- The handle of the mode updates. -/
  handler : other.sequencer.modeHandler = apu.sequencer.modeHandler

/-- The two counts are equal, or both sequences have reached their end. -/
def InStep (apu other : Apu) : Prop :=
  apu.count = other.count ∨ (apu.lastCount ≤ apu.count ∧ apu.lastCount ≤ other.count)

/-- From these two states, any accesses make the sequencer emit the same events on the same
edges. -/
def SameEvents (apu other : Apu) : Prop :=
  ∀ io : ℕ → ApuPort, (∀ i, (io i).reset = false) →
    ∀ n, (apuRun io apu n).frameEvents (io n) = (apuRun io other n).frameEvents (io n)

variable {apu other : Apu} {port : ApuPort}

/-! ## One edge of two states -/

/-- The count does not matter. -/
theorem alike_withCount (apu : Apu) (counter : BitVec 16) : apu.Alike (apu.withCount counter) :=
  ⟨rfl, rfl⟩

namespace Alike

/-- Alike is mutual. -/
theorem symm (alike : Alike apu other) : Alike other apu :=
  ⟨alike.status.symm, alike.handler.symm⟩

/-- The pair of the mode updates. -/
theorem modePair (alike : Alike apu other) : other.modePair = apu.modePair := by
  rw [Apu.modePair, alike.status, alike.handler]
  rfl

/-- Whether the next edge gives events at once. -/
theorem immediate (alike : Alike apu other) : other.immediate = apu.immediate := by
  rw [immediate_eq, immediate_eq, alike.modePair, alike.status]

/-- The length of the sequence. -/
theorem lastCount (alike : Alike apu other) : other.lastCount = apu.lastCount := by
  rw [Apu.lastCount, alike.status]
  rfl

/-- One access keeps two states alike. -/
theorem clock (alike : Alike apu other) (released : port.reset = false) :
    Alike (apu.clock port) (other.clock port) := by
  constructor
  · show other.status.next port = apu.status.next port
    rw [alike.status]
  · have pairs : (other.clock port).modePair = (apu.clock port).modePair := by
      rw [modePair_clock other released, modePair_clock apu released, alike.modePair,
        alike.status]
    exact congrArg Hdl.Handshake.handle pairs

/-- States in step emit the same events. -/
theorem frameEvents (alike : Alike apu other) (step : InStep apu other)
    (released : port.reset = false) : apu.frameEvents port = other.frameEvents port := by
  rw [frameEvents_eq apu released, frameEvents_eq other released, alike.immediate,
    alike.lastCount, alike.status]
  rcases step with same | ⟨ends, otherEnds⟩
  · rw [same]
  · have bounds := lastCount_bounds apu.status.frameCounterMode
    simp [quarterStep, halfStep, ends, otherEnds]

/-- States in step stay in step: a sequence at its end restarts on the next scheduled edge, and
an immediate edge leaves mode one, whose sequence is the longer. -/
theorem inStep (alike : Alike apu other) (step : InStep apu other)
    (released : port.reset = false) : InStep (apu.clock port) (other.clock port) := by
  have counts := count_clock apu released
  have others := count_clock other released
  rw [alike.immediate, alike.lastCount] at others
  rcases step with same | ⟨ends, otherEnds⟩
  · left
    rw [counts, others, same]
  · cases owed : apu.immediate with
    | false =>
      left
      rw [owed, if_neg Bool.false_ne_true, countNext, if_pos ends] at counts
      rw [owed, if_neg Bool.false_ne_true, countNext, if_pos otherEnds] at others
      rw [counts, others]
    | true =>
      right
      have mode : apu.status.frameCounterMode = true := by
        rw [immediate_eq, Bool.and_eq_true] at owed
        exact owed.2
      have longest : apu.lastCount = 37281 := by
        rw [Apu.lastCount, mode]
        rfl
      have bound := (lastCount_bounds (apu.clock port).status.frameCounterMode).2
      rw [owed, if_pos rfl] at counts others
      rw [counts, others, Apu.lastCount]
      omega

end Alike

/-! ## Two runs -/

/-- States that are alike and in step emit the same events for ever. -/
theorem sameEvents_of_inStep (alike : Alike apu other) (step : InStep apu other) :
    SameEvents apu other := by
  intro io released n
  have both : Alike (apuRun io apu n) (apuRun io other n) ∧
      InStep (apuRun io apu n) (apuRun io other n) := by
    induction n with
    | zero => exact ⟨alike, step⟩
    | succ n ih =>
      exact ⟨ih.1.clock (released n), ih.1.inStep ih.2 (released n)⟩
  exact both.1.frameEvents both.2 (released n)

/-- Two states that emit the same events still do so after the same access. -/
theorem SameEvents.clock (same : SameEvents apu other) (released : port.reset = false) :
    SameEvents (apu.clock port) (other.clock port) := by
  intro io after n
  have low : ∀ i, (Hdl.precede port io i).reset = false := by
    intro i
    cases i with
    | zero => exact released
    | succ i => exact after i
  have shifted : ∀ start : Apu,
      apuRun io (start.clock port) n = apuRun (Hdl.precede port io) start (n + 1) :=
    fun _ => Hdl.trace_precede port n
  rw [shifted apu, shifted other]
  exact same (Hdl.precede port io) low (n + 1)

/-- And after the same accesses. -/
theorem SameEvents.run {io : ℕ → ApuPort} (same : SameEvents apu other)
    (released : ∀ i, (io i).reset = false) (n : ℕ) :
    SameEvents (apuRun io apu n) (apuRun io other n) := by
  induction n with
  | zero => exact same
  | succ n ih => exact ih.clock (released n)

/-- The accesses of an idle processor. -/
def idle : ℕ → ApuPort := fun _ => .idle

/-- An idle run that owes nothing counts up to the end of its sequence. -/
theorem idle_count (n : ℕ) (still : apu.immediate = false)
    (room : apu.count + n ≤ apu.lastCount) :
    (apuRun idle apu n).count = apu.count + n ∧ (apuRun idle apu n).immediate = false ∧
      (apuRun idle apu n).lastCount = apu.lastCount := by
  have low : ∀ i, (idle i).reset = false := fun _ => rfl
  have counted := apuRun_count n low (fun _ _ => rfl) still room
  exact ⟨counted.1, counted.2.1, congrArg FrameSequencer.lastCount counted.2.2⟩

/-- The half-frame event of a state that owes nothing. -/
theorem still_half (still : apu.immediate = false) :
    (apu.frameEvents .idle).half = halfStep apu.lastCount apu.count := by
  rw [frameEvents_eq _ (show ApuPort.idle.reset = false from rfl), still,
    if_neg Bool.false_ne_true]

/-- An idle run that owes nothing reaches the end of its sequence. -/
theorem idle_ended (still : apu.immediate = false) :
    apu.lastCount ≤ (apuRun idle apu (apu.lastCount - apu.count)).count ∧
      (apuRun idle apu (apu.lastCount - apu.count)).immediate = false ∧
        (apuRun idle apu (apu.lastCount - apu.count)).lastCount = apu.lastCount := by
  by_cases ended : apu.lastCount ≤ apu.count
  · rw [Nat.sub_eq_zero_of_le ended, apuRun_zero]
    exact ⟨ended, still, rfl⟩
  · have reaches : apu.count + (apu.lastCount - apu.count) = apu.lastCount := by omega
    have counted := idle_count (apu.lastCount - apu.count) still (Nat.le_of_eq reaches)
    rw [counted.1, reaches]
    exact ⟨Nat.le_refl _, counted.2⟩

/-- And starts again on the next edge. -/
theorem ended_clock (still : apu.immediate = false) (ended : apu.lastCount ≤ apu.count) :
    (apu.clock .idle).count = 0 ∧ (apu.clock .idle).immediate = false ∧
      (apu.clock .idle).lastCount = apu.lastCount := by
  have low : ApuPort.idle.reset = false := rfl
  refine ⟨?_, immediate_clock apu low, ?_⟩
  · rw [count_clock apu low, still, if_neg Bool.false_ne_true, countNext, if_pos ended]
  · exact congrArg FrameSequencer.lastCount (apu.status.next_mode .idle)

/-- A sequence just past its middle and one at its start emit other events: the second passes
its middle where the first has nothing to emit. -/
theorem not_sameEvents_of_middle (still : apu.immediate = false)
    (otherStill : other.immediate = false) (past : apu.count = 14914) (first : other.count = 0) :
    ¬ SameEvents apu other := by
  intro same
  have bound : 29839 ≤ apu.lastCount := (lastCount_bounds _).1
  have otherBound : 29839 ≤ other.lastCount := (lastCount_bounds _).1
  have counted := idle_count 14913 still (by omega)
  have otherCounted := idle_count 14913 otherStill (by omega)
  have half : ((apuRun idle apu 14913).frameEvents .idle).half =
      ((apuRun idle other 14913).frameEvents .idle).half :=
    congrArg FrameEvents.half (same idle (fun _ => rfl) 14913)
  rw [still_half counted.2.1, still_half otherCounted.2.1, counted.1, counted.2.2, past,
    otherCounted.1, first, halfStep, decide_eq_false (by omega)] at half
  exact Bool.false_ne_true half

/-- A sequence that is behind another, and has not ended, emits other events: the one ahead
ends first, and should that fall together with the middle of the one behind, then the next
middle of the one ahead does not. -/
theorem not_sameEvents_of_behind (alike : Alike apu other) (still : apu.immediate = false)
    (behind : apu.count < other.count) (running : apu.count < apu.lastCount) :
    ¬ SameEvents apu other := by
  intro same
  have bound : 29839 ≤ apu.lastCount := (lastCount_bounds _).1
  have ahead := idle_ended (alike.immediate.trans still)
  rw [alike.lastCount] at ahead
  generalize steps_eq : apu.lastCount - other.count = steps at ahead
  have early : apu.count + steps < apu.lastCount := by omega
  have counted := idle_count steps still (Nat.le_of_lt early)
  have middle : apu.count + steps = 14913 := by
    have half : ((apuRun idle apu steps).frameEvents .idle).half =
        ((apuRun idle other steps).frameEvents .idle).half :=
      congrArg FrameEvents.half (same idle (fun _ => rfl) steps)
    rw [still_half counted.2.1, still_half ahead.2.1, counted.1, counted.2.2, ahead.2.2, halfStep,
      halfStep, decide_eq_true ahead.1, Bool.or_true, decide_eq_false (Nat.not_le.mpr early),
      Bool.or_false, beq_iff_eq] at half
    exact half
  have passed := idle_count (steps + 1) still (by omega)
  have restarted := ended_clock ahead.2.1 (by rw [ahead.2.2]; exact ahead.1)
  exact not_sameEvents_of_middle passed.2.1 restarted.2.1 (by omega) restarted.1
    (same.run (fun _ => rfl) (steps + 1))

/-- States that owe no immediate edge and emit the same events are in step. -/
theorem SameEvents.inStep (same : SameEvents apu other) (alike : Alike apu other)
    (still : apu.immediate = false) : InStep apu other := by
  rcases Nat.lt_trichotomy apu.count other.count with behind | equal | ahead
  · right
    have ended := mt (not_sameEvents_of_behind alike still behind) (not_not.mpr same)
    omega
  · exact Or.inl equal
  · right
    have back : SameEvents other apu := fun io released n => (same io released n).symm
    have ended := mt (not_sameEvents_of_behind alike.symm (alike.immediate.trans still) ahead)
      (not_not.mpr back)
    rw [alike.lastCount] at ended
    omega

/-- Alike states emit the same events for ever exactly when they are in step. -/
theorem sameEvents_iff (alike : Alike apu other) : SameEvents apu other ↔ InStep apu other := by
  constructor
  · intro same
    cases owed : apu.immediate with
    | false => exact same.inStep alike owed
    | true =>
      -- the immediate edge leaves both counts, and the mode, as they are
      have low : ApuPort.idle.reset = false := rfl
      have after : InStep (apu.clock .idle) (other.clock .idle) :=
        (same.clock low).inStep (alike.clock low) (immediate_clock apu low)
      have last : (apu.clock .idle).lastCount = apu.lastCount :=
        congrArg FrameSequencer.lastCount (apu.status.next_mode .idle)
      rw [InStep, last, count_clock apu low, count_clock other low, alike.immediate, owed,
        if_pos rfl, if_pos rfl] at after
      exact after
  · exact sameEvents_of_inStep alike

/-! ## After a write -/

/-- The count a write of `$4017` finds, and the count of another run, are equal, or the two
sequences start again on one edge: on the edge of the write, which ends a step of the mode
before it, or on the next scheduled one, which ends a step of the written mode. -/
def RestartTogether (apu : Apu) (mode : Bool) (other : ℕ) : Prop :=
  let last := FrameSequencer.lastCount mode
  apu.count = other ∨
    if apu.immediate then last ≤ apu.count ∧ last ≤ other
    else
      (apu.lastCount ≤ apu.count ∧ apu.lastCount ≤ other) ∨
        ((last ≤ apu.count + 1 ∧ apu.count < apu.lastCount) ∧
          (last ≤ other + 1 ∧ other < apu.lastCount))

/-- Two states of the APU that differ in the count of the frame sequencer, and the same write
of `$4017`: whatever follows, the frame events after the write come on the same edges exactly
when the two counts restart together. -/
theorem sameEvents_after_write_iff (apu : Apu) (counter : BitVec 16) (port : ApuPort)
    (released : port.reset = false) (written : port.writes 0x17 = true) :
    SameEvents (apu.clock port) ((apu.withCount counter).clock port) ↔
      apu.RestartTogether (port.cpuDataIn.getLsbD 7) counter.toNat := by
  have alike := apu.alike_withCount counter
  have mode : (apu.clock port).lastCount =
      FrameSequencer.lastCount (port.cpuDataIn.getLsbD 7) := by
    have next := apu.status.next_mode port
    rw [written, if_pos rfl] at next
    exact congrArg FrameSequencer.lastCount next
  have counts := count_clock apu released
  have others := count_clock (apu.withCount counter) released
  rw [alike.immediate, alike.lastCount] at others
  have bounds := lastCount_bounds (port.cpuDataIn.getLsbD 7)
  rw [sameEvents_iff (alike.clock released), InStep, mode, counts, others, RestartTogether]
  show (_ = (if apu.immediate then counter.toNat else countNext apu.lastCount counter.toNat) ∨
    (_ ∧ _ ≤ (if apu.immediate then counter.toNat else countNext apu.lastCount counter.toNat))) ↔ _
  cases apu.immediate with
  | true => exact Iff.rfl
  | false =>
    rw [if_neg Bool.false_ne_true, if_neg Bool.false_ne_true, if_neg Bool.false_ne_true]
    unfold countNext
    split <;> split <;> omega

/-- Two runs that restart together: both are past the end of the sequence of mode zero. -/
theorem sameEvents_past_end :
    SameEvents ((powerUp.withCount 29839).clock (.frameCounter 0x00))
      (((powerUp.withCount 29839).withCount 30000).clock (.frameCounter 0x00)) := by
  apply (sameEvents_after_write_iff _ _ _ rfl rfl).mpr
  unfold RestartTogether
  decide

/-- And two that do not: the sequence of the second ends on the edge after the write. -/
theorem not_sameEvents_near_end :
    ¬ SameEvents (powerUp.clock (.frameCounter 0x00))
      ((powerUp.withCount 29838).clock (.frameCounter 0x00)) := by
  intro same
  have events := same idle (fun _ => rfl) 0
  exact absurd events (by decide)

end Apu

end FpgaNes
