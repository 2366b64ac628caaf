import FpgaNes.FrameSequence
import Mathlib.Algebra.Group.Nat.Even

/-!
# The immediate frame clock

A write of `$4017` with bit 7 set is to clock the length counters and envelopes at once. The
status block tells the sequencer of every write by toggling `frame_counter_mode_update`, but
the sequencer answers in mode one only: a write with bit 7 clear stays unanswered, and cancels
against the next one.
-/

namespace FpgaNes

namespace Apu

/-- Both clocks move on the edge, and the sequence takes no step. -/
def togglesAtOnce (apu : Apu) (port : ApuPort) : Bool :=
  (apu.frameEvents port).quarter && (apu.frameEvents port).half &&
    (apu.clock port).count == apu.count

/-- An update that mode zero leaves waiting. -/
def unanswered (apu : Apu) : Bool := apu.modePair.pending && !apu.status.frameCounterMode

variable (apu : Apu) {port : ApuPort}

/-- The clocks move at once on the immediate edges. -/
theorem togglesAtOnce_eq (released : port.reset = false) :
    apu.togglesAtOnce port = apu.immediate := by
  have bounds := FrameSequencer.lastCount_bounds apu.status.frameCounterMode
  rw [togglesAtOnce, frameEvents_eq apu released, count_clock apu released]
  cases apu.immediate with
  | true => simp
  | false =>
    have moves : FrameSequencer.countNext apu.lastCount apu.count ≠ apu.count := by
      show FrameSequencer.countNext (FrameSequencer.lastCount _) apu.count ≠ apu.count
      unfold FrameSequencer.countNext
      split <;> omega
    rw [if_neg Bool.false_ne_true, if_neg Bool.false_ne_true, beq_false_of_ne moves,
      Bool.and_false]

/-- What is left unanswered after an edge: a write with bit 7 set leaves nothing, and one with
bit 7 clear turns it over. -/
theorem unanswered_clock (released : port.reset = false) :
    (apu.clock port).unanswered =
      if port.writes 0x17 then !port.cpuDataIn.getLsbD 7 && !apu.unanswered
      else apu.unanswered := by
  have mode : (apu.clock port).status.frameCounterMode =
      if port.writes 0x17 then port.cpuDataIn.getLsbD 7 else apu.status.frameCounterMode :=
    apu.status.next_mode port
  rw [unanswered, pending_clock apu released, mode, unanswered]
  cases port.writes 0x17 <;> cases port.cpuDataIn.getLsbD 7 <;>
    cases apu.modePair.pending <;> cases apu.status.frameCounterMode <;> rfl

end Apu

/-! ## Runs -/

/-- The writes of `$4017` with bit 7 clear since the last one with bit 7 set, over those that
the start of the run owes. -/
def clearsSince (io : ℕ → ApuPort) (owed : ℕ) : ℕ → ℕ
  | 0 => owed
  | n + 1 =>
    if (io n).writes 0x17 then
      if (io n).cpuDataIn.getLsbD 7 then 0 else clearsSince io owed n + 1
    else clearsSince io owed n

section Runs

variable {io : ℕ → ApuPort} {start : Apu}

/-- The edges of a stretch of a run on which the clocks move at once. -/
def immediateToggles (io : ℕ → ApuPort) (start : Apu) (first edges : ℕ) : ℕ :=
  (List.range edges).countP fun i =>
    (apuRun io start (first + i)).togglesAtOnce (io (first + i))

/-- Each write of `$4017` is followed, up to the edge of the next one, by one immediate toggle
of the clocks when bit 7 is set, and by none when it is clear. -/
def ClocksAtOnce (io : ℕ → ApuPort) (start : Apu) : Prop :=
  ∀ n, (io n).writes 0x17 = true →
    ∀ more, (∀ i < more, (io (n + 1 + i)).writes 0x17 = false) →
      immediateToggles io start (n + 1) (more + 1) =
        if (io n).cpuDataIn.getLsbD 7 then 1 else 0

/-- An update is left unanswered after an odd number of writes with bit 7 clear. -/
theorem unanswered_iff (released : ∀ i, (io i).reset = false) (n : ℕ) :
    (apuRun io start n).unanswered = true ↔ ¬ Even (clearsSince io start.unanswered.toNat n) := by
  induction n with
  | zero =>
    rw [apuRun_zero, clearsSince]
    cases start.unanswered <;> simp
  | succ n ih =>
    rw [apuRun_succ, Apu.unanswered_clock _ (released n), clearsSince]
    cases (io n).writes 0x17 with
    | false => exact ih
    | true =>
      cases (io n).cpuDataIn.getLsbD 7 with
      | true => simp
      | false =>
        rw [if_pos rfl, if_pos rfl, if_neg Bool.false_ne_true, Nat.even_add_one, not_not,
          Bool.not_false, Bool.true_and, Bool.not_eq_true', ← Bool.not_eq_true, ih, not_not]

/-- Where a run toggles the clocks at once: after a write with bit 7 set that finds nothing
unanswered. -/
theorem togglesAtOnce_succ (released : ∀ i, (io i).reset = false) (n : ℕ) :
    (apuRun io start (n + 1)).togglesAtOnce (io (n + 1)) =
      (((io n).writes 0x17 && (io n).cpuDataIn.getLsbD 7) &&
        !(apuRun io start n).unanswered) := by
  rw [Apu.togglesAtOnce_eq _ (released (n + 1)), apuRun_succ,
    Apu.immediate_clock _ (released n), Apu.unanswered]

/-- After a write and up to the next, at most the first edge toggles the clocks at once. -/
theorem immediateToggles_eq (released : ∀ i, (io i).reset = false) (n more : ℕ)
    (unwritten : ∀ i < more, (io (n + 1 + i)).writes 0x17 = false) :
    immediateToggles io start (n + 1) (more + 1) =
      ((apuRun io start (n + 1)).togglesAtOnce (io (n + 1))).toNat := by
  have later : (List.range more).countP ((fun i =>
      (apuRun io start (n + 1 + i)).togglesAtOnce (io (n + 1 + i))) ∘ Nat.succ) = 0 := by
    apply List.countP_eq_zero.mpr
    intro i inside
    have quiet := unwritten i (List.mem_range.mp inside)
    show ¬ (apuRun io start (n + 1 + i + 1)).togglesAtOnce (io (n + 1 + i + 1)) = true
    rw [togglesAtOnce_succ released, quiet]
    exact Bool.false_ne_true
  rw [immediateToggles, List.range_succ_eq_map, List.countP_cons, List.countP_map, later,
    Nat.add_zero, Nat.zero_add]
  cases (apuRun io start (n + 1)).togglesAtOnce (io (n + 1)) <;> rfl

/-- From any state of the APU, and under any writes: each write is followed by its immediate
toggles exactly when every write with bit 7 set comes after an even number of writes with
bit 7 clear since the one before it. -/
theorem clocksAtOnce_iff (start : Apu) (released : ∀ i, (io i).reset = false) :
    ClocksAtOnce io start ↔
      ∀ n, (io n).writes 0x17 = true → (io n).cpuDataIn.getLsbD 7 = true →
        Even (clearsSince io start.unanswered.toNat n) := by
  constructor
  · intro prompt n written set
    have toggles := prompt n written 0 (fun i none => absurd none (Nat.not_lt_zero i))
    rw [immediateToggles_eq released n 0 (fun i none => absurd none (Nat.not_lt_zero i)),
      togglesAtOnce_succ released, written, set, if_pos rfl] at toggles
    cases left : (apuRun io start n).unanswered with
    | true =>
      rw [left] at toggles
      exact absurd toggles Nat.zero_ne_one
    | false =>
      have answered := mt (unanswered_iff released n).mpr (Bool.eq_false_iff.mp left)
      exact not_not.mp answered
  · intro even n written more unwritten
    rw [immediateToggles_eq released n more unwritten, togglesAtOnce_succ released, written]
    cases set : (io n).cpuDataIn.getLsbD 7 with
    | false => rfl
    | true =>
      have answered : (apuRun io start n).unanswered = false := by
        apply Bool.eq_false_iff.mpr
        intro left
        exact (unanswered_iff released n).mp left (even n written set)
      rw [answered]
      rfl

end Runs

/-! ## Two writes -/

/-- Mode one twice, two edges apart. -/
def modeOneTwice : ℕ → ApuPort
  | 0 => .frameCounter 0x80
  | 2 => .frameCounter 0x80
  | _ => .idle

/-- Mode zero, and mode one two edges later. -/
def modeZeroThenOne : ℕ → ApuPort
  | 0 => .frameCounter 0x00
  | 2 => .frameCounter 0x80
  | _ => .idle

/-- From power-up, two writes with bit 7 set are each followed by their toggle. -/
theorem modeOneTwice_clocks : ClocksAtOnce modeOneTwice Apu.powerUp := by
  refine (clocksAtOnce_iff Apu.powerUp fun i => ?_).mpr fun n written _ => ?_
  · rcases i with - | - | - | i <;> rfl
  · rcases n with - | - | - | n
    · decide
    · exact absurd written (by decide)
    · decide
    · exact absurd written Bool.false_ne_true

/-- A write with bit 7 set is followed by no toggle when a write with bit 7 clear came
before. -/
theorem modeZeroThenOne_lost : ¬ ClocksAtOnce modeZeroThenOne Apu.powerUp := by
  intro prompt
  have toggles := prompt 2 rfl 0 (fun i none => absurd none (Nat.not_lt_zero i))
  have none : immediateToggles modeZeroThenOne Apu.powerUp 3 1 = 0 := by decide
  exact absurd (none.symm.trans toggles) (by decide)

end FpgaNes
