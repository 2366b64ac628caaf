import FpgaNes.Apu
import FpgaNes.Hdl.SquareWave

/-!
# The frequency of a pulse channel

The timer of a channel toggles its sequencer clock each time its counter matches, and the
sequencer takes one of its eight steps on each toggle. The counter is compared without its
low bit, so that it should count every value of the timer for two clocks; it matches in the
first of the two and starts again at once, and a step is one clock short.
-/

namespace FpgaNes

open Hdl

namespace TimerUnit

/-- The counter matches when its upper bits are the timer value. -/
theorem match_iff (counter : BitVec 12) (timer : BitVec 11) :
    counter >>> 1 = timer.setWidth 12 ↔ counter.toNat / 2 = timer.toNat := by
  have bound := timer.isLt
  rw [BitVec.toNat_eq, BitVec.toNat_ushiftRight, BitVec.toNat_setWidth, Nat.shiftRight_one,
    Nat.mod_eq_of_lt (by omega)]

/-- A counter that has not passed the value matches at twice the value, and starts again. -/
theorem next_below {t : TimerUnit} {timer : BitVec 11}
    (below : t.counter.toNat ≤ 2 * timer.toNat) :
    (t.next false timer).counter.toNat = (t.counter.toNat + 1) % (2 * timer.toNat + 1) ∧
      ((t.next false timer).sequencerClock ^^ t.sequencerClock) =
        decide (t.counter.toNat = 2 * timer.toNat) := by
  have bound := timer.isLt
  rw [next, if_neg Bool.false_ne_true]
  by_cases last : t.counter.toNat = 2 * timer.toNat
  · have found : t.counter.toNat / 2 = timer.toNat := by omega
    rw [if_pos ((match_iff _ _).mpr found), last, Nat.mod_self, decide_eq_true rfl,
      Bool.not_xor_self]
    exact ⟨rfl, rfl⟩
  · have other : t.counter.toNat / 2 ≠ timer.toNat := by omega
    rw [if_neg (mt (match_iff _ _).mp other), decide_eq_false last, Bool.xor_self,
      Nat.mod_eq_of_lt (by omega)]
    refine ⟨?_, rfl⟩
    show (t.counter + 1).toNat = _
    bv_omega

end TimerUnit

/-! ## Timer and sequencer -/

/-- The timer unit of a pulse channel and the sequencer it clocks. -/
structure PulseGenerator where
  /-- The timer. -/
  timer : TimerUnit
  /-- The sequencer. -/
  sequencer : PulseSequencer
  deriving DecidableEq

namespace PulseGenerator

/-- Both units on `posedge cpu_clk`, without a reset or a restart. -/
def next (timer : BitVec 11) (g : PulseGenerator) : PulseGenerator where
  timer := g.timer.next false timer
  sequencer := g.sequencer.next g.timer.sequencerClock false

/-- The units under a timer value that is held. -/
def run (timer : BitVec 11) (start : PulseGenerator) : ℕ → PulseGenerator :=
  trace (fun timer g => g.next timer) (fun _ => timer) start

/-- The waveform over such a run. -/
def wave (timer : BitVec 11) (start : PulseGenerator) (i : ℕ) : Bool :=
  (run timer start i).sequencer.waveform

/-- A toggle that the sequencer has not yet answered. -/
def pending (g : PulseGenerator) : Bool := g.sequencer.clkHandle ^^ g.timer.sequencerClock

/-- The sequencer answers a toggle with one step of its index. -/
theorem next_sequencer (timer : BitVec 11) (g : PulseGenerator) :
    (g.next timer).sequencer.clkHandle = g.timer.sequencerClock ∧
      (g.next timer).sequencer.idx =
        g.sequencer.idx + if g.pending then 1 else 0 := by
  show (g.sequencer.next g.timer.sequencerClock false).clkHandle = _ ∧
    (g.sequencer.next g.timer.sequencerClock false).idx = _
  rw [PulseSequencer.next, if_neg Bool.false_ne_true, pending]
  cases handle : g.sequencer.clkHandle <;> cases clock : g.timer.sequencerClock <;>
    simp [handle]

/-- The sequencer takes one step for each toggle of its clock, and none without one. -/
theorem run_advances (timer : BitVec 11) (start : PulseGenerator) (i : ℕ) :
    (run timer start (i + 2)).sequencer.idx = (run timer start (i + 1)).sequencer.idx +
      if (run timer start (i + 1)).timer.sequencerClock ≠
        (run timer start i).timer.sequencerClock then 1 else 0 := by
  have handle : (run timer start (i + 1)).sequencer.clkHandle =
      (run timer start i).timer.sequencerClock :=
    (next_sequencer timer (run timer start i)).1
  have step : (run timer start (i + 2)).sequencer.idx = _ :=
    (next_sequencer timer (run timer start (i + 1))).2
  rw [step, pending, handle]
  cases (run timer start i).timer.sequencerClock <;>
    cases (run timer start (i + 1)).timer.sequencerClock <;> rfl

/-- One clock of the units while the counter has not passed the timer value. -/
theorem next_below {timer : BitVec 11} {g : PulseGenerator}
    (below : g.timer.counter.toNat ≤ 2 * timer.toNat) :
    (g.next timer).timer.counter.toNat =
        (g.timer.counter.toNat + 1) % (2 * timer.toNat + 1) ∧
      ((g.next timer).pending = true ↔
        (g.timer.counter.toNat + 1) % (2 * timer.toNat + 1) = 0) ∧
      (g.next timer).sequencer.idx.toNat =
        (g.sequencer.idx.toNat + g.pending.toNat) % 8 := by
  obtain ⟨counter, toggles⟩ := TimerUnit.next_below below
  obtain ⟨handle, idx⟩ := next_sequencer timer g
  refine ⟨counter, ?_, ?_⟩
  · have fresh : (g.next timer).pending = decide (g.timer.counter.toNat = 2 * timer.toNat) := by
      rw [pending, handle, Bool.xor_comm]
      exact toggles
    rw [fresh, decide_eq_true_eq]
    constructor
    · intro last
      rw [last, Nat.mod_self]
    · intro wraps
      apply Classical.byContradiction
      intro other
      rw [Nat.mod_eq_of_lt (by omega)] at wraps
      exact Nat.succ_ne_zero _ wraps
  · rw [idx, BitVec.toNat_add]
    cases g.pending <;> rfl

/-- What holds of the units after some clocks: the counter, whether a toggle has just been made,
and the steps taken since the first answer. -/
structure Counted (period origin base i : ℕ) (g : PulseGenerator) : Prop where
  /-- The counter, in clocks since its origin. -/
  counter : g.timer.counter.toNat = (origin + i + 1) % period
  /-- A step is owed once in each period. -/
  pending : g.pending = true ↔ (origin + i + 1) % period = 0
  /-- The sequencer has taken a step for each period. -/
  idx : g.sequencer.idx.toNat = (base + (origin + i) / period) % 8

section Held

variable {timer : BitVec 11} {start : PulseGenerator}

/-- The counter stays within the match, and each match is answered a clock later. -/
theorem run_counted (below : start.timer.counter.toNat ≤ 2 * timer.toNat) (i : ℕ) :
    Counted (2 * timer.toNat + 1) start.timer.counter.toNat
      (start.sequencer.idx.toNat + start.pending.toNat) i (run timer start (i + 1)) := by
  induction i with
  | zero =>
    obtain ⟨counter, pending, idx⟩ := next_below below
    refine ⟨counter, pending, ?_⟩
    rw [Nat.add_zero, Nat.div_eq_of_lt (by omega), Nat.add_zero]
    exact idx
  | succ i ih =>
    have bound : (run timer start (i + 1)).timer.counter.toNat ≤ 2 * timer.toNat := by
      rw [ih.counter]
      exact Nat.le_of_lt_succ (Nat.mod_lt _ (Nat.succ_pos (2 * timer.toNat)))
    obtain ⟨counter, pending, idx⟩ := next_below bound
    rw [ih.counter, Nat.mod_add_mod] at counter pending
    refine ⟨counter, pending, ?_⟩
    have steps : (start.timer.counter.toNat + (i + 1)) / (2 * timer.toNat + 1) =
        (start.timer.counter.toNat + i) / (2 * timer.toNat + 1) +
          (run timer start (i + 1)).pending.toNat := by
      rw [← Nat.add_assoc, Nat.succ_div]
      by_cases waits : (run timer start (i + 1)).pending = true
      · rw [if_pos (Nat.dvd_of_mod_eq_zero (ih.pending.mp waits)), waits]
        rfl
      · rw [if_neg fun divides => waits (ih.pending.mpr (Nat.mod_eq_zero_of_dvd divides)),
          Bool.eq_false_iff.mpr waits]
        rfl
    rw [steps, ← Nat.add_assoc, ← Nat.mod_add_mod, ← ih.idx]
    exact idx

/-- The waveform is high for the first half of the eight steps. -/
theorem waveform_eq (p : PulseSequencer) : p.waveform = decide (p.idx.toNat < 4) := by
  have table : ∀ idx : BitVec 3,
      PulseSequencer.pulseWave.getLsbD idx.toNat = decide (idx.toNat < 4) := by
    decide
  exact table p.idx

/-- From the second clock on the waveform is a square wave, each of whose halves takes four
steps of one clock less than twice the timer value plus one. -/
theorem wave_eq (below : start.timer.counter.toNat ≤ 2 * timer.toNat) (i : ℕ) :
    wave timer start (i + 1) = squareWave (4 * (2 * timer.toNat + 1))
      (i + (start.timer.counter.toNat +
        (start.sequencer.idx.toNat + start.pending.toNat) * (2 * timer.toNat + 1))) := by
  have positive : 0 < 2 * timer.toNat + 1 := Nat.succ_pos _
  have whole : 2 * (4 * (2 * timer.toNat + 1)) = (2 * timer.toNat + 1) * 8 := by omega
  rw [wave, waveform_eq, (run_counted below i).idx, squareWave, whole, decide_eq_decide,
    ← Nat.div_lt_iff_lt_mul positive, Nat.mod_mul_right_div_self, ← Nat.add_assoc,
    Nat.add_mul_div_right _ _ positive, Nat.add_comm i, Nat.add_comm (_ / _)]

end Held

/-- The period a timer value asks for: eight steps of twice the value plus one. -/
def nominalPeriod (timer : BitVec 11) : ℕ := 16 * (timer.toNat + 1)

section Periods

variable {timer : BitVec 11} {start : PulseGenerator}

/-- Half the period that the waveform has. -/
def halfPeriod (timer : BitVec 11) : ℕ := 4 * (2 * timer.toNat + 1)

/-- The period that the waveform has is eight clocks short of the nominal one. -/
theorem nominalPeriod_eq (timer : BitVec 11) :
    nominalPeriod timer = 2 * halfPeriod timer + 8 := by
  rw [nominalPeriod, halfPeriod]
  omega

/-- From the second clock on the periods are those of a square wave. -/
theorem wave_periods (below : start.timer.counter.toNat ≤ 2 * timer.toNat) (first : ℕ) :
    ∃ phase, periodsFrom (wave timer start) (first + 1) =
      periodsFrom (fun i => squareWave (halfPeriod timer) (i + phase)) first :=
  ⟨_, periodsFrom_succ (wave_eq below) first⟩

/-- The waveform is high for half of each of its periods. -/
theorem wave_high (below : start.timer.counter.toNat ≤ 2 * timer.toNat) (first : ℕ) :
    ((Finset.Ico (first + 1) (first + 1 + 2 * halfPeriod timer)).filter
      fun i => wave timer start i = true).card = halfPeriod timer := by
  let phase := start.timer.counter.toNat +
    (start.sequencer.idx.toNat + start.pending.toNat) * (2 * timer.toNat + 1)
  have positive : 0 < halfPeriod timer := by
    rw [halfPeriod]
    omega
  apply Eq.trans _
    (squareWave_high (halfPeriod timer) (phase + (2 * halfPeriod timer - 1)) (first + 1))
  apply congrArg Finset.card
  apply Finset.filter_congr
  intro i inside
  have later := (Finset.mem_Ico.mp inside).1
  obtain ⟨j, rfl⟩ : ∃ j, i = j + 1 := ⟨i - 1, by omega⟩
  have shifted : j + 1 + (phase + (2 * halfPeriod timer - 1)) =
      j + phase + 2 * halfPeriod timer := by omega
  rw [shifted, squareWave_periodic (halfPeriod timer) (j + phase), wave_eq below j]
  rfl

/-- The nominal period is not the period of the waveform from any clock on. For most timer
values it is none of its periods, and for zero it is twice the period. -/
theorem nominalPeriod_not_least (below : start.timer.counter.toNat ≤ 2 * timer.toNat)
    (first : ℕ) : ¬ IsLeast (periodsFrom (wave timer start) first) (nominalPeriod timer) := by
  rintro ⟨⟨-, repeats⟩, least⟩
  obtain ⟨phase, same⟩ := wave_periods below first
  have positive : 0 < halfPeriod timer := by
    rw [halfPeriod]
    omega
  have later : nominalPeriod timer ∈ periodsFrom (wave timer start) (first + 1) :=
    ⟨by rw [nominalPeriod]; omega, fun i after => repeats i (by omega)⟩
  rw [same] at later
  have multiple := dvd_of_period positive later.2
  have own : 2 * halfPeriod timer ∈ periodsFrom (wave timer start) (first + 1) := by
    rw [same]
    exact (squareWave_isLeast positive phase first).1
  have excess := nominalPeriod_eq timer
  have eight : 2 * halfPeriod timer ∣ 8 := by
    rw [excess] at multiple
    exact (Nat.dvd_add_right (Nat.dvd_refl _)).mp multiple
  have small := Nat.le_of_dvd (by decide) eight
  have twice : nominalPeriod timer = 2 * halfPeriod timer + 2 * halfPeriod timer := by
    rw [halfPeriod] at small excess ⊢
    omega
  have shorter : 2 * halfPeriod timer ∈ periodsFrom (wave timer start) first := by
    refine ⟨own.1, fun i after => ?_⟩
    have round := repeats i after
    rw [twice, ← Nat.add_assoc, own.2 (i + 2 * halfPeriod timer) (by omega)] at round
    exact round
  have short := least shorter
  omega

end Periods

/-- For every timer value, counter within the match and phase, the waveform does not have the
nominal period from any clock on. From the second clock on its period is eight clocks shorter,
it is high for half of it, and it takes one step for each toggle of its clock. -/
theorem pulseFrequency (timer : BitVec 11) (start : PulseGenerator)
    (below : start.timer.counter.toNat ≤ 2 * timer.toNat) (first : ℕ) :
    ¬ IsLeast (periodsFrom (wave timer start) first) (nominalPeriod timer) ∧
      IsLeast (periodsFrom (wave timer start) (first + 1)) (nominalPeriod timer - 8) ∧
      2 * ((Finset.Ico (first + 1) (first + 1 + (nominalPeriod timer - 8))).filter
        fun i => wave timer start i = true).card = nominalPeriod timer - 8 ∧
      (run timer start (first + 2)).sequencer.idx =
        (run timer start (first + 1)).sequencer.idx +
          if (run timer start (first + 1)).timer.sequencerClock ≠
            (run timer start first).timer.sequencerClock then 1 else 0 := by
  have period : nominalPeriod timer - 8 = 2 * halfPeriod timer := by
    rw [nominalPeriod_eq, Nat.add_sub_cancel]
  have positive : 0 < halfPeriod timer := by
    rw [halfPeriod]
    omega
  obtain ⟨phase, same⟩ := wave_periods below first
  rw [period, wave_high below first, same]
  exact ⟨nominalPeriod_not_least below first, squareWave_isLeast positive phase first, rfl,
    run_advances timer start first⟩

/-- The units of a generator in the middle of a count. -/
def midway : PulseGenerator := ⟨⟨100, true⟩, ⟨true, 5⟩⟩

/-- With a timer value of 253 the period is 4056 and not 4064. -/
theorem midway_period :
    ¬ IsLeast (periodsFrom (wave 253 midway) 0) 4064 ∧
      IsLeast (periodsFrom (wave 253 midway) 1) 4056 :=
  ⟨(pulseFrequency 253 midway (by decide) 0).1, (pulseFrequency 253 midway (by decide) 0).2.1⟩

/-- The units as `RESET` leaves them at power-up. -/
def atRest : PulseGenerator := ⟨⟨0, false⟩, ⟨false, 0⟩⟩

/-- With a timer value of 1 the waveform does not repeat after 32 clocks. -/
theorem wave_not_nominal : ¬ nominalPeriod 1 ∈ periodsFrom (wave 1 atRest) 0 := by
  rintro ⟨-, repeats⟩
  exact absurd (repeats 6 (by decide)) (by decide +kernel)

end PulseGenerator

namespace Apu

/-- The generator of a channel. -/
def generator (apu : Apu) (channel : Channel) : PulseGenerator :=
  ⟨(apu.pulse channel).timer, (apu.pulse channel).sequencer⟩

/-- The generator of a channel runs by itself while its timer value is held and nothing resets
or restarts it. -/
theorem apuRun_generator (io : ℕ → ApuPort) (start : Apu) (channel : Channel)
    (timer : BitVec 11) (n : ℕ) (released : ∀ i < n, (io i).reset = false)
    (unrestarted : ∀ i < n, (io i).pulseLcLoad channel = false)
    (held : ∀ i < n, ((apuRun io start i).pulse channel).regs.timer = timer) :
    (apuRun io start n).generator channel =
      PulseGenerator.run timer (start.generator channel) n := by
  induction n with
  | zero => rfl
  | succ n ih =>
    have before := ih (fun i below => released i (Nat.lt_succ_of_lt below))
      (fun i below => unrestarted i (Nat.lt_succ_of_lt below))
      (fun i below => held i (Nat.lt_succ_of_lt below))
    show ((apuRun io start n).clock (io n)).generator channel =
      (PulseGenerator.run timer (start.generator channel) n).next timer
    rw [← before, ← held n (Nat.lt_succ_self n)]
    show PulseGenerator.mk
      (((apuRun io start n).pulse channel).timer.next (io n).reset _)
      (((apuRun io start n).pulse channel).sequencer.next _ ((io n).pulseLcLoad channel)) = _
    rw [released n (Nat.lt_succ_self n), unrestarted n (Nat.lt_succ_self n)]
    rfl

end Apu

end FpgaNes
