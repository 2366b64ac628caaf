import Mathlib.Algebra.Order.Interval.Finset.Basic
import Mathlib.Data.Nat.Periodic
import Mathlib.Order.Bounds.Defs

/-!
# Square waves

A square wave is high for the first half of each period. From no time on does it have a
period that is not a multiple of its own.
-/

namespace FpgaNes.Hdl

/-- A square wave from the start of a high half. -/
def squareWave (half n : ℕ) : Bool := n % (2 * half) < half

/-- The periods of a signal from some time on. -/
def periodsFrom (wave : ℕ → Bool) (first : ℕ) : Set ℕ :=
  {period | 0 < period ∧ ∀ i, first ≤ i → wave (i + period) = wave i}

variable {half : ℕ}

/-- The wave repeats after its period. -/
theorem squareWave_periodic (half : ℕ) : Function.Periodic (squareWave half) (2 * half) := by
  intro n
  rw [squareWave, squareWave, Nat.add_mod_right]

/-- The wave inside a period. -/
theorem squareWave_phase (half count n : ℕ) :
    squareWave half (2 * half * count + n) = squareWave half n := by
  rw [squareWave, squareWave, Nat.mul_add_mod]

/-- A signal that is another one clock later has the periods of the other. -/
theorem periodsFrom_succ {wave other : ℕ → Bool} (later : ∀ i, wave (i + 1) = other i)
    (first : ℕ) : periodsFrom wave (first + 1) = periodsFrom other first := by
  ext period
  constructor
  · rintro ⟨positive, repeats⟩
    refine ⟨positive, fun i from' => ?_⟩
    rw [← later, ← later, Nat.add_right_comm]
    exact repeats (i + 1) (by omega)
  · rintro ⟨positive, repeats⟩
    refine ⟨positive, fun i from' => ?_⟩
    obtain ⟨j, rfl⟩ : ∃ j, i = j + 1 := ⟨i - 1, by omega⟩
    rw [Nat.add_right_comm, later, later]
    exact repeats j (by omega)

/-- A period of a square wave is a multiple of its own. -/
theorem dvd_of_period {phase first period : ℕ} (positive : 0 < half)
    (repeats : ∀ i, first ≤ i →
      squareWave half (i + period + phase) = squareWave half (i + phase)) :
    2 * half ∣ period := by
  apply Nat.dvd_of_mod_eq_zero
  apply Classical.byContradiction
  intro rest
  have bound := Nat.mod_lt period (show 0 < 2 * half by omega)
  -- the wave at any offset into a period, and where it is after the remainder
  have moved (offset : ℕ) :
      squareWave half (offset + period % (2 * half)) = squareWave half offset := by
    have room : first + phase ≤ 2 * half * (first + phase) :=
      Nat.le_mul_of_pos_left _ (by omega)
    have same := repeats (2 * half * (first + phase) + offset - phase) (by omega)
    have now : 2 * half * (first + phase) + offset - phase + phase =
        2 * half * (first + phase) + offset := by omega
    have later : 2 * half * (first + phase) + offset - phase + period + phase =
        2 * half * (first + phase) + (offset + period) := by omega
    rw [now, later, squareWave_phase, squareWave_phase] at same
    rw [← same, squareWave, squareWave, Nat.add_mod_mod]
  by_cases low : half ≤ period % (2 * half)
  · have falls := moved 0
    rw [squareWave, squareWave, Nat.zero_add, Nat.mod_mod, Nat.zero_mod, decide_eq_decide] at falls
    omega
  · have falls := moved (half - period % (2 * half))
    have edge : half - period % (2 * half) + period % (2 * half) = half := by omega
    rw [squareWave, squareWave, edge, Nat.mod_eq_of_lt (by omega), Nat.mod_eq_of_lt (by omega),
      decide_eq_decide] at falls
    omega

/-- From no time on has a square wave a shorter period. -/
theorem squareWave_isLeast (positive : 0 < half) (phase first : ℕ) :
    IsLeast (periodsFrom (fun i => squareWave half (i + phase)) first) (2 * half) := by
  constructor
  · refine ⟨by omega, fun i _ => ?_⟩
    show squareWave half (i + 2 * half + phase) = squareWave half (i + phase)
    rw [Nat.add_right_comm, squareWave_periodic half (i + phase)]
  · rintro period ⟨some', repeats⟩
    exact Nat.le_of_dvd some' (dvd_of_period positive repeats)

/-- The wave is high for half of any period. -/
theorem squareWave_high (half phase first : ℕ) :
    ((Finset.Ico first (first + 2 * half)).filter
      fun i => squareWave half (i + phase) = true).card = half := by
  have periodic : Function.Periodic (fun n => squareWave half n = true) (2 * half) :=
    fun n => congrArg (· = true) (squareWave_periodic half n)
  have once : (Finset.range (2 * half)).filter (fun n => squareWave half n = true) =
      Finset.range half := by
    ext n
    simp only [Finset.mem_filter, Finset.mem_range, squareWave, decide_eq_true_eq]
    constructor
    · rintro ⟨inside, high⟩
      rwa [Nat.mod_eq_of_lt inside] at high
    · intro high
      rw [Nat.mod_eq_of_lt (by omega)]
      exact ⟨by omega, high⟩
  calc ((Finset.Ico first (first + 2 * half)).filter
        fun i => squareWave half (i + phase) = true).card
      = (((Finset.Ico first (first + 2 * half)).map (addRightEmbedding phase)).filter
          fun n => squareWave half n = true).card := by
        rw [Finset.filter_map, Finset.card_map]
        rfl
    _ = ((Finset.Ico (first + phase) (first + phase + 2 * half)).filter
          fun n => squareWave half n = true).card := by
        rw [Finset.map_add_right_Ico, Nat.add_right_comm]
    _ = Nat.count (fun n => squareWave half n = true) (2 * half) :=
        Nat.filter_Ico_card_eq_of_periodic (first + phase) (2 * half) _ periodic
    _ = half := by rw [Nat.count_eq_card_filter_range, once, Finset.card_range]

end FpgaNes.Hdl
