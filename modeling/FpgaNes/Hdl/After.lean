import FpgaNes.Hdl.Progress
import Mathlib.Data.Nat.Nth

/-!
# What holds after a number of steps

A postcondition that a clocked machine meets after a fixed number of steps, whatever its
inputs on the way. Postconditions compose like runs do.
-/

namespace FpgaNes.Hdl

variable {ι σ : Type*}

/-- After a number of steps, under any inputs, a property holds. -/
def After (step : ι → σ → σ) : ℕ → (σ → Prop) → σ → Prop
  | 0, post, s => post s
  | n + 1, post, s => ∀ input, After step n post (step input s)

variable {step : ι → σ → σ} {post mid : σ → Prop} {m n : ℕ} {s : σ}

/-- A property that follows from another holds when the other does. -/
theorem After.mono (holds : After step n mid s) (weaker : ∀ t, mid t → post t) :
    After step n post s := by
  induction n generalizing s with
  | zero => exact weaker s holds
  | succ n ih => exact fun input => ih (holds input)

/-- What holds after some steps from wherever some first steps lead holds after all of them. -/
theorem After.trans (first : After step m mid s) (second : ∀ t, mid t → After step n post t) :
    After step (m + n) post s := by
  induction m generalizing s with
  | zero =>
    rw [Nat.zero_add]
    exact second s first
  | succ m ih =>
    rw [Nat.add_right_comm]
    exact fun input => ih (first input)

/-- A run meets the postconditions of its start. -/
theorem After.trace (holds : After step n post s) (inputs : ℕ → ι) :
    post (trace step inputs s n) := by
  induction n generalizing s inputs with
  | zero => exact holds
  | succ n ih =>
    have later := ih (holds (inputs 0)) fun i => inputs (1 + i)
    rw [Nat.add_comm n 1, trace_add]
    exact later

/-! ## Simulation by steps of several lengths -/

variable {α : Type*}

/-- Some steps of a relation, with the sum of their lengths. -/
inductive Timed (Step : α → ℕ → α → Prop) (a : α) : ℕ → α → Prop
  | refl : Timed Step a 0 a
  | tail {b c : α} {m n : ℕ} (before : Timed Step a m b) (next : Step b n c) :
      Timed Step a (m + n) c

/-- An invariant of the steps holds after any number of them. -/
theorem Timed.invariant {Step : α → ℕ → α → Prop} {a b : α} (steps : Timed Step a n b)
    (inv : α → Prop) (initial : inv a)
    (preserved : ∀ b n c, inv b → Step b n c → inv c) : inv b := by
  induction steps with
  | refl => exact initial
  | tail before next ih => exact preserved _ _ _ ih next

/-- A machine simulates a relation when, from each of its states that stands for a good state
of the relation, it makes some step of the relation in at most `bound` of its own steps. -/
def Simulates (step : ι → σ → σ) (Step : α → ℕ → α → Prop) (good : α → Prop)
    (stands : α → σ → Prop) (bound : ℕ) : Prop :=
  ∀ a s, stands a s → good a →
    ∃ n, 0 < n ∧ n ≤ bound ∧ After step n (fun t => ∃ b, Step a n b ∧ stands b t) s

/-- While the relation stays good, every run of a machine that simulates it follows one of its
runs, and is at any time less than `bound` steps after a state of it. -/
theorem Simulates.run {Step : α → ℕ → α → Prop} {good : α → Prop} {stands : α → σ → Prop}
    {bound : ℕ} (simulates : Simulates step Step good stands bound) (positive : 0 < bound)
    {a : α} (start : stands a s) (stays : ∀ n b, Timed Step a n b → good b) (inputs : ℕ → ι)
    (time : ℕ) :
    ∃ n b, n ≤ time ∧ time < n + bound ∧ Timed Step a n b ∧ stands b (trace step inputs s n) := by
  induction time with
  | zero => exact ⟨0, a, Nat.le_refl 0, by omega, .refl, start⟩
  | succ time ih =>
    obtain ⟨m, b, before, soon, steps, here⟩ := ih
    by_cases later : time + 1 < m + bound
    · exact ⟨m, b, by omega, later, steps, here⟩
    · obtain ⟨n, moves, fits, after⟩ := simulates b _ here (stays m b steps)
      obtain ⟨c, next, there⟩ := after.trace fun i => inputs (m + i)
      rw [← trace_add] at there
      exact ⟨m + n, c, by omega, by omega, steps.tail next, there⟩

/-! ## Machines in an environment that changes -/

variable {ε κ : Type*}

/-- A step whose rule the environment of its time gives. The time is part of the state. -/
def Clocked (Step : ε → α → ℕ → α → Prop) (env : ℕ → ε) (a : ℕ × α) (n : ℕ) (b : ℕ × α) : Prop :=
  b.1 = a.1 + n ∧ Step (env a.1) a.2 n b.2

/-- Machines whose steps agree along a run of one make the same run. -/
theorem trace_agrees (real : κ → σ → σ) (signals : ℕ → κ) (step : ι → σ → σ) (inputs : ℕ → ι)
    (n : ℕ)
    (agrees : ∀ j < n, real (signals j) (trace real signals s j) =
      step (inputs j) (trace real signals s j)) :
    trace real signals s n = trace step inputs s n := by
  refine trace_simulation (fun _ left right => left = right) rfl n fun i inside same => ?_
  rw [trace_succ, trace_succ, ← same]
  exact agrees i inside

/-- A machine whose environment seems constant over each stretch of `bound` steps follows the
relation of that environment there, when in each constant environment it would simulate it. -/
theorem Simulates.run_clocked {step : ε → ι → σ → σ} {Step : ε → α → ℕ → α → Prop}
    {good : ε → α → Prop} {stands : α → σ → Prop} {bound first : ℕ}
    (simulates : ∀ e, Simulates (step e) (Step e) (good e) stands bound) (positive : 0 < bound)
    {real : κ → σ → σ} {signals : ℕ → κ} (view : κ → ι) (env : ℕ → ε) {a : α}
    (start : stands a (trace real signals s first))
    (stays : ∀ n b, Timed (Clocked Step env) (first, a) n b → good (env b.1) b.2) (time : ℕ)
    (agrees : ∀ m b, first ≤ m → m + bound ≤ first + time → stands b (trace real signals s m) →
      ∀ j < bound, real (signals (m + j)) (trace real signals s (m + j)) =
        step (env m) (view (signals (m + j))) (trace real signals s (m + j))) :
    ∃ n b, n ≤ time ∧ time < n + bound ∧
      Timed (Clocked Step env) (first, a) n (first + n, b) ∧
        stands b (trace real signals s (first + n)) := by
  induction time with
  | zero => exact ⟨0, a, Nat.le_refl 0, by omega, .refl, start⟩
  | succ time ih =>
    obtain ⟨m, b, before, soon, steps, here⟩ :=
      ih fun m b later within => agrees m b later (by omega)
    by_cases later : time + 1 < m + bound
    · exact ⟨m, b, by omega, later, steps, here⟩
    · obtain ⟨n, moves, fits, after⟩ :=
        simulates (env (first + m)) b _ here (stays m (first + m, b) steps)
      obtain ⟨c, next, there⟩ := after.trace fun i => view (signals (first + m + i))
      have same := trace_agrees real (fun i => signals (first + m + i)) (step (env (first + m)))
        (fun i => view (signals (first + m + i))) n fun j inside => by
          rw [← trace_add]
          exact agrees (first + m) b (by omega) (by omega) here j (by omega)
      rw [← same, ← trace_add, Nat.add_assoc] at there
      exact ⟨m + n, c, by omega, by omega,
        steps.tail ⟨by rw [Nat.add_assoc], next⟩, there⟩

/-! ## Machines with an enable -/

/-- A machine with an enable holds its state while the enable is low. -/
def gated (step : ι → σ → σ) (input : Bool × ι) (s : σ) : σ :=
  if input.1 then step input.2 s else s

/-- The number of enabled steps before a time. -/
def enabledCount (inputs : ℕ → Bool × ι) (time : ℕ) : ℕ :=
  events (fun n => (inputs n).1) time

/-- The inputs of the enabled steps. -/
noncomputable def enabledInputs (inputs : ℕ → Bool × ι) (n : ℕ) : ι :=
  (inputs (Nat.nth (fun n => (inputs n).1 = true) n)).2

/-- A step counts when it is enabled. -/
theorem enabledCount_succ (inputs : ℕ → Bool × ι) (time : ℕ) :
    enabledCount inputs (time + 1) = enabledCount inputs time + (inputs time).1.toNat :=
  events_succ (fun n => (inputs n).1) time

/-- The input of an enabled step is numbered by the enabled steps before it. -/
theorem enabledInputs_count (inputs : ℕ → Bool × ι) {time : ℕ} (enabled : (inputs time).1 = true) :
    enabledInputs inputs (enabledCount inputs time) = (inputs time).2 := by
  rw [enabledInputs, enabledCount, events,
    Nat.nth_count (p := fun n => (inputs n).1 = true) enabled]

/-- A run with stalls is the run of its enabled steps. -/
theorem trace_gated (inputs : ℕ → Bool × ι) (s : σ) (time : ℕ) :
    trace (gated step) inputs s time =
      trace step (enabledInputs inputs) s (enabledCount inputs time) := by
  induction time with
  | zero => rfl
  | succ time ih =>
    rw [trace_succ, ih, enabledCount_succ, gated]
    cases enabled : (inputs time).1 with
    | false => rfl
    | true =>
      rw [if_pos rfl, Bool.toNat_true, trace_succ, enabledInputs_count inputs enabled]

/-- Each number of enabled steps is that before an enabled step. -/
theorem enabledCount_step (inputs : ℕ → Bool × ι) {n time : ℕ}
    (fewer : n < enabledCount inputs time) :
    ∃ earlier < time, (inputs earlier).1 = true ∧ enabledCount inputs earlier = n := by
  induction time with
  | zero => exact absurd fewer (Nat.not_lt_zero n)
  | succ time ih =>
    by_cases before : n < enabledCount inputs time
    · obtain ⟨earlier, inside, step⟩ := ih before
      exact ⟨earlier, by omega, step⟩
    · rw [enabledCount_succ] at fewer
      have bound := Bool.toNat_le (inputs time).1
      refine ⟨time, Nat.lt_succ_self time, ?_, by omega⟩
      cases enabled : (inputs time).1 with
      | true => rfl
      | false =>
        rw [enabled, Bool.toNat_false] at fewer
        omega

/-- Every smaller number of enabled steps was reached before. -/
theorem enabledCount_reached (inputs : ℕ → Bool × ι) {n time : ℕ}
    (fewer : n ≤ enabledCount inputs time) :
    ∃ earlier ≤ time, enabledCount inputs earlier = n := by
  induction time with
  | zero => exact ⟨0, Nat.le_refl 0, (Nat.le_zero.mp fewer).symm⟩
  | succ time ih =>
    by_cases same : n = enabledCount inputs (time + 1)
    · exact ⟨time + 1, Nat.le_refl _, same.symm⟩
    · have below : n ≤ enabledCount inputs time := by
        have bound := Bool.toNat_le (inputs time).1
        rw [enabledCount_succ] at fewer same
        omega
      obtain ⟨earlier, before, reached⟩ := ih below
      exact ⟨earlier, by omega, reached⟩

/-- A machine with an enable that comes to stand for a state of what it simulates follows a run
from there, in its enabled steps. -/
theorem Simulates.run_gated {Step : α → ℕ → α → Prop} {good : α → Prop} {stands : α → σ → Prop}
    {bound first : ℕ} (simulates : Simulates step Step good stands bound) (positive : 0 < bound)
    {a : α} (start : After step first (stands a) s) (stays : ∀ n b, Timed Step a n b → good b)
    (inputs : ℕ → Bool × ι) (time : ℕ) (late : first ≤ enabledCount inputs time) :
    ∃ earlier ≤ time, ∃ n b,
      enabledCount inputs earlier = first + n ∧ enabledCount inputs time < first + n + bound ∧
        Timed Step a n b ∧ stands b (trace (gated step) inputs s earlier) := by
  obtain ⟨n, b, before, soon, steps, here⟩ :=
    simulates.run positive (start.trace (enabledInputs inputs)) stays
      (fun n => enabledInputs inputs (first + n)) (enabledCount inputs time - first)
  rw [← trace_add] at here
  obtain ⟨earlier, inside, reached⟩ :=
    enabledCount_reached (n := first + n) inputs (by omega : first + n ≤ enabledCount inputs time)
  refine ⟨earlier, inside, n, b, reached, by omega, steps, ?_⟩
  rw [trace_gated, reached]
  exact here

end FpgaNes.Hdl
