import Mathlib.Data.Nat.Notation

/-!
# Runs of a clocked machine

A clocked machine is a step function of an input and a state. Its run under a stream
of inputs is the sequence of states it passes through. The rules below carry a property
from one step to a whole run: an invariant that may name the time, a simulation of one
machine by another, and a flag that only some steps set.
-/

namespace FpgaNes.Hdl

variable {ι σ κ τ : Type*}

/-- The state after each number of steps under an input stream. -/
def trace (step : ι → σ → σ) (inputs : ℕ → ι) (start : σ) : ℕ → σ
  | 0 => start
  | n + 1 => step (inputs n) (trace step inputs start n)

variable {step : ι → σ → σ} {inputs : ℕ → ι} {start : σ}

/-- A run is empty at time zero. -/
@[simp] theorem trace_zero : trace step inputs start 0 = start := rfl

/-- A run is extended by one step at its end. -/
theorem trace_succ (n : ℕ) :
    trace step inputs start (n + 1) = step (inputs n) (trace step inputs start n) := rfl

/-- A run from the state reached at some time continues the run that reached it. -/
theorem trace_add (m n : ℕ) :
    trace step inputs start (m + n) =
      trace step (fun i => inputs (m + i)) (trace step inputs start m) n := by
  induction n with
  | zero => rfl
  | succ n ih => rw [← Nat.add_assoc, trace_succ, trace_succ, ih]

/-- A stream of inputs with one more in front. -/
def precede (first : ι) (inputs : ℕ → ι) : ℕ → ι
  | 0 => first
  | n + 1 => inputs n

/-- A run after a first step is a run that takes this step first. -/
theorem trace_precede (first : ι) (n : ℕ) :
    trace step inputs (step first start) n = trace step (precede first inputs) start (n + 1) := by
  induction n with
  | zero => rfl
  | succ n ih =>
    rw [trace_succ, ih]
    rfl

/-- A timed property that holds at some time and survives each later step holds from then
on. -/
theorem trace_from (inv : ℕ → σ → Prop) (first : ℕ)
    (initial : inv first (trace step inputs start first)) (n : ℕ) (later : first ≤ n)
    (preserved : ∀ i, first ≤ i → i < n → inv i (trace step inputs start i) →
      inv (i + 1) (trace step inputs start (i + 1))) :
    inv n (trace step inputs start n) := by
  obtain ⟨steps, rfl⟩ := Nat.exists_eq_add_of_le later
  induction steps with
  | zero => exact initial
  | succ steps ih =>
    have before := ih (Nat.le_add_right first steps)
      fun i after below => preserved i after (Nat.lt_succ_of_lt below)
    exact preserved (first + steps) (Nat.le_add_right first steps) (Nat.lt_succ_self _) before

/-- A timed property that holds at the start and survives each step holds at the end. -/
theorem trace_invariant (inv : ℕ → σ → Prop) (initial : inv 0 start) (n : ℕ)
    (preserved : ∀ i < n, inv i (trace step inputs start i) →
      inv (i + 1) (trace step inputs start (i + 1))) :
    inv n (trace step inputs start n) :=
  trace_from inv 0 initial n (Nat.zero_le n) fun i _ below => preserved i below

/-- Two runs stay related when they start related and each pair of steps keeps them so. -/
theorem trace_simulation {other : κ → τ → τ} {signals : ℕ → κ} {origin : τ}
    (rel : ℕ → σ → τ → Prop) (initial : rel 0 start origin) (n : ℕ)
    (preserved : ∀ i < n,
      rel i (trace step inputs start i) (trace other signals origin i) →
        rel (i + 1) (trace step inputs start (i + 1)) (trace other signals origin (i + 1))) :
    rel n (trace step inputs start n) (trace other signals origin n) :=
  trace_invariant (fun i state => rel i state (trace other signals origin i)) initial n preserved

/-- A function of the state that no step changes between two times has one value at both. -/
theorem trace_held {α : Type*} (view : σ → α) (first n : ℕ) (later : first ≤ n)
    (kept : ∀ i, first ≤ i → i < n →
      view (trace step inputs start (i + 1)) = view (trace step inputs start i)) :
    view (trace step inputs start n) = view (trace step inputs start first) :=
  trace_from (fun _ state => view state = view (trace step inputs start first)) first rfl n
    later fun i after below same => (kept i after below).trans same

/-- A flag that each step may set and none clears is set at the end when it was set at the
start, or when some step set it. -/
theorem trace_latched (flag : σ → Bool) (sets : ℕ → Bool) (first n : ℕ) (later : first ≤ n)
    (latches : ∀ i, first ≤ i → i < n →
      flag (trace step inputs start (i + 1)) = (flag (trace step inputs start i) || sets i)) :
    flag (trace step inputs start n) = true ↔
      flag (trace step inputs start first) = true ∨ ∃ i, first ≤ i ∧ i < n ∧ sets i = true := by
  refine trace_from (fun time state => flag state = true ↔
    flag (trace step inputs start first) = true ∨
      ∃ i, first ≤ i ∧ i < time ∧ sets i = true) first ?_ n later fun i after below before => ?_
  · constructor
    · exact Or.inl
    · rintro (already | ⟨i, after, below, -⟩)
      · exact already
      · omega
  · rw [latches i after below, Bool.or_eq_true, before]
    constructor
    · rintro ((already | ⟨j, from', until', set⟩) | set)
      · exact Or.inl already
      · exact Or.inr ⟨j, from', by omega, set⟩
      · exact Or.inr ⟨i, after, Nat.lt_succ_self i, set⟩
    · rintro (already | ⟨j, from', until', set⟩)
      · exact Or.inl (Or.inl already)
      · by_cases last : j = i
        · exact Or.inr (last ▸ set)
        · exact Or.inl (Or.inr ⟨j, from', by omega, set⟩)

/-- A flag that is clear at some time and set later rises on a step between. -/
theorem trace_rises (flag : σ → Bool) (first n : ℕ) (later : first ≤ n)
    (clear : flag (trace step inputs start first) = false)
    (set : flag (trace step inputs start n) = true) :
    ∃ i, first ≤ i ∧ i < n ∧ flag (trace step inputs start i) = false ∧
      flag (trace step inputs start (i + 1)) = true := by
  apply Classical.byContradiction
  intro steady
  have stays : flag (trace step inputs start n) = false := by
    apply trace_from (fun _ state => flag state = false) first clear n later
    intro i after below before
    cases next : flag (trace step inputs start (i + 1)) with
    | true => exact absurd ⟨i, after, below, before, next⟩ steady
    | false => rfl
  exact Bool.false_ne_true (stays.symm.trans set)

end FpgaNes.Hdl
