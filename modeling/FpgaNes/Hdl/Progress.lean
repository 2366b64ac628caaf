import FpgaNes.Hdl.Trace
import Mathlib.Data.Nat.Count

/-!
# Progress and accounts along a run

Two rules for what a clocked machine owes. A rank that falls on every step bounds the time to
a goal. An account that each step keeps, tokens against events, bounds how often the machine
acts by how often it was asked.
-/

namespace FpgaNes.Hdl

variable {ι σ : Type*} {step : ι → σ → σ} {inputs : ℕ → ι} {start : σ}

/-- While a debt is owed each step pays it or lowers its rank: then it is paid by the time the
rank gives. -/
theorem trace_reaches {owed goal : σ → Prop} (rank : σ → ℕ)
    (falls : ∀ input s, owed s →
      goal (step input s) ∨ owed (step input s) ∧ rank (step input s) < rank s)
    (inputs : ℕ → ι) (initial : owed start) :
    ∃ n ≤ rank start, goal (trace step inputs start (n + 1)) := by
  generalize bound : rank start = r
  induction r using Nat.strong_induction_on generalizing start inputs with
  | _ r ih =>
    rcases falls (inputs 0) start initial with paid | ⟨still, lower⟩
    · exact ⟨0, Nat.zero_le r, paid⟩
    · rw [bound] at lower
      obtain ⟨n, soon, reached⟩ :=
        ih _ lower (fun i => inputs (1 + i)) still rfl
      refine ⟨n + 1, by omega, ?_⟩
      rw [Nat.add_comm n 1, Nat.add_assoc, trace_add]
      exact reached

/-- The number of times before `n` at which an event happens. -/
def events (happens : ℕ → Bool) (n : ℕ) : ℕ := Nat.count (fun i => happens i = true) n

/-- An event at the last time counts. -/
theorem events_succ (happens : ℕ → Bool) (n : ℕ) :
    events happens (n + 1) = events happens n + (happens n).toNat := by
  rw [events, Nat.count_succ, events]
  cases happens n <;> rfl

variable (step inputs start) in
/-- When each step pays for its deed with a token or an event, the deeds of a run are at most its
events and the tokens it started with. -/
theorem trace_account (tokens : σ → ℕ) (deed event : ℕ → Bool) (first : ℕ)
    (keeps : ∀ i, first ≤ i → tokens (trace step inputs start (i + 1)) + (deed i).toNat ≤
      tokens (trace step inputs start i) + (event i).toNat) (n : ℕ) :
    tokens (trace step inputs start (first + n)) + events (fun i => deed (first + i)) n ≤
      tokens (trace step inputs start first) + events (fun i => event (first + i)) n := by
  induction n with
  | zero => exact Nat.le_refl _
  | succ n ih =>
    have step := keeps (first + n) (Nat.le_add_right first n)
    rw [events_succ, events_succ, ← Nat.add_assoc first n 1]
    omega

end FpgaNes.Hdl
