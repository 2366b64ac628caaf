import FpgaNes.PulseFrequency
import Mathlib.Data.Finset.Lattice.Fold
import Mathlib.Order.Interval.Finset.Nat

/-!
# Timer changes under a running counter

The counter of a channel starts from zero at each toggle of the sequencer clock and toggles
it again when it equals the timer value. A write may put the value below a count that has
been reached; the two then meet again only if another write raises the value in time, and
else after the twelve bits have wrapped around.
-/

namespace FpgaNes

open Hdl

namespace Apu

/-- The timer value in force in a clock. -/
def timerAt (io : ℕ → ApuPort) (start : Apu) (channel : Channel) (k : ℕ) : ℕ :=
  ((apuRun io start k).pulse channel).regs.timer.toNat

/-- The count in a clock. -/
def countAt (io : ℕ → ApuPort) (start : Apu) (channel : Channel) (k : ℕ) : ℕ :=
  ((apuRun io start k).pulse channel).timer.counter.toNat

/-- The sequencer clock toggles at the end of a clock. -/
def togglesAt (io : ℕ → ApuPort) (start : Apu) (channel : Channel) (k : ℕ) : Bool :=
  ((apuRun io start (k + 1)).pulse channel).timer.sequencerClock ^^
    ((apuRun io start k).pulse channel).timer.sequencerClock

/-- The sequencer clock toggles at the ends of two clocks and at none between. -/
structure SuccessiveToggles (io : ℕ → ApuPort) (start : Apu) (channel : Channel) (i j : ℕ) :
    Prop where
  /-- One toggle is after the other. -/
  before : i < j
  /-- There is a toggle at the end of the first clock. -/
  first : togglesAt io start channel i = true
  /-- There is one at the end of the second. -/
  second : togglesAt io start channel j = true
  /-- There is none between them. -/
  between : ∀ k, i < k → k < j → togglesAt io start channel k = false

/-- The largest timer value in force after one clock and up to another. -/
def largestTimer (io : ℕ → ApuPort) (start : Apu) (channel : Channel) (i j : ℕ) : ℕ :=
  (Finset.Icc (i + 1) j).sup (timerAt io start channel)

/-- The timer values meet the count from a toggle before its twelve bits wrap around: in some
clock the value in force is half the number of clocks since. -/
def Meets (io : ℕ → ApuPort) (start : Apu) (channel : Channel) (i : ℕ) : Prop :=
  ∃ m < 4096, timerAt io start channel (i + 1 + m) = m / 2

section Gaps

variable {io : ℕ → ApuPort} {start : Apu} {channel : Channel}

/-- One clock of the timer unit: a match toggles, any other count is followed by the next. -/
theorem toggles_step (start : Apu) (channel : Channel) (released : ∀ k, (io k).reset = false)
    (k : ℕ) :
    (togglesAt io start channel k = true ↔
        countAt io start channel k / 2 = timerAt io start channel k) ∧
      countAt io start channel (k + 1) =
        if togglesAt io start channel k then 0 else (countAt io start channel k + 1) % 4096 := by
  have clock : ((apuRun io start (k + 1)).pulse channel).timer =
      ((apuRun io start k).pulse channel).timer.next false
        ((apuRun io start k).pulse channel).regs.timer := by
    rw [← released k]
    rfl
  rw [togglesAt, countAt, countAt, timerAt, clock, TimerUnit.next, if_neg Bool.false_ne_true]
  by_cases found : ((apuRun io start k).pulse channel).timer.counter >>> 1 =
      ((apuRun io start k).pulse channel).regs.timer.setWidth 12
  · rw [if_pos found]
    simp only [Bool.not_xor_self, if_true, true_iff]
    exact ⟨(TimerUnit.match_iff _ _).mp found, rfl⟩
  · rw [if_neg found]
    simp only [Bool.xor_self, Bool.false_eq_true, if_false, false_iff]
    exact ⟨mt (TimerUnit.match_iff _ _).mpr found, BitVec.toNat_add _ _⟩

/-- The count since a toggle, while there has been no other. -/
theorem count_since (released : ∀ k, (io k).reset = false) {i m : ℕ}
    (toggle : togglesAt io start channel i = true)
    (quiet : ∀ k, i < k → k < i + 1 + m → togglesAt io start channel k = false) :
    countAt io start channel (i + 1 + m) = m % 4096 := by
  induction m with
  | zero =>
    have clock := (toggles_step start channel released i).2
    rw [toggle, if_pos rfl] at clock
    exact clock
  | succ m ih =>
    have before := ih fun k after below => quiet k after (by omega)
    have clock := (toggles_step start channel released (i + 1 + m)).2
    rw [quiet (i + 1 + m) (by omega) (by omega), if_neg Bool.false_ne_true, before] at clock
    rw [← Nat.add_assoc, clock]
    exact Nat.mod_add_mod m 4096 1

/-- With no other toggle since, the next is made in the clock whose timer value is half the
count. -/
theorem toggles_iff (released : ∀ k, (io k).reset = false) {i m : ℕ}
    (toggle : togglesAt io start channel i = true)
    (quiet : ∀ k, i < k → k < i + 1 + m → togglesAt io start channel k = false) :
    togglesAt io start channel (i + 1 + m) = true ↔
      timerAt io start channel (i + 1 + m) = m % 4096 / 2 := by
  rw [(toggles_step start channel released (i + 1 + m)).1, count_since released toggle quiet]
  exact eq_comm

/-- A timer value fits in eleven bits. -/
theorem timerAt_lt (k : ℕ) : timerAt io start channel k < 2048 :=
  ((apuRun io start k).pulse channel).regs.timer.isLt

/-- No value in force in a gap is larger than the largest. -/
theorem largestTimer_lt (io : ℕ → ApuPort) (start : Apu) (channel : Channel) (i j : ℕ) :
    largestTimer io start channel i j < 2048 :=
  (Finset.sup_lt_iff (by decide)).mpr fun k _ => timerAt_lt k

/-- When the values meet the count in time there is a next toggle. -/
theorem next_toggle (released : ∀ k, (io k).reset = false) {i : ℕ}
    (toggle : togglesAt io start channel i = true) (meets : Meets io start channel i) :
    ∃ j, SuccessiveToggles io start channel i j := by
  obtain ⟨m, small, value⟩ := meets
  have again : ∃ m, togglesAt io start channel (i + 1 + m) = true := by
    apply Classical.byContradiction
    intro silent
    have quiet : ∀ k, i < k → k < i + 1 + m → togglesAt io start channel k = false := by
      intro k after _
      obtain ⟨n, rfl⟩ := Nat.exists_eq_add_of_le after
      exact Bool.eq_false_iff.mpr fun high => silent ⟨n, high⟩
    have here := (toggles_iff released toggle quiet).mpr (by rw [value, Nat.mod_eq_of_lt small])
    exact silent ⟨m, here⟩
  refine ⟨i + 1 + Nat.find again, by omega, toggle, Nat.find_spec again, fun k after below => ?_⟩
  obtain ⟨n, rfl⟩ := Nat.exists_eq_add_of_le after
  exact Bool.eq_false_iff.mpr (Nat.find_min again (by omega))

/-- Between two toggles, the count wraps around or the second is made where the values first meet
it. -/
theorem meets_iff (released : ∀ k, (io k).reset = false) {i m : ℕ}
    (pair : SuccessiveToggles io start channel i (i + 1 + m)) :
    Meets io start channel i ↔ m < 4096 := by
  constructor
  · rintro ⟨n, small, value⟩
    apply Classical.byContradiction
    intro late
    have quiet : ∀ k, i < k → k < i + 1 + n → togglesAt io start channel k = false :=
      fun k after below => pair.between k after (by omega)
    have here := (toggles_iff released pair.first quiet).mpr
      (by rw [value, Nat.mod_eq_of_lt small])
    exact Bool.false_ne_true ((pair.between (i + 1 + n) (by omega) (by omega)).symm.trans here)
  · intro small
    have here := (toggles_iff released pair.first pair.between).mp pair.second
    rw [Nat.mod_eq_of_lt small] at here
    exact ⟨m, small, here⟩

end Gaps

/-- In every run out of reset and after every toggle, the next one comes within twice the largest
timer value in force plus two clocks exactly when the values in force meet the count before it
wraps around. -/
theorem timerGap_iff (io : ℕ → ApuPort) (start : Apu) (channel : Channel) (i : ℕ)
    (released : ∀ k, (io k).reset = false) (toggle : togglesAt io start channel i = true) :
    (Meets io start channel i → ∃ j, SuccessiveToggles io start channel i j) ∧
      ∀ j, SuccessiveToggles io start channel i j →
        (j - i ≤ 2 * (largestTimer io start channel i j + 1) ↔ Meets io start channel i) := by
  refine ⟨next_toggle released toggle, fun j pair => ?_⟩
  obtain ⟨m, rfl⟩ : ∃ m, j = i + 1 + m := Nat.exists_eq_add_of_le pair.before
  rw [meets_iff released pair]
  constructor
  · intro bounded
    have largest := largestTimer_lt io start channel i (i + 1 + m)
    omega
  · intro small
    have here := (toggles_iff released pair.first pair.between).mp pair.second
    rw [Nat.mod_eq_of_lt small] at here
    have inside : timerAt io start channel (i + 1 + m) ≤
        largestTimer io start channel i (i + 1 + m) :=
      Finset.le_sup (Finset.mem_Icc.mpr ⟨by omega, Nat.le_refl _⟩)
    omega

/-- A write of 5 to `$4002` and, when the count has reached 3, a write of 3. -/
def shortened (k : ℕ) : ApuPort :=
  if k = 0 then ⟨false, 5, 0x02, true, false⟩
  else if k = 4 then ⟨false, 3, 0x02, true, false⟩
  else .idle

/-- The count meets the value that the second write puts in force, and the next toggle comes after
7 clocks, within the bound for the larger value. -/
theorem shortened_gap :
    SuccessiveToggles shortened powerUp .one 0 7 ∧ largestTimer shortened powerUp .one 0 7 = 5 ∧
      7 - 0 ≤ 2 * (largestTimer shortened powerUp .one 0 7 + 1) := by
  have released : ∀ k, (shortened k).reset = false := by
    intro k
    rw [shortened]
    split
    · rfl
    · split <;> rfl
  have silent : ∀ k < 7, 0 < k → togglesAt shortened powerUp .one k = false := by
    decide +kernel
  have pair : SuccessiveToggles shortened powerUp .one 0 7 :=
    ⟨by decide, rfl, by decide +kernel, fun k after below => silent k below after⟩
  have gap := timerGap_iff shortened powerUp .one 0 released rfl
  exact ⟨pair, by decide +kernel, (gap.2 7 pair).mpr ⟨6, by decide, by decide +kernel⟩⟩

/-- A write of 5 to `$4002` and, when the count has reached 4, a write of 1. -/
def lowered (k : ℕ) : ApuPort :=
  if k = 0 then ⟨false, 5, 0x02, true, false⟩
  else if k = 5 then ⟨false, 1, 0x02, true, false⟩
  else .idle

/-- The timer values in force. -/
theorem lowered_timer (m : ℕ) :
    timerAt lowered powerUp .one (0 + 1 + m) = if m < 5 then 5 else 1 := by
  by_cases early : m < 5
  · have small : ∀ m < 5, timerAt lowered powerUp .one (0 + 1 + m) = 5 := by decide +kernel
    rw [if_pos early, small m early]
  · obtain ⟨n, rfl⟩ := Nat.exists_eq_add_of_le (Nat.le_of_not_lt early)
    rw [if_neg early]
    clear early
    induction n with
    | zero => rfl
    | succ n ih =>
      have idle : lowered (0 + 1 + (5 + n)) = .idle := by
        rw [lowered, if_neg (by omega), if_neg (by omega)]
      show (((apuRun lowered powerUp (0 + 1 + (5 + n))).pulse .one).regs.next
        (lowered (0 + 1 + (5 + n))) .one).timer.toNat = 1
      rw [idle]
      exact ih

/-- The count has passed the value, and the next toggle comes after 4099 clocks, though no value
above 5 was in force. -/
theorem lowered_gap :
    SuccessiveToggles lowered powerUp .one 0 4099 ∧
      2 * (largestTimer lowered powerUp .one 0 4099 + 1) < 4099 - 0 := by
  have released : ∀ k, (lowered k).reset = false := by
    intro k
    rw [lowered]
    split
    · rfl
    · split <;> rfl
  have first : togglesAt lowered powerUp .one 0 = true := rfl
  have silent : ∀ m < 4098, togglesAt lowered powerUp .one (0 + 1 + m) = false := by
    intro m
    induction m using Nat.strong_induction_on with
    | h m ih =>
      intro below
      have quiet : ∀ k, 0 < k → k < 0 + 1 + m → togglesAt lowered powerUp .one k = false := by
        intro k after before
        obtain ⟨n, rfl⟩ : ∃ n, k = 0 + 1 + n := Nat.exists_eq_add_of_le after
        exact ih n (by omega) (by omega)
      rw [← Bool.not_eq_true, toggles_iff released first quiet, lowered_timer]
      split <;> omega
  have between : ∀ k, 0 < k → k < 4099 → togglesAt lowered powerUp .one k = false := by
    intro k after before
    obtain ⟨n, rfl⟩ : ∃ n, k = 0 + 1 + n := Nat.exists_eq_add_of_le after
    exact silent n (by omega)
  have second : togglesAt lowered powerUp .one (0 + 1 + 4098) = true := by
    rw [toggles_iff released first between, lowered_timer]
    rfl
  refine ⟨⟨by decide, first, second, between⟩, ?_⟩
  have largest : largestTimer lowered powerUp .one 0 4099 ≤ 5 := by
    apply Finset.sup_le
    intro k inside
    obtain ⟨n, rfl⟩ : ∃ n, k = 0 + 1 + n :=
      Nat.exists_eq_add_of_le (Finset.mem_Icc.mp inside).1
    rw [lowered_timer]
    split <;> decide
  omega

end Apu

end FpgaNes
