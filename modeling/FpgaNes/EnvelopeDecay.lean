import FpgaNes.Apu
import Mathlib.Data.Nat.Count

/-!
# The decay of an envelope

An envelope divides the quarter frame clock by its volume plus one, and each expiry of the
divider is to take one off the decay level, which stops at zero or, when it loops, starts
again at 15. The two outcomes at zero are all that the loop flag may decide; the source has
it decide every expiry, and lets a level of zero wrap around when it is low.
-/

namespace FpgaNes

open Hdl

namespace EnvelopeGenerator

/-- What an envelope that no start and no reset reaches reads on a clock, but for its volume. -/
structure DecayInput where
  /-- The level of the quarter-frame clock. -/
  clkEdge : Bool
  /-- The loop flag. -/
  loop : Bool

/-- The states of such an envelope. -/
def decayRun (volume : BitVec 4) (io : ℕ → DecayInput) (start : EnvelopeGenerator) :
    ℕ → EnvelopeGenerator :=
  trace (fun input e => e.next input.clkEdge false input.loop false volume) io start

/-! ## The law -/

/-- A quarter frame clock arrives: the level differs from the one before. -/
def quarterAt (io : ℕ → DecayInput) (handle : Bool) (i : ℕ) : Bool :=
  (io i).clkEdge ^^ precede handle (fun j => (io j).clkEdge) i

/-- The number of quarter frame clocks before a time. -/
def quarters (io : ℕ → DecayInput) (handle : Bool) (n : ℕ) : ℕ :=
  Nat.count (fun i => quarterAt io handle i = true) n

/-- The divider expires: the quarter frame clock after those its first count takes, and every
one that is `volume + 1` later. -/
def Expires (volume : BitVec 4) (io : ℕ → DecayInput) (start : EnvelopeGenerator) (i : ℕ) : Prop :=
  quarterAt io start.clkHandle i = true ∧
    start.dividerCounter.toNat ≤ quarters io start.clkHandle i ∧
      volume.toNat + 1 ∣ quarters io start.clkHandle i - start.dividerCounter.toNat

instance (volume : BitVec 4) (io : ℕ → DecayInput) (start : EnvelopeGenerator) (i : ℕ) :
    Decidable (Expires volume io start i) :=
  inferInstanceAs (Decidable (_ ∧ _ ∧ _))

/-- The number of expiries before one. -/
def expiry (volume : BitVec 4) (io : ℕ → DecayInput) (start : EnvelopeGenerator) (i : ℕ) : ℕ :=
  (quarters io start.clkHandle i - start.dividerCounter.toNat) / (volume.toNat + 1)

/-- A decay level after an expiry: one less, and after zero 15 or zero again. -/
def decayed (loop : Bool) (level : BitVec 4) : BitVec 4 :=
  if level = 0 then if loop then 15 else 0 else level - 1

/-- The output of the envelope follows the law over one clock. -/
def Follows (volume : BitVec 4) (io : ℕ → DecayInput) (start : EnvelopeGenerator) (i : ℕ) : Prop :=
  let level := (decayRun volume io start i).envelopeOut false volume
  (decayRun volume io start (i + 1)).envelopeOut false volume =
    if Expires volume io start i then decayed (io i).loop level else level

/-- Without a quarter frame clock an envelope rests. -/
theorem next_idle {e : EnvelopeGenerator} {clkEdge loop : Bool} {volume : BitVec 4}
    (idle : (clkEdge ^^ e.clkHandle) = false) : e.next clkEdge false loop false volume = e := by
  rw [next, if_neg Bool.false_ne_true, idle, if_neg Bool.false_ne_true]

/-- A quarter frame clock moves the divider, and the level when the divider is at zero. -/
theorem next_quarter {e : EnvelopeGenerator} {clkEdge : Bool} (loop : Bool) (volume : BitVec 4)
    (arrives : (clkEdge ^^ e.clkHandle) = true) :
    e.next clkEdge false loop false volume =
      if e.dividerCounter = 0 then
        ⟨!e.clkHandle, volume, if loop then 15 else e.decayLevel - 1⟩
      else ⟨!e.clkHandle, e.dividerCounter - 1, e.decayLevel⟩ := by
  rw [next, if_neg Bool.false_ne_true, arrives]
  rfl

instance (volume : BitVec 4) (io : ℕ → DecayInput) (start : EnvelopeGenerator) (i : ℕ) :
    Decidable (Follows volume io start i) :=
  inferInstanceAs (Decidable (_ = _))

section Runs

variable (volume : BitVec 4) (io : ℕ → DecayInput) (start : EnvelopeGenerator)

/-! ## The divider -/

/-- A run ends with its last clock. -/
theorem decayRun_succ (n : ℕ) :
    decayRun volume io start (n + 1) =
      (decayRun volume io start n).next (io n).clkEdge false (io n).loop false volume := rfl

/-- The handle is the level of the clock before. -/
theorem decayRun_handle (n : ℕ) :
    (decayRun volume io start n).clkHandle =
      precede start.clkHandle (fun j => (io j).clkEdge) n := by
  cases n with
  | zero => rfl
  | succ n =>
    rw [decayRun_succ]
    generalize decayRun volume io start n = e
    show _ = (io n).clkEdge
    cases arrives : (io n).clkEdge ^^ e.clkHandle with
    | false =>
      rw [next_idle arrives]
      exact (bne_eq_false_iff_eq.mp arrives).symm
    | true =>
      rw [next_quarter _ _ arrives, apply_ite clkHandle, ite_self]
      exact (Bool.not_eq.mpr fun same => bne_iff_ne.mp arrives same.symm)

/-- One clock: nothing without a quarter frame clock, and with one a count or an expiry. -/
theorem decayRun_step (n : ℕ) :
    let e := decayRun volume io start n
    let after := decayRun volume io start (n + 1)
    if quarterAt io start.clkHandle n = true then
      if e.dividerCounter = 0 then
        after.dividerCounter = volume ∧
          after.decayLevel = if (io n).loop then 15 else e.decayLevel - 1
      else after.dividerCounter = e.dividerCounter - 1 ∧ after.decayLevel = e.decayLevel
    else after.dividerCounter = e.dividerCounter ∧ after.decayLevel = e.decayLevel := by
  intro e after
  have quarter : quarterAt io start.clkHandle n = ((io n).clkEdge ^^ e.clkHandle) := by
    rw [quarterAt, ← decayRun_handle volume io start n]
  rw [quarter]
  cases arrives : (io n).clkEdge ^^ e.clkHandle with
  | false =>
    have clock : after = e := next_idle arrives
    rw [clock, if_neg Bool.false_ne_true]
    exact ⟨rfl, rfl⟩
  | true =>
    have clock := next_quarter (io n).loop volume arrives
    change after = _ at clock
    rw [clock, if_pos rfl]
    by_cases zero : e.dividerCounter = 0
    · rw [if_pos zero, if_pos zero]
      exact ⟨rfl, rfl⟩
    · rw [if_neg zero, if_neg zero]
      exact ⟨rfl, rfl⟩

/-- The divider after a number of expiries, told in quarter frame clocks. -/
structure Divided (n count : ℕ) : Prop where
  /-- The quarter frames are those the levels have used up and those on the divider. -/
  total : quarters io start.clkHandle n + (decayRun volume io start n).dividerCounter.toNat =
    start.dividerCounter.toNat + (volume.toNat + 1) * count
  /-- The divider is within its period. -/
  period : 0 < count → (decayRun volume io start n).dividerCounter.toNat ≤ volume.toNat

variable {volume io start}

/-- The divider is at zero when it has counted to a multiple of the period. -/
theorem Divided.zero_iff {n count : ℕ} (divided : Divided volume io start n count) :
    (decayRun volume io start n).dividerCounter = 0 ↔
      start.dividerCounter.toNat ≤ quarters io start.clkHandle n ∧
        volume.toNat + 1 ∣ quarters io start.clkHandle n - start.dividerCounter.toNat := by
  have total := divided.total
  have period := divided.period
  have zero : (decayRun volume io start n).dividerCounter = 0 ↔
      (decayRun volume io start n).dividerCounter.toNat = 0 := BitVec.toNat_eq
  rw [zero]
  constructor
  · intro empty
    rw [empty] at total
    exact ⟨by omega, count, by omega⟩
  · rintro ⟨later, multiple, same⟩
    by_cases first : count = 0
    · rw [first] at total
      omega
    · -- the rest of the count is a multiple of the period, and less than it
      have rest : (volume.toNat + 1) * multiple +
          (decayRun volume io start n).dividerCounter.toNat = (volume.toNat + 1) * count := by
        omega
      have divides : volume.toNat + 1 ∣ (decayRun volume io start n).dividerCounter.toNat :=
        (Nat.dvd_add_right (Nat.dvd_mul_right _ multiple)).mp (rest ▸ Nat.dvd_mul_right _ count)
      have bound := period (Nat.pos_of_ne_zero first)
      exact Nat.eq_zero_of_dvd_of_lt divides (by omega)

/-- An expiry is a quarter frame clock that finds the divider at zero. -/
theorem Divided.expires_iff {n count : ℕ} (divided : Divided volume io start n count) :
    Expires volume io start n ↔
      quarterAt io start.clkHandle n = true ∧
        (decayRun volume io start n).dividerCounter = 0 := by
  rw [Expires, divided.zero_iff]

/-- The number of an expiry is the count of those before it. -/
theorem Divided.expiry_eq {n count : ℕ} (divided : Divided volume io start n count)
    (expires : Expires volume io start n) : expiry volume io start n = count := by
  have total := divided.total
  rw [(divided.expires_iff.mp expires).2] at total
  change quarters io start.clkHandle n = _ at total
  rw [expiry, total, Nat.add_sub_cancel_left]
  exact Nat.mul_div_cancel_left count (Nat.succ_pos volume.toNat)

/-- A clock adds an expiry to the count or keeps it. -/
theorem Divided.step {n count : ℕ} (divided : Divided volume io start n count) :
    Divided volume io start (n + 1)
      (if Expires volume io start n then count + 1 else count) := by
  have clock := decayRun_step volume io start n
  have total := divided.total
  have period := divided.period
  have counted : quarters io start.clkHandle (n + 1) =
      quarters io start.clkHandle n + if quarterAt io start.clkHandle n = true then 1 else 0 :=
    Nat.count_succ _ n
  by_cases quarter : quarterAt io start.clkHandle n = true
  · simp only [if_pos quarter] at clock counted
    by_cases zero : (decayRun volume io start n).dividerCounter = 0
    · rw [if_pos (divided.expires_iff.mpr ⟨quarter, zero⟩)]
      rw [if_pos zero] at clock
      rw [zero] at total
      change quarters io start.clkHandle n = _ at total
      constructor
      · rw [clock.1, counted, Nat.mul_add]
        omega
      · intro _
        rw [clock.1]
    · rw [if_neg fun expires => zero (divided.expires_iff.mp expires).2]
      rw [if_neg zero] at clock
      have less : (decayRun volume io start (n + 1)).dividerCounter.toNat + 1 =
          (decayRun volume io start n).dividerCounter.toNat := by
        rw [clock.1]
        bv_omega
      exact ⟨by omega, by omega⟩
  · simp only [if_neg quarter] at clock counted
    rw [if_neg fun expires => quarter (divided.expires_iff.mp expires).1]
    exact ⟨by rw [counted, clock.1]; exact total, by rw [clock.1]; exact period⟩

/-! ## The level -/

/-- The loop flag is as the law needs it, should the divider expire: high exactly at the
expiries that find a level counted down to zero, the first after as many as the level at the
start and each sixteenth from there. -/
def LoopsAtZero (volume : BitVec 4) (io : ℕ → DecayInput) (start : EnvelopeGenerator)
    (i : ℕ) : Prop :=
  Expires volume io start i →
    ((io i).loop = true ↔ expiry volume io start i % 16 = start.decayLevel.toNat)

/-- A level that has counted down is zero after as many expiries as it was at the start, and at
each sixteenth from there. -/
theorem countedDown_zero_iff (level : BitVec 4) (count : ℕ) :
    level - BitVec.ofNat 4 count = 0 ↔ count % 16 = level.toNat := by
  rw [BitVec.toNat_eq]
  bv_omega

/-- What the source makes of a level is what the law does exactly when the loop flag tells
whether it is zero. -/
theorem decayed_iff (loop : Bool) (level : BitVec 4) :
    (if loop then 15 else level - 1) = decayed loop level ↔ (loop = true ↔ level = 0) := by
  revert level
  cases loop <;> decide

/-- Between expiries the level stays. -/
theorem Divided.level_held {n count : ℕ} (divided : Divided volume io start n count)
    (expires : ¬ Expires volume io start n) :
    (decayRun volume io start (n + 1)).decayLevel = (decayRun volume io start n).decayLevel := by
  have clock := decayRun_step volume io start n
  rw [divided.expires_iff] at expires
  by_cases quarter : quarterAt io start.clkHandle n = true
  · have counting : (decayRun volume io start n).dividerCounter ≠ 0 :=
      fun zero => expires ⟨quarter, zero⟩
    simp only [if_pos quarter, if_neg counting] at clock
    exact clock.2
  · simp only [if_neg quarter] at clock
    exact clock.2

/-- While the loop flag is as the law needs it, the level counts down, modulo 16. -/
theorem level_counted (n : ℕ) (loops : ∀ i < n, LoopsAtZero volume io start i) :
    ∃ count, Divided volume io start n count ∧
      (decayRun volume io start n).decayLevel = start.decayLevel - BitVec.ofNat 4 count := by
  induction n with
  | zero =>
    refine ⟨0, ⟨?_, by omega⟩, ?_⟩
    · rw [quarters, Nat.count_zero, Nat.zero_add, Nat.mul_zero, Nat.add_zero]
      rfl
    · exact (BitVec.sub_zero start.decayLevel).symm
  | succ n ih =>
    obtain ⟨count, divided, level⟩ := ih fun i below => loops i (Nat.lt_succ_of_lt below)
    have clock := decayRun_step volume io start n
    refine ⟨_, divided.step, ?_⟩
    by_cases expires : Expires volume io start n
    · obtain ⟨quarter, zero⟩ := divided.expires_iff.mp expires
      have flag := loops n (Nat.lt_succ_self n) expires
      rw [divided.expiry_eq expires, ← countedDown_zero_iff, ← level] at flag
      simp only [if_pos quarter, if_pos zero] at clock
      rw [if_pos expires, clock.2, BitVec.ofNat_add, ← BitVec.sub_sub, ← level]
      cases high : (io n).loop with
      | false => rfl
      | true =>
        rw [flag.mp high]
        rfl
    · rw [if_neg expires, ← level]
      exact divided.level_held expires

/-- Over one clock after such a run the level follows the law exactly when the loop flag is as
the law needs it there too. -/
theorem follows_iff (n : ℕ) (loops : ∀ i < n, LoopsAtZero volume io start i) :
    Follows volume io start n ↔ LoopsAtZero volume io start n := by
  obtain ⟨count, divided, level⟩ := level_counted n loops
  have clock := decayRun_step volume io start n
  show (decayRun volume io start (n + 1)).decayLevel =
    (if Expires volume io start n then
      decayed (io n).loop (decayRun volume io start n).decayLevel
    else (decayRun volume io start n).decayLevel) ↔ _
  by_cases expires : Expires volume io start n
  · obtain ⟨quarter, zero⟩ := divided.expires_iff.mp expires
    simp only [if_pos quarter, if_pos zero] at clock
    rw [if_pos expires, clock.2, decayed_iff, level, countedDown_zero_iff, LoopsAtZero,
      divided.expiry_eq expires]
    exact ⟨fun flag _ => flag, fun flag => flag expires⟩
  · rw [if_neg expires, LoopsAtZero]
    refine iff_of_true ?_ fun impossible => absurd impossible expires
    exact divided.level_held expires

end Runs

/-- Over a run of any length, from any state and under any quarter frame clocks and loop flags,
the envelope follows the decay law exactly when the loop flag is high at the expiries that find
the level counted down to zero, and low at all others. -/
theorem decay_iff (volume : BitVec 4) (io : ℕ → DecayInput) (start : EnvelopeGenerator) (n : ℕ) :
    (∀ i < n, Follows volume io start i) ↔ ∀ i < n, LoopsAtZero volume io start i := by
  constructor
  · intro follows i below
    induction i using Nat.strong_induction_on with
    | h i ih =>
      have before : ∀ j < i, LoopsAtZero volume io start j :=
        fun j earlier => ih j earlier (earlier.trans below)
      exact (follows_iff i before).mp (follows i below)
  · intro loops i below
    have before : ∀ j < i, LoopsAtZero volume io start j :=
      fun j earlier => loops j (earlier.trans below)
    exact (follows_iff i before).mpr (loops i below)

/-- A level of zero that does not loop becomes 15, and one of 3 that loops does too. -/
theorem decay_wraps :
    ¬ Follows 0 (fun _ => ⟨true, false⟩) ⟨false, 0, 0⟩ 0 ∧
      ¬ Follows 0 (fun _ => ⟨true, true⟩) ⟨false, 0, 3⟩ 0 := by
  decide

end EnvelopeGenerator

namespace Apu

/-- The envelope of a channel runs by itself while its volume is held: its start and its reset
are tied low. -/
theorem apuRun_envelope (io : ℕ → ApuPort) (start : Apu) (channel : Channel) (volume : BitVec 4)
    (n : ℕ)
    (held : ∀ i < n, ((apuRun io start i).pulse channel).regs.volume = volume) :
    ((apuRun io start n).pulse channel).envelope =
      EnvelopeGenerator.decayRun volume
        (fun i => ⟨(apuRun io start i).sequencer.quarterClock,
          ((apuRun io start i).pulse channel).regs.loopFlag⟩)
        (start.pulse channel).envelope n := by
  induction n with
  | zero => rfl
  | succ n ih =>
    rw [EnvelopeGenerator.decayRun_succ, ← ih fun i below => held i (Nat.lt_succ_of_lt below),
      ← held n (Nat.lt_succ_self n)]
    rfl

end Apu

end FpgaNes
