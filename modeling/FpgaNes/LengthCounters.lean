import FpgaNes.FrameSequence

/-!
# The length counters

A length counter takes the half-frame clock as a level that toggles, and stops answering it
while its channel is disabled or is being loaded. The reference below counts the half-frame
events themselves: it drops those of a disabled channel, and keeps those of a channel that is
being loaded until the load is over.
-/

namespace FpgaNes

/-- The table entry that a load selects. -/
def ApuPort.entry (port : ApuPort) : Byte :=
  LengthCounter.entry (port.cpuDataIn.extractLsb' 3 5)

namespace Apu

/-- The handshake of the half-frame clock and the length counter of a channel. -/
def lengthPair (apu : Apu) (channel : Channel) : Hdl.Handshake :=
  ⟨apu.sequencer.halfClock, (apu.pulse channel).lengthCounter.clkHandle⟩

/-- The sequencer emits a half-frame event on the edge. -/
def halfFrame (apu : Apu) (port : ApuPort) : Bool := (apu.frameEvents port).half

/-- An enabled channel is loaded on the edge. -/
def loads (apu : Apu) (port : ApuPort) (channel : Channel) : Bool :=
  apu.status.pulseEnable channel && port.pulseLcLoad channel

/-- The bit of a channel in the value that the port reads. -/
def channelBit (apu : Apu) (port : ApuPort) (channel : Channel) : Bool :=
  (apu.cpuDataOut port).getLsbD channel.bit

end Apu

/-! ## The reference -/

/-- A length counter that is told of the writes and of the half-frame events. -/
structure LengthReference where
  /-- The channel is enabled. -/
  enabled : Bool
  /-- The halt flag. -/
  halted : Bool
  /-- The count. -/
  counter : ℕ
  /-- Half-frame events that have not been counted. -/
  owed : ℕ
  deriving DecidableEq

namespace LengthReference

/-- One CPU cycle: zero while the channel is disabled; the table entry on a load, which leaves
the events owed; otherwise one less for each event owed, unless halted, and never below
zero. -/
def next (channel : Channel) (port : ApuPort) (event : Bool) (r : LengthReference) :
    LengthReference where
  enabled := if port.writes 0x15 then port.cpuDataIn.getLsbD channel.bit else r.enabled
  halted := if port.writes channel.base then port.cpuDataIn.getLsbD 5 else r.halted
  counter :=
    if !r.enabled then 0
    else if port.pulseLcLoad channel then port.entry.toNat
    else if r.halted then r.counter
    else r.counter - r.owed
  owed :=
    if !r.enabled then 0
    else if port.pulseLcLoad channel then r.owed + event.toNat
    else event.toNat

end LengthReference

/-- The reference of a channel along a run of the APU, whose sequencer emits the events. -/
def lengthReference (io : ℕ → ApuPort) (start : Apu) (channel : Channel) : ℕ → LengthReference
  | 0 =>
    { enabled := start.status.pulseEnable channel
      halted := (start.pulse channel).regs.loopFlag
      counter := (start.pulseLengthCounter channel).toNat
      owed := 0 }
  | n + 1 =>
    (lengthReference io start channel n).next channel (io n)
      ((apuRun io start n).halfFrame (io n))

/-! ## One edge -/

namespace PulseRegisters

/-- The halt bit is bit 5 of the last write of `$4000` or `$4004`. -/
theorem next_loopFlag (p : PulseRegisters) (port : ApuPort) (channel : Channel)
    (released : port.reset = false) :
    (p.next port channel).loopFlag =
      if port.writes channel.base then port.cpuDataIn.getLsbD 5 else p.loopFlag := by
  rw [next, released]
  cases port.writes channel.base <;> cases port.writes (channel.base + 2) <;>
    cases port.writes (channel.base + 3) <;> rfl

end PulseRegisters

namespace LengthCounter

/-- Counting down from a value above zero. -/
theorem counter_pred {counter : Byte} (positive : counter ≠ 0) :
    (counter - 1).toNat = counter.toNat - 1 := by
  have above : counter.toNat ≠ 0 := fun zero => positive (BitVec.eq_of_toNat_eq zero)
  have bound := counter.isLt
  rw [BitVec.toNat_sub]
  show (2 ^ 8 - 1 + counter.toNat) % 2 ^ 8 = counter.toNat - 1
  omega

variable (l : LengthCounter) (clkEdge load halt enable : Bool) (dataIn : BitVec 5)

/-- The count after an edge: an event that waits is one less, and zero stays zero. -/
theorem next_counter :
    (l.next clkEdge load halt enable dataIn).counter.toNat =
      if !enable then 0
      else if load then (entry dataIn).toNat
      else if halt then l.counter.toNat
      else l.counter.toNat - (clkEdge ^^ l.clkHandle).toNat := by
  rw [next]
  cases enable with
  | false => rfl
  | true =>
    cases load with
    | true => rfl
    | false =>
      cases clkEdge ^^ l.clkHandle with
      | false => cases halt <;> rfl
      | true =>
        cases halt with
        | true => rfl
        | false =>
          by_cases zero : l.counter = 0
          · simp [zero]
          · show (if false || decide (l.counter = 0) then l.counter else l.counter - 1).toNat = _
            rw [decide_eq_false zero]
            exact counter_pred zero

/-- An event that waits is answered while the counter is enabled and not loaded. -/
theorem next_clkHandle :
    (l.next clkEdge load halt enable dataIn).clkHandle =
      (l.clkHandle ^^ ((clkEdge ^^ l.clkHandle) && (enable && !load))) := by
  cases l with
  | mk handle counter =>
    rw [next]
    cases enable <;> cases load <;> cases clkEdge <;> cases handle <;> rfl

end LengthCounter

namespace Apu

variable (apu : Apu) {port : ApuPort} (channel : Channel)

/-- The half-frame clock moves with the events. -/
theorem clock_halfClock :
    (apu.clock port).sequencer.halfClock =
      (apu.sequencer.halfClock ^^ apu.halfFrame port) := by
  rw [halfFrame, frameEvents, ← Bool.xor_assoc, Bool.xor_self, Bool.false_xor]

/-- What waits for a length counter after an edge: a new event, or one that a disabled or
loading channel left waiting. -/
theorem lengthPending_clock :
    ((apu.clock port).lengthPair channel).pending =
      (apu.halfFrame port ^^ ((apu.lengthPair channel).pending &&
        !(apu.status.pulseEnable channel && !port.pulseLcLoad channel))) := by
  have pair : (apu.clock port).lengthPair channel =
      (apu.lengthPair channel).step (apu.halfFrame port)
        (apu.status.pulseEnable channel && !port.pulseLcLoad channel) := by
    have answered : ((apu.clock port).pulse channel).lengthCounter.clkHandle = _ :=
      LengthCounter.next_clkHandle _ _ _ _ _ _
    rw [lengthPair, clock_halfClock, answered]
    rfl
  rw [pair, Hdl.Handshake.pending_step]

/-- The count of a channel after an edge. -/
theorem pulseLengthCounter_clock :
    ((apu.clock port).pulseLengthCounter channel).toNat =
      if !apu.status.pulseEnable channel then 0
      else if port.pulseLcLoad channel then port.entry.toNat
      else if (apu.pulse channel).regs.loopFlag then (apu.pulseLengthCounter channel).toNat
      else (apu.pulseLengthCounter channel).toNat - (apu.lengthPair channel).pending.toNat :=
  LengthCounter.next_counter _ _ _ _ _ _

/-- A read of `$4015` tells whether the counter of a channel is above zero. -/
theorem channelBit_eq (read : port.readsStatus = true) :
    apu.channelBit port channel = (apu.pulseLengthCounter channel != 0) := by
  have bits := statusByte_bits apu.status.dmcInterrupt apu.frameIrq
    (apu.pulseLengthCounter .two != 0) (apu.pulseLengthCounter .one != 0)
  rw [channelBit, cpuDataOut, if_pos read]
  cases channel with
  | one => exact bits.2.2
  | two => exact bits.2.1

end Apu

/-! ## Runs -/

/-- Writes of different registers are at least three CPU cycles apart. -/
def WritesApart (io : ℕ → ApuPort) : Prop :=
  ∀ i j, i < j → (io i).cpuWren = true → (io j).cpuWren = true →
    (io i).cpuAddr ≠ (io j).cpuAddr → i + 3 ≤ j

/-- A channel is not loaded on every edge from one half-frame event up to another. -/
def LoadsEnd (io : ℕ → ApuPort) (start : Apu) (channel : Channel) : Prop :=
  ∀ i j, i < j → (apuRun io start i).halfFrame (io i) = true →
    (apuRun io start j).halfFrame (io j) = true →
      ∃ k, i < k ∧ k ≤ j ∧ (apuRun io start k).loads (io k) channel = false

/-- The length counter of a channel along a run: it is the count of the reference, it stays at
zero until it is loaded, and a read of `$4015` tells whether it is above zero. -/
structure LengthCounted (io : ℕ → ApuPort) (start : Apu) (channel : Channel) : Prop where
  /-- The count is that of the reference. -/
  counter : ∀ n, ((apuRun io start n).pulseLengthCounter channel).toNat =
    (lengthReference io start channel n).counter
  /-- A count of zero stays without a load. -/
  zero : ∀ n, (apuRun io start n).pulseLengthCounter channel = 0 →
    (apuRun io start n).loads (io n) channel = false →
      (apuRun io start (n + 1)).pulseLengthCounter channel = 0
  /-- The status bit tells whether the count is above zero. -/
  status : ∀ n, (io n).readsStatus = true →
    (apuRun io start n).channelBit (io n) channel =
      ((apuRun io start n).pulseLengthCounter channel != 0)

/-- The length counter and its reference, at one time of a run. What waits for the counter is
what the reference owes, unless the channel has been disabled since. -/
structure LengthTracked (io : ℕ → ApuPort) (start : Apu) (channel : Channel) (n : ℕ) : Prop where
  /-- The enable bit. -/
  enabled : (apuRun io start n).status.pulseEnable channel =
    (lengthReference io start channel n).enabled
  /-- The halt flag. -/
  halted : ((apuRun io start n).pulse channel).regs.loopFlag =
    (lengthReference io start channel n).halted
  /-- The count. -/
  counter : ((apuRun io start n).pulseLengthCounter channel).toNat =
    (lengthReference io start channel n).counter
  /-- What the reference owes is what waits on the pair. -/
  owed : ((apuRun io start n).lengthPair channel).pending.toNat =
      (lengthReference io start channel n).owed ∨
    (lengthReference io start channel n).enabled = false ∨
      ((lengthReference io start channel n).counter = 0 ∧
        ∃ m, n = m + 1 ∧ (io m).writes 0x15 = true)
  /-- Where it owes, the counter is held. -/
  held : 0 < (lengthReference io start channel n).owed →
    ∃ m < n, (apuRun io start m).halfFrame (io m) = true ∧
      ∀ k, m < k → k < n → (apuRun io start k).loads (io k) channel = true

section Runs

variable {io : ℕ → ApuPort} {start : Apu} {channel : Channel}

/-- A write keeps the others away for two CPU cycles. -/
theorem WritesApart.unwritten (apart : WritesApart io) {i j : ℕ} {register other : BitVec 5}
    (later : (io j).writes other = true) (differ : register ≠ other) (before : i < j)
    (near : j < i + 3) : (io i).writes register = false := by
  apply Bool.eq_false_iff.mpr
  intro written
  rw [ApuPort.writes, Bool.and_eq_true, beq_iff_eq] at written later
  have spaced := apart i j before written.1 later.1 (by rw [written.2, later.2]; exact differ)
  omega

/-- No load follows a write of `$4015` at once. -/
theorem WritesApart.unloaded (apart : WritesApart io) {m : ℕ}
    (written : (io m).writes 0x15 = true) (channel : Channel) :
    (io (m + 1)).pulseLcLoad channel = false := by
  apply Bool.eq_false_iff.mpr
  intro loaded
  have differ : (0x15 : BitVec 5) ≠ channel.base + 3 := by cases channel <;> decide
  have unwritten := apart.unwritten loaded differ (Nat.lt_succ_self m) (by omega)
  exact Bool.false_ne_true (unwritten.symm.trans written)

/-- The reference of an enabled channel that is not loaded owes what the counter owes, or has
nothing to count down. -/
theorem LengthTracked.counts {n : ℕ} (tracked : LengthTracked io start channel n)
    (enabled : (lengthReference io start channel n).enabled = true) :
    (lengthReference io start channel n).counter -
        ((apuRun io start n).lengthPair channel).pending.toNat =
      (lengthReference io start channel n).counter -
        (lengthReference io start channel n).owed := by
  rcases tracked.owed with same | disabled | ⟨zero, -⟩
  · rw [same]
  · exact absurd (disabled.symm.trans enabled) Bool.false_ne_true
  · rw [zero, Nat.zero_sub, Nat.zero_sub]

/-- While an enabled channel is loaded, an event that waits keeps a second one away. -/
theorem LengthTracked.one_owed {n : ℕ} (tracked : LengthTracked io start channel n)
    (apart : WritesApart io) (ends : LoadsEnd io start channel)
    (enabled : (lengthReference io start channel n).enabled = true)
    (loaded : (io n).pulseLcLoad channel = true) :
    ((apuRun io start n).halfFrame (io n) ^^
        ((apuRun io start n).lengthPair channel).pending).toNat =
      (lengthReference io start channel n).owed +
        ((apuRun io start n).halfFrame (io n)).toNat := by
  have same : ((apuRun io start n).lengthPair channel).pending.toNat =
      (lengthReference io start channel n).owed := by
    rcases tracked.owed with same | disabled | ⟨-, m, rfl, written⟩
    · exact same
    · exact absurd (disabled.symm.trans enabled) Bool.false_ne_true
    · exact absurd ((apart.unloaded written channel).symm.trans loaded) Bool.false_ne_true
  rw [← same]
  cases event : (apuRun io start n).halfFrame (io n) with
  | false => rw [Bool.false_xor]; rfl
  | true =>
    cases waits : ((apuRun io start n).lengthPair channel).pending with
    | false => rfl
    | true =>
      rw [waits] at same
      obtain ⟨m, earlier, first, through⟩ := tracked.held (by rw [← same]; exact Nat.one_pos)
      obtain ⟨k, after, upTo, free⟩ := ends m n earlier first event
      rcases Nat.lt_or_eq_of_le upTo with inside | last
      · exact absurd (free.symm.trans (through k after inside)) Bool.false_ne_true
      · rw [last, Apu.loads, tracked.enabled, enabled, loaded] at free
        exact absurd free.symm Bool.false_ne_true

/-- What the reference owes after a cycle is an event of this cycle, or one that loads have kept
waiting since. -/
theorem LengthTracked.held_succ {n : ℕ} (tracked : LengthTracked io start channel n)
    (owes : 0 < (lengthReference io start channel (n + 1)).owed) :
    ∃ m < n + 1, (apuRun io start m).halfFrame (io m) = true ∧
      ∀ k, m < k → k < n + 1 → (apuRun io start k).loads (io k) channel = true := by
  rw [lengthReference, LengthReference.next] at owes
  cases enabled : (lengthReference io start channel n).enabled with
  | false =>
    rw [enabled] at owes
    exact absurd owes (Nat.lt_irrefl 0)
  | true =>
    rw [enabled] at owes
    cases event : (apuRun io start n).halfFrame (io n) with
    | true => exact ⟨n, Nat.lt_succ_self n, event, fun k after before => by omega⟩
    | false =>
      cases loaded : (io n).pulseLcLoad channel with
      | false =>
        rw [event, loaded] at owes
        exact absurd owes (Nat.lt_irrefl 0)
      | true =>
        rw [event, loaded] at owes
        obtain ⟨m, earlier, first, through⟩ := tracked.held owes
        refine ⟨m, Nat.lt_succ_of_lt earlier, first, fun k after before => ?_⟩
        rcases Nat.lt_succ_iff_lt_or_eq.mp before with inside | last
        · exact through k after inside
        · rw [last, Apu.loads, tracked.enabled, enabled, loaded]
          rfl

/-- One CPU cycle keeps the counter and its reference together. -/
theorem LengthTracked.step {n : ℕ} (tracked : LengthTracked io start channel n)
    (released : ∀ i, (io i).reset = false) (apart : WritesApart io)
    (ends : LoadsEnd io start channel) : LengthTracked io start channel (n + 1) := by
  have counter : ((apuRun io start (n + 1)).pulseLengthCounter channel).toNat = _ :=
    (apuRun io start n).pulseLengthCounter_clock channel
  have pending : ((apuRun io start (n + 1)).lengthPair channel).pending = _ :=
    (apuRun io start n).lengthPending_clock channel
  rw [tracked.enabled] at counter pending
  rw [tracked.halted, tracked.counter] at counter
  constructor
  · show ((apuRun io start n).status.next (io n)).pulseEnable channel = _
    rw [ApuStatus.next_pulseEnable _ _ (released n), tracked.enabled]
    rfl
  · show (((apuRun io start n).pulse channel).regs.next (io n) channel).loopFlag = _
    rw [PulseRegisters.next_loopFlag _ _ _ (released n), tracked.halted]
    rfl
  · rw [counter, lengthReference, LengthReference.next]
    cases enabled : (lengthReference io start channel n).enabled with
    | false => rfl
    | true =>
      cases (io n).pulseLcLoad channel with
      | true => rfl
      | false =>
        cases (lengthReference io start channel n).halted with
        | true => rfl
        | false => exact tracked.counts enabled
  · rw [pending, lengthReference, LengthReference.next]
    cases enabled : (lengthReference io start channel n).enabled with
    | false =>
      right
      cases written : (io n).writes 0x15 with
      | false => exact Or.inl rfl
      | true => exact Or.inr ⟨rfl, n, rfl, written⟩
    | true =>
      left
      cases loaded : (io n).pulseLcLoad channel with
      | true =>
        rw [Bool.not_true, Bool.and_false, Bool.not_false, Bool.and_true]
        exact tracked.one_owed apart ends enabled loaded
      | false =>
        rw [Bool.not_false, Bool.and_true, Bool.not_true, Bool.and_false, Bool.xor_false]
        rfl
  · exact tracked.held_succ

/-- From a state with the channel disabled, the counter follows its reference. -/
theorem lengthTracked (released : ∀ i, (io i).reset = false) (apart : WritesApart io)
    (disabled : start.status.pulseEnable channel = false) (ends : LoadsEnd io start channel)
    (n : ℕ) : LengthTracked io start channel n := by
  induction n with
  | zero =>
    exact ⟨rfl, rfl, rfl, Or.inr (Or.inl disabled), fun none => absurd none (Nat.lt_irrefl 0)⟩
  | succ n ih => exact ih.step released apart ends

/-- A counter that is at its reference throughout stays at zero without a load, and is what a read
of `$4015` tells of. -/
theorem LengthTracked.counted (tracked : ∀ n, LengthTracked io start channel n) :
    LengthCounted io start channel := by
  constructor
  · intro n
    exact (tracked n).counter
  · intro n zero unloaded
    have counter : ((apuRun io start (n + 1)).pulseLengthCounter channel).toNat = _ :=
      (apuRun io start n).pulseLengthCounter_clock channel
    apply BitVec.eq_of_toNat_eq
    rw [counter, zero]
    rw [Apu.loads] at unloaded
    cases enabled : (apuRun io start n).status.pulseEnable channel with
    | false => rfl
    | true =>
      rw [enabled, Bool.true_and] at unloaded
      rw [unloaded]
      cases ((apuRun io start n).pulse channel).regs.loopFlag with
      | true => rfl
      | false => exact Nat.zero_sub _
  · intro n read
    exact Apu.channelBit_eq _ channel read

/-- Over any accesses whose writes of different registers are apart, and from a state with the
channel disabled: the length counter counts each half-frame event once, unless the channel is
loaded on every edge from one event up to another. -/
theorem lengthCounter_counted (released : ∀ i, (io i).reset = false) (apart : WritesApart io)
    (disabled : start.status.pulseEnable channel = false)
    (ends : LoadsEnd io start channel) : LengthCounted io start channel :=
  LengthTracked.counted (lengthTracked released apart disabled ends)

/-- Half-frame events that no write of `$4017` comes between are at least 14914 edges apart. -/
theorem halfFrame_gap (released : ∀ i, (io i).reset = false) (i m : ℕ)
    (still : (apuRun io start i).immediate = false)
    (unwritten : ∀ k, i ≤ k → k ≤ i + m → (io k).writes 0x17 = false)
    (first : (apuRun io start i).halfFrame (io i) = true) (soon : m < 14913) :
    (apuRun io start (i + 1 + m)).halfFrame (io (i + 1 + m)) = false := by
  have bound := (FrameSequencer.lastCount_bounds (apuRun io start i).status.frameCounterMode).1
  rw [Apu.halfFrame, Apu.frameEvents_eq _ (released i), still, if_neg Bool.false_ne_true] at first
  have stillNext : (apuRun io start (i + 1)).immediate = false := by
    rw [apuRun_succ, Apu.immediate_clock _ (released i), unwritten i (Nat.le_refl i) (by omega)]
    rfl
  have last : (apuRun io start (i + 1)).lastCount = (apuRun io start i).lastCount := by
    have mode := ApuStatus.next_mode (apuRun io start i).status (io i)
    rw [unwritten i (Nat.le_refl i) (by omega)] at mode
    exact congrArg FrameSequencer.lastCount mode
  have count : (apuRun io start (i + 1)).count = 0 ∨ (apuRun io start (i + 1)).count = 14914 := by
    rw [apuRun_succ, Apu.count_clock _ (released i), still, if_neg Bool.false_ne_true,
      FrameSequencer.countNext]
    by_cases ended : (apuRun io start i).lastCount ≤ (apuRun io start i).count
    · exact Or.inl (if_pos ended)
    · rw [FrameSequencer.halfStep, decide_eq_false ended, Bool.or_false, beq_iff_eq] at first
      rw [if_neg ended, first]
      exact Or.inr rfl
  have short : 29839 ≤ (apuRun io start (i + 1)).lastCount := by
    rw [last]
    exact bound
  have counted := apuRun_count m (fun k => released (i + 1 + k))
    (fun k within => unwritten (i + 1 + k) (by omega) (by omega)) stillNext (by omega)
  rw [show apuRun (fun k => io (i + 1 + k)) (apuRun io start (i + 1)) m =
    apuRun io start (i + 1 + m) from (Hdl.trace_add (i + 1) m).symm] at counted
  have lastNow : (apuRun io start (i + 1 + m)).lastCount =
      (apuRun io start (i + 1)).lastCount := congrArg FrameSequencer.lastCount counted.2.2
  rw [Apu.halfFrame, Apu.frameEvents_eq _ (released _), counted.2.1, if_neg Bool.false_ne_true,
    lastNow, counted.1]
  show ((_ == 14913) || decide (_ ≤ _)) = false
  rw [decide_eq_false (by omega), Bool.or_false]
  exact beq_false_of_ne (by omega)

/-- A channel that is never loaded on 14914 edges in a row is not loaded from one half-frame
event up to another. -/
theorem loadsEnd_of_brief (released : ∀ i, (io i).reset = false) (apart : WritesApart io)
    (still : start.immediate = false)
    (brief : ∀ i, ∃ k ≤ 14913, (io (i + k)).pulseLcLoad channel = false) :
    LoadsEnd io start channel := by
  intro i j before first second
  apply Classical.byContradiction
  intro never
  have loaded : ∀ k, i < k → k ≤ j → (io k).writes (channel.base + 3) = true := by
    intro k after upTo
    apply eq_true_of_ne_false
    intro free
    exact never ⟨k, after, upTo, by rw [Apu.loads, ApuPort.pulseLcLoad, free, Bool.and_false]⟩
  have differ : (0x17 : BitVec 5) ≠ channel.base + 3 := by cases channel <;> decide
  have stillNow : (apuRun io start i).immediate = false := by
    cases i with
    | zero => exact still
    | succ p =>
      have unwritten := apart.unwritten (loaded (p + 1 + 1) (Nat.lt_succ_self _) before) differ
        (show p < p + 1 + 1 by omega) (by omega)
      rw [apuRun_succ, Apu.immediate_clock _ (released p), unwritten]
      rfl
  obtain ⟨m, rfl⟩ := Nat.exists_eq_add_of_le (show i + 1 ≤ j from before)
  have unwritten : ∀ k, i ≤ k → k ≤ i + m → (io k).writes 0x17 = false := by
    intro k after upTo
    exact apart.unwritten (loaded (k + 1) (by omega) (by omega)) differ (Nat.lt_succ_self k)
      (by omega)
  obtain ⟨k, within, free⟩ := brief (i + 1)
  by_cases soon : m < 14913
  · have none := halfFrame_gap released i m stillNow unwritten first soon
    exact Bool.false_ne_true (none.symm.trans second)
  · have load := loaded (i + 1 + k) (by omega) (by omega)
    exact Bool.false_ne_true (free.symm.trans load)

end Runs

/-! ## One load and many -/

/-- A write of `$4015` that enables the first channel. -/
def ApuPort.enableOne : ApuPort := ⟨false, 0x01, 0x15, true, false⟩

/-- A write of `$4003` that loads 254. -/
def ApuPort.loadOne : ApuPort := ⟨false, 0x08, 0x03, true, false⟩

/-- The first channel is enabled, and loaded once. -/
def loadOnce : ℕ → ApuPort
  | 0 => .enableOne
  | 3 => .loadOne
  | _ => .idle

/-- The first channel is enabled, and loaded on every edge of its first sequence. -/
def loadHeld (i : ℕ) : ApuPort :=
  if i = 0 then .enableOne else if i < 3 then .idle else if i < 29840 then .loadOne else .idle

/-- A load that is over at once: the counter is the reference for ever. -/
theorem loadOnce_counted : LengthCounted loadOnce Apu.powerUp .one := by
  refine lengthCounter_counted (fun i => ?_) (fun i j before writes later differ => ?_) rfl
    (fun i j before first _ => ?_)
  · rcases i with - | - | - | - | i <;> rfl
  · rcases j with - | - | - | - | j
    · exact absurd before (Nat.not_lt_zero i)
    · exact absurd later Bool.false_ne_true
    · exact absurd later Bool.false_ne_true
    · rcases i with - | - | - | i
      · exact Nat.le_refl 3
      · exact absurd writes Bool.false_ne_true
      · exact absurd writes Bool.false_ne_true
      · omega
    · exact absurd later Bool.false_ne_true
  · refine ⟨j, before, Nat.le_refl j, ?_⟩
    rcases j with - | - | - | - | j
    · exact Bool.and_false _
    · exact Bool.and_false _
    · exact Bool.and_false _
    · rcases i with - | - | - | i
      · exact absurd first (by decide)
      · exact absurd first (by decide)
      · exact absurd first (by decide)
      · omega
    · exact Bool.and_false _

/-- The first channel while its load is held, up to some time of the first sequence. -/
structure LoadHeld (n : ℕ) : Prop where
  /-- The clocks since power-up. -/
  count : (apuRun loadHeld Apu.powerUp n).count = n
  /-- The sequence is of mode zero. -/
  mode : (apuRun loadHeld Apu.powerUp n).status.frameCounterMode = false
  /-- No event is owed to a write. -/
  answered : (apuRun loadHeld Apu.powerUp n).immediate = false
  /-- The channel is enabled. -/
  enabled : (apuRun loadHeld Apu.powerUp n).status.pulseEnable .one = true
  /-- The half-frame event waits once it has come. -/
  pending : ((apuRun loadHeld Apu.powerUp n).lengthPair .one).pending = decide (14913 < n)
  /-- The counter stays loaded. -/
  counter : ((apuRun loadHeld Apu.powerUp n).pulseLengthCounter .one).toNat = 254
  /-- The reference has counted the event. -/
  reference : lengthReference loadHeld Apu.powerUp .one n =
    ⟨true, false, 254, if 14913 < n then 1 else 0⟩

/-- The sequence of mode 0 is in force. -/
theorem LoadHeld.lastCount {n : ℕ} (held : LoadHeld n) :
    (apuRun loadHeld Apu.powerUp n).lastCount = 29839 := by
  rw [Apu.lastCount, held.mode]
  rfl

/-- The half-frame event of an edge on which the load is held. -/
theorem LoadHeld.halfFrame {n : ℕ} (held : LoadHeld n) (port : ApuPort)
    (released : port.reset = false) :
    (apuRun loadHeld Apu.powerUp n).halfFrame port = FrameSequencer.halfStep 29839 n := by
  rw [Apu.halfFrame, Apu.frameEvents_eq _ released, held.answered, if_neg Bool.false_ne_true,
    held.lastCount, held.count]

/-- The load is held on every edge of the sequence. -/
theorem loadHeld_loads {n : ℕ} (after : 4 ≤ n) (within : n < 29840) : loadHeld n = .loadOne := by
  rw [loadHeld, if_neg (by omega), if_neg (by omega), if_pos within]

/-- One more edge of the sequence keeps it held. -/
theorem LoadHeld.step {n : ℕ} (held : LoadHeld n) (after : 4 ≤ n) (within : n < 29839) :
    LoadHeld (n + 1) := by
  have loads := loadHeld_loads after (Nat.lt_succ_of_lt within)
  have low : ApuPort.loadOne.reset = false := rfl
  have event := held.halfFrame .loadOne low
  have middle : FrameSequencer.halfStep 29839 n = decide (n = 14913) := by
    rw [FrameSequencer.halfStep, decide_eq_false (Nat.not_le.mpr within), Bool.or_false]
    rfl
  rw [middle] at event
  have reference : lengthReference loadHeld Apu.powerUp .one (n + 1) =
      (lengthReference loadHeld Apu.powerUp .one n).next .one .loadOne (decide (n = 14913)) := by
    rw [lengthReference, loads, event]
  constructor
  · rw [apuRun_succ, loads, Apu.count_clock _ low, held.answered, if_neg Bool.false_ne_true,
      held.lastCount, held.count, FrameSequencer.countNext, if_neg (Nat.not_le.mpr within)]
  · rw [apuRun_succ, loads]
    exact (ApuStatus.next_mode _ _).trans held.mode
  · rw [apuRun_succ, loads]
    exact Apu.immediate_clock _ low
  · rw [apuRun_succ, loads]
    exact (ApuStatus.next_pulseEnable _ _ low _).trans held.enabled
  · rw [apuRun_succ, loads, Apu.lengthPending_clock, event, held.pending, held.enabled]
    show (decide (n = 14913) ^^ (decide (14913 < n) && true)) = _
    rcases Nat.lt_trichotomy n 14913 with less | same | more
    · simp [Nat.ne_of_lt less]
      omega
    · simp [same]
    · simp [Nat.ne_of_gt more, more]
      omega
  · rw [apuRun_succ, loads, Apu.pulseLengthCounter_clock, held.enabled]
    rfl
  · have owes : (if 14913 < n then 1 else 0) + (decide (n = 14913)).toNat =
        if 14913 < n + 1 then 1 else 0 := by
      rcases Nat.lt_trichotomy n 14913 with less | same | more
      · rw [if_neg (by omega), if_neg (by omega), decide_eq_false (by omega)]
        rfl
      · rw [if_neg (by omega), if_pos (by omega), decide_eq_true same]
        rfl
      · rw [if_pos more, if_pos (by omega), decide_eq_false (by omega)]
        rfl
    rw [reference, held.reference, ← owes]
    rfl

/-- The load is held through the whole first sequence. -/
theorem loadHeld_run {n : ℕ} (after : 4 ≤ n) (within : n ≤ 29839) : LoadHeld n := by
  obtain ⟨more, rfl⟩ := Nat.exists_eq_add_of_le after
  induction more with
  | zero => exact ⟨rfl, rfl, rfl, rfl, rfl, rfl, rfl⟩
  | succ more ih =>
    exact (ih (Nat.le_add_right 4 more) (Nat.le_of_lt within)).step (Nat.le_add_right 4 more) within

/-- A load that ends right after a second event: nothing waits for the counter, and the
reference owes two. -/
theorem LoadHeld.lost {n : ℕ} (held : LoadHeld n) (past : 14913 < n)
    (load : loadHeld n = .loadOne) (ended : loadHeld (n + 1) = .idle)
    (ends : FrameSequencer.halfStep 29839 n = true) :
    ((apuRun loadHeld Apu.powerUp (n + 2)).pulseLengthCounter .one).toNat = 254 ∧
      (lengthReference loadHeld Apu.powerUp .one (n + 2)).counter = 252 := by
  have event := held.halfFrame .loadOne rfl
  rw [ends] at event
  have pending : ((apuRun loadHeld Apu.powerUp (n + 1)).lengthPair .one).pending = false := by
    rw [apuRun_succ, load, Apu.lengthPending_clock, event, held.pending, held.enabled,
      decide_eq_true past]
    rfl
  have counter : ((apuRun loadHeld Apu.powerUp (n + 1)).pulseLengthCounter .one).toNat = 254 := by
    rw [apuRun_succ, load, Apu.pulseLengthCounter_clock, held.enabled]
    rfl
  have reference : lengthReference loadHeld Apu.powerUp .one (n + 1) = ⟨true, false, 254, 2⟩ := by
    rw [lengthReference, load, event, held.reference, if_pos past]
    rfl
  constructor
  · have enabled : (apuRun loadHeld Apu.powerUp (n + 1)).status.pulseEnable .one = true := by
      rw [apuRun_succ, load]
      exact (ApuStatus.next_pulseEnable _ _ rfl _).trans held.enabled
    rw [apuRun_succ, ended, Apu.pulseLengthCounter_clock, pending, counter, enabled]
    cases ((apuRun loadHeld Apu.powerUp (n + 1)).pulse .one).regs.loopFlag <;> rfl
  · rw [lengthReference, reference, ended]
    rfl

/-- A load that is held from before one half-frame event until the next: the two events cancel,
and the counter counts neither. -/
theorem loadHeld_not_counted :
    WritesApart loadHeld ∧ Apu.powerUp.status.pulseEnable .one = false ∧
      ¬ LengthCounted loadHeld Apu.powerUp .one := by
  refine ⟨fun i j before writes later differ => ?_, rfl, fun counted => ?_⟩
  · have load : ∀ k, k ≠ 0 → (loadHeld k).cpuWren = true →
        3 ≤ k ∧ (loadHeld k).cpuAddr = 0x03 := by
      intro k later writes
      unfold loadHeld at writes ⊢
      rw [if_neg later] at writes ⊢
      split at writes
      · exact absurd writes Bool.false_ne_true
      · split at writes
        · rename_i late within
          rw [if_neg late, if_pos within]
          exact ⟨Nat.le_of_not_lt late, rfl⟩
        · exact absurd writes Bool.false_ne_true
    have second := load j (Nat.ne_of_gt (Nat.lt_of_le_of_lt (Nat.zero_le i) before)) later
    by_cases first : i = 0
    · omega
    · exact absurd ((load i first writes).2.trans second.2.symm) differ
  · have held := loadHeld_run (show 4 ≤ 29839 by decide) (Nat.le_refl 29839)
    have load := loadHeld_loads (show 4 ≤ 29839 by decide) (show 29839 < 29840 by decide)
    have counts := held.lost (show 14913 < 29839 by decide) load (if_neg (by decide)) rfl
    have last := counted.counter (29839 + 2)
    rw [counts.1, counts.2] at last
    exact absurd last (by decide)

end FpgaNes
