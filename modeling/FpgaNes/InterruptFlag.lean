import FpgaNes.FrameSequence

/-!
# The frame interrupt flag

The sequencer asks for the flag to be set and the status block asks for it to be cleared, over
a toggle handshake each. The handler answers on the next edge, a clear before a set. A read of
`$4015` returns the flag as it is on its own edge and clears it one edge later, so it takes
with it a set that arrives on the edge of the read.
-/

namespace FpgaNes

open FrameSequencer (lastCount_bounds)

namespace Apu

/-- The handshake of the clears. -/
def clearPair (apu : Apu) : Hdl.Handshake :=
  ⟨apu.status.frameInterruptClearRequest, apu.interrupt.clearHandle⟩

/-- The handshake of the sets. -/
def setPair (apu : Apu) : Hdl.Handshake :=
  ⟨apu.sequencer.frameIrqRequest, apu.interrupt.setHandle⟩

/-- The edge ends a sequence of mode zero. -/
def endsModeZero (apu : Apu) : Bool :=
  !apu.status.frameCounterMode && decide (FrameSequencer.lastCount false ≤ apu.count)

/-- The edge sets a flag that is clear: a set waits, no clear does, and nothing inhibits it. -/
def raises (apu : Apu) : Bool :=
  !apu.interrupt.frameInterrupt &&
    (!apu.clearPair.pending && (apu.setPair.pending && !apu.status.frameIrqInhibit))

/-- Bit 6 of the value that the port reads. -/
def interruptBit (apu : Apu) (port : ApuPort) : Bool := (apu.cpuDataOut port).getLsbD 6

variable (apu : Apu) {port : ApuPort}

/-! ## One edge -/

/-- A read of `$4015` returns the flag in bit 6, masked by the inhibit bit. -/
theorem interruptBit_eq (read : port.readsStatus = true) :
    apu.interruptBit port =
      (apu.interrupt.frameInterrupt && !apu.status.frameIrqInhibit) := by
  rw [interruptBit, cpuDataOut, if_pos read, (statusByte_bits _ _ _ _).1, frameIrq]

/-- The handler after a clock with `RESET` low. -/
theorem clock_interrupt (released : port.reset = false) :
    (apu.clock port).interrupt =
      apu.interrupt.next false apu.status.frameInterruptClearRequest
        apu.sequencer.frameIrqRequest apu.status.frameIrqInhibit := by
  rw [clock, released]

/-- The handler answers what waits, a clear first. -/
theorem interrupt_clock (released : port.reset = false) :
    (apu.clock port).interrupt =
      { frameInterrupt :=
          !apu.clearPair.pending &&
            if apu.setPair.pending then !apu.status.frameIrqInhibit
            else apu.interrupt.frameInterrupt
        clearHandle := apu.interrupt.clearHandle ^^ apu.clearPair.served true
        setHandle := apu.interrupt.setHandle ^^ apu.setPair.served (!apu.clearPair.pending) } := by
  have clears : (apu.status.frameInterruptClearRequest ^^ apu.interrupt.clearHandle) =
      apu.clearPair.pending := rfl
  have sets : (apu.sequencer.frameIrqRequest ^^ apu.interrupt.setHandle) =
      apu.setPair.pending := rfl
  rw [clock_interrupt apu released, FrameInterrupt.next, clears, sets, Hdl.Handshake.served,
    Hdl.Handshake.served]
  cases apu.clearPair.pending <;> cases apu.setPair.pending <;> simp

/-- The sequencer asks for a set when it ends a sequence of mode zero. -/
theorem frameEvents_irq (released : port.reset = false) :
    (apu.frameEvents port).irq = apu.endsModeZero := by
  rw [frameEvents_eq apu released, endsModeZero, lastCount, immediate_eq]
  cases apu.status.frameCounterMode with
  | false => rw [Bool.and_false, if_neg Bool.false_ne_true]
  | true => cases apu.modePair.pending <;> simp

/-- A clear waits after an edge when a read or an inhibiting write was on it. -/
theorem clearPending_clock (released : port.reset = false) :
    (apu.clock port).clearPair.pending = (port.readsStatus || port.inhibits) := by
  have asked : (apu.clock port).status.frameInterruptClearRequest = _ :=
    apu.status.next_clearRequest port released
  have pair : (apu.clock port).clearPair =
      apu.clearPair.step (port.readsStatus || port.inhibits) true := by
    rw [clearPair, asked, interrupt_clock apu released]
    rfl
  rw [pair, Hdl.Handshake.pending_step, Bool.not_true, Bool.and_false, Bool.xor_false]

/-- The pair of the sets makes a step of the handshake on each edge, whatever is accessed. -/
theorem setPair_clock (released : port.reset = false) :
    (apu.clock port).setPair =
      apu.setPair.step apu.endsModeZero (!apu.clearPair.pending) := by
  have asked : (apu.clock port).sequencer.frameIrqRequest =
      (apu.sequencer.frameIrqRequest ^^ apu.endsModeZero) := by
    rw [← frameEvents_irq apu released, frameEvents, ← Bool.xor_assoc, Bool.xor_self,
      Bool.false_xor]
  rw [setPair, asked, interrupt_clock apu released]
  rfl

/-- A set waits after an edge that ends a sequence, or when a clear went before it. -/
theorem setPending_clock (released : port.reset = false) :
    (apu.clock port).setPair.pending =
      (apu.endsModeZero ^^ (apu.setPair.pending && apu.clearPair.pending)) := by
  rw [setPair_clock apu released, Hdl.Handshake.pending_step, Bool.not_not]

/-- The flag after an edge. -/
theorem flag_clock (released : port.reset = false) :
    (apu.clock port).interrupt.frameInterrupt =
      (!apu.clearPair.pending &&
        if apu.setPair.pending then !apu.status.frameIrqInhibit
        else apu.interrupt.frameInterrupt) := by
  rw [interrupt_clock apu released]

end Apu

/-! ## Runs -/

/-- Nothing is owed to the flag, and a flag that is set is not inhibited, or about to be
cleared. -/
structure Apu.FlagAtRest (apu : Apu) : Prop where
  /-- No set waits. -/
  answered : apu.setPair.pending = false
  /-- A flag that is set under the inhibit bit is about to be cleared. -/
  shown : apu.interrupt.frameInterrupt = true → apu.status.frameIrqInhibit = true →
    apu.clearPair.pending = true

/-- The flag loses nothing in a run. -/
structure FlagAccounted (io : ℕ → ApuPort) (start : Apu) : Prop where
  /-- It rises with the inhibit bit clear, and after the end of a sequence of mode zero that
  only clears have held up since. -/
  raised : ∀ n, (apuRun io start n).interrupt.frameInterrupt = false →
    (apuRun io start (n + 1)).interrupt.frameInterrupt = true →
      (apuRun io start n).status.frameIrqInhibit = false ∧
        ∃ m < n, (apuRun io start m).endsModeZero = true ∧
          ∀ k, m < k → k < n → (apuRun io start k).clearPair.pending = true
  /-- A write of `$4017` with bit 6 clear leaves no clear waiting, and a set only as an edge without
  an access does: on the next edge the flag stays set where it is, and rises only for the end of a
  sequence. -/
  kept : ∀ n, (io n).writes 0x17 = true → (io n).cpuDataIn.getLsbD 6 = false →
    (apuRun io start (n + 1)).clearPair.pending = false ∧
      (apuRun io start (n + 1)).setPair = ((apuRun io start n).clock .idle).setPair ∧
      (apuRun io start (n + 2)).interrupt.frameInterrupt =
        ((apuRun io start (n + 1)).interrupt.frameInterrupt ||
          (apuRun io start (n + 1)).setPair.pending)
  /-- A read of `$4015` that clears it has reported it. -/
  reported : ∀ n, (io n).readsStatus = true →
    (apuRun io start (n + 1)).interrupt.frameInterrupt = true →
      (apuRun io start (n + 2)).interrupt.frameInterrupt = false →
        (apuRun io start n).interruptBit (io n) = true

section Runs

variable {io : ℕ → ApuPort} {start : Apu}

/-- A flag that is set and inhibited is about to be cleared, in every state of a run. -/
theorem apuRun_shown (rest : start.FlagAtRest) (released : ∀ i, (io i).reset = false) (n : ℕ) :
    (apuRun io start n).interrupt.frameInterrupt = true →
      (apuRun io start n).status.frameIrqInhibit = true →
        (apuRun io start n).clearPair.pending = true := by
  induction n with
  | zero => exact rest.shown
  | succ n ih =>
    rw [apuRun_succ, Apu.flag_clock _ (released n), Apu.clearPending_clock _ (released n)]
    show _ → ((apuRun io start n).status.next (io n)).frameIrqInhibit = true → _
    rw [ApuStatus.next_inhibit, ApuPort.inhibits]
    cases (io n).writes 0x17 with
    | true =>
      intro _ inhibit
      rw [if_pos rfl] at inhibit
      rw [Bool.true_and, inhibit, Bool.or_true]
    | false =>
      rw [if_neg Bool.false_ne_true]
      intro flag inhibit
      rw [inhibit, Bool.not_true, Bool.and_eq_true, Bool.not_eq_true'] at flag
      cases waiting : (apuRun io start n).setPair.pending with
      | true =>
        rw [waiting, if_pos rfl] at flag
        exact absurd flag.2 Bool.false_ne_true
      | false =>
        rw [waiting, if_neg Bool.false_ne_true] at flag
        exact absurd (flag.1.symm.trans (ih flag.2 inhibit)) Bool.false_ne_true

/-- A set that waits was asked for by the end of a sequence of mode zero, and clears have held
it up since. -/
theorem apuRun_setPending (rest : start.FlagAtRest) (released : ∀ i, (io i).reset = false)
    (n : ℕ) (waiting : (apuRun io start n).setPair.pending = true) :
    ∃ m < n, (apuRun io start m).endsModeZero = true ∧
      ∀ k, m < k → k < n → (apuRun io start k).clearPair.pending = true := by
  induction n with
  | zero => exact absurd (rest.answered.symm.trans waiting) Bool.false_ne_true
  | succ n ih =>
    rw [apuRun_succ, Apu.setPending_clock _ (released n)] at waiting
    cases ends : (apuRun io start n).endsModeZero with
    | true => exact ⟨n, Nat.lt_succ_self n, ends, fun k after before => by omega⟩
    | false =>
      rw [ends, Bool.false_xor, Bool.and_eq_true] at waiting
      obtain ⟨m, earlier, ended, held⟩ := ih waiting.1
      refine ⟨m, Nat.lt_succ_of_lt earlier, ended, fun k after before => ?_⟩
      rcases Nat.lt_succ_iff_lt_or_eq.mp before with inside | last
      · exact held k after inside
      · rw [last]
        exact waiting.2

/-- A read of `$4015` clears the flag on the next edge. -/
theorem flag_read (released : ∀ i, (io i).reset = false) (n : ℕ)
    (read : (io n).readsStatus = true) :
    (apuRun io start (n + 2)).interrupt.frameInterrupt = false := by
  rw [apuRun_succ _ _ (n + 1), Apu.flag_clock _ (released (n + 1)), apuRun_succ,
    Apu.clearPending_clock _ (released n), read]
  rfl

/-- The flag that a read finds set on the edge after it is one that it reported, or one that
was raised on its own edge. -/
theorem flag_after_read (rest : start.FlagAtRest) (released : ∀ i, (io i).reset = false) (n : ℕ)
    (read : (io n).readsStatus = true) :
    (apuRun io start (n + 1)).interrupt.frameInterrupt = true ∧
        (apuRun io start n).interruptBit (io n) = false ↔
      (apuRun io start n).raises = true := by
  have shown := apuRun_shown rest released n
  rw [apuRun_succ, Apu.flag_clock _ (released n), Apu.interruptBit_eq _ read, Apu.raises]
  cases flag : (apuRun io start n).interrupt.frameInterrupt <;>
    cases inhibit : (apuRun io start n).status.frameIrqInhibit <;>
      cases clear : (apuRun io start n).clearPair.pending <;>
        cases (apuRun io start n).setPair.pending <;> simp
  exact absurd (clear.symm.trans (shown flag inhibit)) Bool.false_ne_true

/-- The flag loses nothing in a run exactly when no read of `$4015` is on an edge that raises
it. -/
theorem flagAccounted_iff (rest : start.FlagAtRest) (released : ∀ i, (io i).reset = false) :
    FlagAccounted io start ↔
      ∀ n, (io n).readsStatus = true → (apuRun io start n).raises = false := by
  constructor
  · intro accounted n read
    apply Bool.eq_false_iff.mpr
    intro raises
    have lost := (flag_after_read rest released n read).mpr raises
    have told := accounted.reported n read lost.1 (flag_read released n read)
    exact Bool.false_ne_true (lost.2.symm.trans told)
  · intro apart
    constructor
    · intro n clear set
      rw [apuRun_succ, Apu.flag_clock _ (released n), clear, Bool.and_eq_true,
        Bool.not_eq_true'] at set
      cases waiting : (apuRun io start n).setPair.pending with
      | false =>
        rw [waiting, if_neg Bool.false_ne_true] at set
        exact absurd set.2 Bool.false_ne_true
      | true =>
        rw [waiting, if_pos rfl, Bool.not_eq_true'] at set
        exact ⟨set.2, apuRun_setPending rest released n waiting⟩
    · intro n written clear
      have unasked : (apuRun io start (n + 1)).clearPair.pending = false := by
        rw [apuRun_succ, Apu.clearPending_clock _ (released n),
          ApuPort.readsStatus_of_writes written, ApuPort.inhibits, clear, Bool.and_false]
        rfl
      have free : (apuRun io start (n + 1)).status.frameIrqInhibit = false := by
        show ((apuRun io start n).status.next (io n)).frameIrqInhibit = false
        rw [ApuStatus.next_inhibit, if_pos written, clear]
      refine ⟨unasked, ?_, ?_⟩
      · rw [apuRun_succ, Apu.setPair_clock _ (released n),
          Apu.setPair_clock _ (show ApuPort.idle.reset = false from rfl)]
      · rw [apuRun_succ _ _ (n + 1), Apu.flag_clock _ (released (n + 1)), unasked, free]
        cases (apuRun io start (n + 1)).setPair.pending with
        | true => rw [if_pos rfl, Bool.or_true, Bool.not_false, Bool.and_self]
        | false => rw [if_neg Bool.false_ne_true, Bool.or_false, Bool.not_false, Bool.true_and]
    · intro n read set _
      apply eq_true_of_ne_false
      intro missed
      have raises := (flag_after_read rest released n read).mp ⟨set, missed⟩
      exact Bool.false_ne_true ((apart n read).symm.trans raises)

end Runs

/-! ## One read after the first sequence -/

/-- A read of `$4015`. -/
def ApuPort.readStatus : ApuPort := ⟨false, 0, 0x15, false, true⟩

/-- A processor that reads `$4015` once. -/
def readStatusAt (time : ℕ) : ℕ → ApuPort :=
  fun i => if i = time then .readStatus else .idle

/-- Before that the processor is idle. -/
theorem readStatusAt_before {time i : ℕ} (before : i < time) : readStatusAt time i = .idle :=
  if_neg (Nat.ne_of_lt before)

/-- Then it reads the status. -/
theorem readStatusAt_self (time : ℕ) : readStatusAt time time = .readStatus := if_pos rfl

/-- `RESET` stays low. -/
theorem readStatusAt_released (time i : ℕ) : (readStatusAt time i).reset = false := by
  unfold readStatusAt
  split <;> rfl

/-- It reads the status then only. -/
theorem readStatusAt_reads {time i : ℕ} (read : (readStatusAt time i).readsStatus = true) :
    i = time := by
  unfold readStatusAt at read
  split at read
  · assumption
  · exact absurd read Bool.false_ne_true

/-- An APU that has powered up and has not ended its first sequence. -/
structure Apu.FirstSequence (time : ℕ) (apu : Apu) : Prop where
  /-- The clocks since power-up. -/
  count : apu.count = time
  /-- The sequence is of mode zero. -/
  mode : apu.status.frameCounterMode = false
  /-- The inhibit bit is clear. -/
  free : apu.status.frameIrqInhibit = false
  /-- The flag is clear. -/
  clear : apu.interrupt.frameInterrupt = false
  /-- No clear waits. -/
  clears : apu.clearPair.pending = false
  /-- No set waits. -/
  sets : apu.setPair.pending = false
  /-- No event is owed to a write. -/
  answered : apu.immediate = false

/-- A clock without an access goes on with the first sequence. -/
theorem Apu.FirstSequence.idle {time : ℕ} {apu : Apu} (first : apu.FirstSequence time)
    (early : time < 29839) : (apu.clock .idle).FirstSequence (time + 1) := by
  have low : ApuPort.idle.reset = false := rfl
  have last : apu.lastCount = 29839 := by
    rw [Apu.lastCount, first.mode]
    rfl
  have short : FrameSequencer.lastCount false = 29839 := rfl
  have running : apu.endsModeZero = false := by
    rw [Apu.endsModeZero, first.count, short, decide_eq_false (Nat.not_le.mpr early),
      Bool.and_false]
  constructor
  · rw [count_clock apu low, first.answered, if_neg Bool.false_ne_true, last, first.count,
      FrameSequencer.countNext, if_neg (Nat.not_le.mpr early)]
  · exact (apu.status.next_mode .idle).trans first.mode
  · exact (apu.status.next_inhibit .idle).trans first.free
  · rw [flag_clock apu low, first.sets, first.clear, if_neg Bool.false_ne_true, Bool.and_false]
  · exact clearPending_clock apu low
  · rw [setPending_clock apu low, running, first.sets, Bool.false_and, Bool.xor_false]
  · exact immediate_clock apu low

/-- The first sequence of a processor that reads later. -/
theorem firstSequence_run {time n : ℕ} (early : n ≤ 29839) (later : n ≤ time) :
    (apuRun (readStatusAt time) Apu.powerUp n).FirstSequence n := by
  induction n with
  | zero => exact ⟨rfl, rfl, rfl, rfl, rfl, rfl, rfl⟩
  | succ n ih =>
    rw [apuRun_succ, readStatusAt_before later]
    exact (ih (Nat.le_of_lt early) (Nat.le_of_lt later)).idle early

/-- The edge after the end of the first sequence sets the flag. -/
theorem firstSequence_raises {time : ℕ} (later : 29840 ≤ time) :
    (apuRun (readStatusAt time) Apu.powerUp 29840).raises = true := by
  have first := firstSequence_run (Nat.le_refl 29839) (Nat.le_of_lt later)
  have low : ApuPort.idle.reset = false := rfl
  have ends : (apuRun (readStatusAt time) Apu.powerUp 29839).endsModeZero = true := by
    rw [Apu.endsModeZero, first.mode, first.count]
    rfl
  rw [apuRun_succ, readStatusAt_before later]
  generalize apuRun (readStatusAt time) Apu.powerUp 29839 = apu at first ends ⊢
  have free : (apu.clock .idle).status.frameIrqInhibit = false :=
    (apu.status.next_inhibit .idle).trans first.free
  have clears : (apu.clock .idle).clearPair.pending = false := apu.clearPending_clock low
  rw [Apu.raises, apu.flag_clock low, apu.setPending_clock low, clears, free, ends, first.sets,
    first.clear]
  cases apu.clearPair.pending <;> rfl

/-- A read on the edge after the flag is raised: nothing is lost. -/
theorem readAfterRaise_accounted : FlagAccounted (readStatusAt 29841) Apu.powerUp := by
  refine (flagAccounted_iff ⟨rfl, fun flag => absurd flag Bool.false_ne_true⟩
    (readStatusAt_released 29841)).mpr fun n read => ?_
  rw [readStatusAt_reads read]
  have raises := firstSequence_raises (show 29840 ≤ 29841 by decide)
  have low : ApuPort.idle.reset = false := rfl
  rw [apuRun_succ, readStatusAt_before (show 29840 < 29841 by decide)]
  generalize apuRun (readStatusAt 29841) Apu.powerUp 29840 = apu at raises ⊢
  rw [Apu.raises, Bool.and_eq_true, Bool.and_eq_true, Bool.and_eq_true, Bool.not_eq_true'] at raises
  have set : (apu.clock .idle).interrupt.frameInterrupt = true := by
    rw [apu.flag_clock low, raises.2.1, raises.2.2.1, raises.2.2.2]
    rfl
  rw [Apu.raises, set, Bool.not_true, Bool.false_and]

/-- A read on the edge that raises the flag reports it clear, and clears it. -/
theorem readOnRaise_lost : ¬ FlagAccounted (readStatusAt 29840) Apu.powerUp := by
  intro accounted
  have released := readStatusAt_released 29840
  have rest : Apu.powerUp.FlagAtRest := ⟨rfl, fun flag => absurd flag Bool.false_ne_true⟩
  have read : (readStatusAt 29840 29840).readsStatus = true := by
    rw [readStatusAt_self]
    rfl
  have lost := (flag_after_read rest released 29840 read).mpr
    (firstSequence_raises (Nat.le_refl 29840))
  have told := accounted.reported 29840 read lost.1 (flag_read released 29840 read)
  exact Bool.false_ne_true (lost.2.symm.trans told)

end FpgaNes
