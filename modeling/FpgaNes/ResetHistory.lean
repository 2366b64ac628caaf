import FpgaNes.StatusAgreement
import FpgaNes.SequenceRestart
import FpgaNes.Vblank

/-!
# What a reset leaves of the past

Two histories end in a reset, and the same accesses follow. `RESET` clears requests whose handles
it leaves, and it leaves registers that the interrupt line, the status registers and the frame
events depend on. Where the handles are low and these registers agree, nothing of the past is
seen again; where a handle is high, a request that was answered long before is answered again.
The mode, the inhibit bit, the enable of the interrupt, the overflow flag and a half-frame event
that a disabled channel keeps come to be seen after every reset.
-/

namespace FpgaNes

open Hdl

namespace Chips

/-- After `RESET` has been high over two edges of `CPU_CLK` no pair disagrees, and under the same
inputs from then on two states show the same at every clock. -/
structure ErasesHistory (left right : Chips) : Prop where
  /-- No pair is left disagreeing. -/
  quiet : ∀ io n, ResetHold io n → (run io left n).Quiet ∧ (run io right n).Quiet
  /-- Whatever comes after the resets, both runs show the same. -/
  same : ∀ leftIo rightIo m n, ResetHold leftIo m → ResetHold rightIo n →
    ∀ later : ℕ → ChipInput, (∀ i, (later i).reset = false) → ∀ k,
      observe (later k) (run later (run leftIo left m) k) =
        observe (later k) (run later (run rightIo right n) k)

/-- The handles whose requests `RESET` clears are low, and no interrupt flag is owed. -/
structure HandlesLow (chips : Chips) : Prop where
  /-- The handle of the mode updates. -/
  mode : chips.apu.sequencer.modeHandler = false
  /-- The handle of the clears. -/
  clear : chips.apu.interrupt.clearHandle = false
  /-- The pair of the sets, which a reset leaves alone. -/
  set : chips.apu.setPair.pending = false
  /-- The handle of the reads of `$2002`. -/
  nmiClear : chips.ppu.nmi.ppuNmiClearHandle = false

/-- Two states agree on the registers that outlast a reset and that the status registers, the
interrupt line and the frame events come to show by themselves. -/
structure ReportsAgree (left right : Chips) : Prop where
  /-- The mode shows at the end of a sequence. -/
  mode : left.apu.status.frameCounterMode = right.apu.status.frameCounterMode
  /-- In mode one no flag is owed, until `$4017` is written. -/
  inhibit : left.apu.status.frameIrqInhibit = right.apu.status.frameIrqInhibit ∨
    left.apu.status.frameCounterMode = true
  /-- A half-frame event that a disabled channel keeps shows with its next load. -/
  length : ∀ channel, left.apu.staleLength channel = right.apu.staleLength channel
  /-- The enable of the interrupt line shows in the next vertical blank. -/
  nmiGenerate : left.ppu.cpu.nmiGenerate = right.ppu.cpu.nmiGenerate
  /-- The overflow flag shows at once. -/
  overflow : left.ppu.eval.spriteOverflow = right.ppu.eval.spriteOverflow

/-- Two states agree on the registers that outlast a reset and that a later sprite 0 hit or
overflow depends on. -/
structure RenderingAgree (left right : Chips) : Prop where
  /-- The fine X picks the background pixel. -/
  fineX : left.ppu.cpu.fineX = right.ppu.cpu.fineX
  /-- The sprite size decides which entries are in range. -/
  spriteSize : left.ppu.cpu.spriteSize = right.ppu.cpu.spriteSize
  /-- Whether any layer is enabled. -/
  rendering : left.ppu.cpu.rendering = right.ppu.cpu.rendering
  /-- Whether both layers are. -/
  hitting : left.ppu.cpu.hitting = right.ppu.cpu.hitting
  /-- With the hit disabled the window does not matter, until `$2001` is written. -/
  edges : left.ppu.cpu.edges = right.ppu.cpu.edges ∨ left.ppu.cpu.hitting = false
  /-- The byte of object memory that is written next. -/
  oamAddress : left.ppu.cpu.oamAddress = right.ppu.cpu.oamAddress
  /-- Rendering clears the flag on the first dot of the frame. -/
  possible : left.ppu.eval.sprite0HitPossible = right.ppu.eval.sprite0HitPossible ∨
    left.ppu.cpu.rendering = true
  /-- The flip bit of the slot that unit 0 is loaded with. -/
  flip : (left.ppu.eval.sprites 0 2).getLsbD 6 = (right.ppu.eval.sprites 0 2).getLsbD 6
  /-- The X coordinate of that slot. -/
  position : left.ppu.eval.sprites 0 3 = right.ppu.eval.sprites 0 3
  /-- The background pixels that are opaque, and the pattern bytes that are next. -/
  bg : left.ppu.bg.AgreeShifted right.ppu.bg
  /-- The leftmost background pixel shows where the flag stands and rendering is off: else it is
  dropped before the flag is set. -/
  leftmost : left.ppu.bg.opaquePixels = right.ppu.bg.opaquePixels ∨
    left.ppu.eval.sprite0HitPossible = false ∨ left.ppu.cpu.rendering = true
  /-- Unit 0. -/
  units : left.ppu.units.Agree right.ppu.units

variable {left right chips : Chips} {io : ℕ → ChipInput} {n : ℕ}

/-! ## The pairs -/

/-- What waits on the pairs after a reset: under a request that is cleared, the handle itself. -/
theorem pairs_after (hold : ResetHold io n) (chips : Chips) :
    (run io chips n).apu.modePair.pending = chips.apu.sequencer.modeHandler ∧
      (run io chips n).apu.clearPair.pending = chips.apu.interrupt.clearHandle ∧
      (run io chips n).apu.setPair.pending = chips.apu.setPair.pending ∧
      (run io chips n).ppu.waiting .nmiClear = chips.ppu.nmi.ppuNmiClearHandle := by
  have cleared := (Apu.run_cleared hold chips).1
  have ppu := Ppu.run_held hold chips
  refine ⟨?_, ?_, ?_, ?_⟩
  · rw [Apu.modePair, cleared.status, cleared.sequencer]
    exact Bool.false_xor _
  · rw [Apu.clearPair, cleared.status, cleared.interrupt]
    exact Bool.false_xor _
  · rw [Apu.setPair, cleared.sequencer, cleared.interrupt]
    rfl
  · rw [ppu]
    exact Bool.false_xor _

/-- No pair disagrees after a reset just when the handles were low before. -/
theorem quiet_after_iff (hold : ResetHold io n) :
    (run io chips n).Quiet ↔ chips.HandlesLow := by
  obtain ⟨mode, clear, set, nmiClear⟩ := pairs_after hold chips
  have ppu := Ppu.run_held hold chips
  constructor
  · intro quiet
    exact ⟨mode.symm.trans quiet.mode, clear.symm.trans quiet.clear, set.symm.trans quiet.set,
      nmiClear.symm.trans (quiet.ppu .nmiClear)⟩
  · intro low
    refine ⟨fun lane => ?_, mode.trans low.mode, clear.trans low.clear, set.trans low.set⟩
    cases lane with
    | nmiClear => exact nmiClear.trans low.nmiClear
    | write => rw [ppu]; rfl
    | read => rw [ppu]; rfl
    | load => rw [ppu]; rfl
    | inc => rw [ppu]; rfl

/-! ## The states after a reset -/

/-- The APU after two resets. -/
theorem ReportsAgree.apu_after (reports : ReportsAgree left right) (leftLow : left.HandlesLow)
    (rightLow : right.HandlesLow) {leftIo rightIo : ℕ → ChipInput} {m : ℕ}
    (leftHold : ResetHold leftIo m) (rightHold : ResetHold rightIo n) :
    (run leftIo left m).apu.Agree (run rightIo right n).apu := by
  obtain ⟨leftClear, leftEmpty⟩ := Apu.run_cleared leftHold left
  obtain ⟨rightClear, rightEmpty⟩ := Apu.run_cleared rightHold right
  have leftQuiet := (quiet_after_iff leftHold).2 leftLow
  have rightQuiet := (quiet_after_iff rightHold).2 rightLow
  constructor
  · rw [leftClear.status, rightClear.status]
    rfl
  · rw [leftClear.status, rightClear.status]
    rfl
  · rw [leftClear.status, rightClear.status]
    exact reports.mode
  · exact leftQuiet.mode.trans rightQuiet.mode.symm
  · exact leftQuiet.clear.trans rightQuiet.clear.symm
  · exact leftQuiet.set.trans rightQuiet.set.symm
  · rw [Apu.count, Apu.count, leftClear.sequencer, rightClear.sequencer]
  · rw [leftClear.interrupt, rightClear.interrupt]
  · rw [leftClear.status, rightClear.status]
    refine reports.inhibit.imp id fun one => ⟨one, ?_, leftQuiet.set⟩
    rw [leftClear.interrupt]
  · exact fun channel => (leftClear.halted channel).trans (rightClear.halted channel).symm
  · exact fun channel => (leftEmpty channel).trans (rightEmpty channel).symm
  · intro channel
    rw [leftClear.length, rightClear.length, reports.length]

/-- The PPU after two resets. -/
theorem RenderingAgree.ppu_after (renders : RenderingAgree left right)
    (reports : ReportsAgree left right) (leftLow : left.HandlesLow)
    (rightLow : right.HandlesLow) : left.ppu.cleared.Agree right.ppu.cleared where
  cpu := ⟨rfl, rfl, rfl, renders.fineX, reports.nmiGenerate, renders.spriteSize,
    renders.rendering, renders.hitting, renders.edges, renders.oamAddress, rfl⟩
  engine := rfl
  bg := ⟨renders.bg.pixels, renders.bg.latches⟩
  leftmost := by
    have starts (rendering : left.ppu.cpu.rendering = true) :
        right.ppu.cleared.startsEvaluation = true := by
      have also : right.ppu.cleared.renderEnable = true := renders.rendering.symm.trans rendering
      rw [Ppu.startsEvaluation, also]
      rfl
    rcases renders.leftmost with pixels | clear | rendering
    · exact .inl ⟨pixels, renders.bg.latches⟩
    · exact .inr (renders.possible.imp (fun same => same.symm.trans clear) starts)
    · exact .inr (.inr (starts rendering))
  units := renders.units
  eval := ⟨rfl, rfl, rfl, rfl, reports.overflow, renders.flip, renders.position⟩
  possible := by
    refine renders.possible.imp id fun rendering => ?_
    have also : right.ppu.cleared.renderEnable = true := renders.rendering.symm.trans rendering
    rw [Ppu.startsEvaluation, also]
    rfl
  pulse := rfl
  writeHandle := rfl
  nmi := by
    show (⟨false, _⟩ : NmiHandler) = ⟨false, _⟩
    rw [leftLow.nmiClear, rightLow.nmiClear]
  hit := rfl

/-- Survivors that agree, with the handles low, leave nothing of the past. -/
theorem RenderingAgree.erases (renders : RenderingAgree left right)
    (reports : ReportsAgree left right) (leftLow : left.HandlesLow)
    (rightLow : right.HandlesLow) : ErasesHistory left right := by
  refine ⟨fun io n hold => ⟨(quiet_after_iff hold).2 leftLow, (quiet_after_iff hold).2 rightLow⟩,
    fun leftIo rightIo m n leftHold rightHold later released k => ?_⟩
  have ppu : (run leftIo left m).ppu.Agree (run rightIo right n).ppu := by
    rw [Ppu.run_held leftHold left, Ppu.run_held rightHold right]
    exact renders.ppu_after reports leftLow rightLow
  have apu := reports.apu_after leftLow rightLow leftHold rightHold
  exact (Agree.run ⟨ppu, apu⟩ released k).observe (released k)

end Chips

/-! ## What the survivors show -/

namespace Apu

open FrameSequencer

variable {apu : Apu} {channel : Channel}

/-- An idle processor leaves the inhibit bit alone. -/
theorem idle_inhibit (n : ℕ) :
    (apuRun idle apu n).status.frameIrqInhibit = apu.status.frameIrqInhibit := by
  refine trace_held (fun apu : Apu => apu.status.frameIrqInhibit) 0 n (Nat.zero_le n) ?_
  intro i _ _
  exact (apuRun idle apu i).status.next_inhibit .idle

/-- The mode shows at the end of the sequence of mode zero. -/
theorem idle_half (still : apu.immediate = false) (first : apu.count = 0) :
    ((apuRun idle apu 29839).frameEvents .idle).half = !apu.status.frameCounterMode := by
  have bound : 29839 ≤ apu.lastCount := (lastCount_bounds _).1
  have counted := idle_count 29839 still (by omega)
  rw [still_half counted.2.1, counted.1, counted.2.2, first, lastCount]
  cases apu.status.frameCounterMode <;> rfl

/-- In mode zero the inhibit bit shows when the flag does. -/
theorem idle_irq (still : apu.immediate = false) (first : apu.count = 0)
    (answered : apu.setPair.pending = false) (clear : apu.interrupt.frameInterrupt = false)
    (zero : apu.status.frameCounterMode = false) :
    (apuRun idle apu 29841).frameIrq = !apu.status.frameIrqInhibit := by
  have low : ApuPort.idle.reset = false := rfl
  have last : apu.lastCount = 29839 := by rw [lastCount, zero]; rfl
  have counted := idle_count 29839 still (by omega)
  have rest : apu.FlagAtRest :=
    ⟨answered, fun set => absurd (clear.symm.trans set) Bool.false_ne_true⟩
  have unset : (apuRun idle apu 29839).setPair.pending = false := by
    rw [Bool.eq_false_iff]
    intro waiting
    obtain ⟨m, before, ends, -⟩ := apuRun_setPending rest (fun _ => low) 29839 waiting
    rw [endsModeZero, Bool.and_eq_true, decide_eq_true_eq] at ends
    have early := (idle_count m still (by omega)).1
    have late : 29839 ≤ (apuRun idle apu m).count := ends.2
    omega
  have mode : (apuRun idle apu 29839).status.frameCounterMode = false := by
    have kept : (apuRun idle apu 29839).status.frameCounterMode = apu.status.frameCounterMode :=
      (apuRun_count 29839 (fun _ => low) (fun _ _ => rfl) still (by omega)).2.2
    exact kept.trans zero
  have asked : (apuRun idle apu 29840).setPair.pending = true := by
    have clock := setPending_clock (apuRun idle apu 29839) low
    rw [unset, Bool.false_and, Bool.xor_false, endsModeZero, mode, counted.1, first] at clock
    exact clock
  have uncleared : (apuRun idle apu 29840).clearPair.pending = false :=
    clearPending_clock (apuRun idle apu 29839) low
  have flag : (apuRun idle apu 29841).interrupt.frameInterrupt = !apu.status.frameIrqInhibit := by
    have clock := flag_clock (apuRun idle apu 29840) low
    rw [asked, uncleared, if_pos rfl, Bool.not_false, Bool.true_and, idle_inhibit] at clock
    exact clock
  rw [frameIrq, flag, idle_inhibit, Bool.and_self]

/-- Enable a channel, load two in its length counter, and ask for a half-frame event at once. -/
def lengthProbe (channel : Channel) : ℕ → ApuPort
  | 0 => ⟨false, 0x03, 0x15, true, false⟩
  | 1 => ⟨false, 0x18, channel.base + 3, true, false⟩
  | 2 => ⟨false, 0x80, 0x17, true, false⟩
  | _ => .idle

/-- `RESET` stays low. -/
theorem lengthProbe_released (channel : Channel) (i : ℕ) :
    (lengthProbe channel i).reset = false := by
  match i with
  | 0 => rfl
  | 1 => rfl
  | 2 => rfl
  | _ + 3 => rfl

/-- The writes of the probe: only its first is of `$4015`, and none is of the first register of a
channel. -/
theorem lengthProbe_writes (channel : Channel) (i : ℕ) :
    (lengthProbe channel i).writes 0x15 = (i == 0) ∧
      (lengthProbe channel i).pulseLcLoad channel = (i == 1) ∧
      (lengthProbe channel i).writes 0x17 = (i == 2) ∧
      (lengthProbe channel i).writes channel.base = false := by
  match i with
  | 0 => cases channel <;> decide
  | 1 => cases channel <;> decide
  | 2 => cases channel <;> decide
  | _ + 3 => cases channel <;> exact ⟨rfl, rfl, rfl, rfl⟩

/-- The channel runs under the probe: enabled from its first write, and not halted. -/
theorem lengthProbe_runs (halted : (apu.pulse channel).regs.loopFlag = false) (i : ℕ) :
    (apuRun (lengthProbe channel) apu (i + 1)).status.pulseEnable channel = true ∧
      ((apuRun (lengthProbe channel) apu i).pulse channel).regs.loopFlag = false := by
  have low := lengthProbe_released channel
  have enable (i : ℕ) :
      (apuRun (lengthProbe channel) apu (i + 1)).status.pulseEnable channel = _ :=
    (apuRun (lengthProbe channel) apu i).status.next_pulseEnable _ (low i) channel
  have loop (i : ℕ) :
      ((apuRun (lengthProbe channel) apu (i + 1)).pulse channel).regs.loopFlag = _ :=
    ((apuRun (lengthProbe channel) apu i).pulse channel).regs.next_loopFlag _ channel (low i)
  induction i with
  | zero =>
    refine ⟨?_, halted⟩
    rw [enable, (lengthProbe_writes channel 0).1]
    cases channel <;> rfl
  | succ i ih =>
    rw [enable, loop, (lengthProbe_writes channel (i + 1)).1, (lengthProbe_writes channel i).2.2.2]
    exact ih

/-- The half-frame event of the probe: the write of `$4017` is the only one. -/
theorem lengthProbe_half (still : apu.modePair.pending = false) (first : apu.count = 0) (i : ℕ)
    (early : i ≤ 3) :
    (apuRun (lengthProbe channel) apu i).halfFrame (lengthProbe channel i) = (i == 3) := by
  have low := lengthProbe_released channel
  have served : apu.immediate = false := by rw [immediate_eq, still, Bool.false_and]
  have bound : 29839 ≤ apu.lastCount := (lastCount_bounds _).1
  have unwritten (i : ℕ) (below : i < 2) : (lengthProbe channel i).writes 0x17 = false := by
    rw [(lengthProbe_writes channel i).2.2.1, beq_eq_false_iff_ne]
    omega
  rcases Nat.lt_or_ge i 3 with before | last
  · have run := apuRun_count i low (fun j inside => unwritten j (by omega)) served (by omega)
    have last : (apuRun (lengthProbe channel) apu i).lastCount = apu.lastCount :=
      congrArg FrameSequencer.lastCount run.2.2
    rw [halfFrame, frameEvents_eq _ (low i), run.2.1, if_neg Bool.false_ne_true, last, run.1,
      first, halfStep, decide_eq_false (by omega), Bool.or_false]
    have inside : (i == 3) = false := beq_false_of_ne (by omega)
    rw [inside, beq_eq_false_iff_ne]
    omega
  · have three : i = 3 := by omega
    have pending (i : ℕ) : (apuRun (lengthProbe channel) apu (i + 1)).modePair.pending = _ :=
      pending_clock (apuRun (lengthProbe channel) apu i) (low i)
    have waiting : (apuRun (lengthProbe channel) apu 2).modePair.pending = false := by
      rw [pending, pending, unwritten 0 (by decide), unwritten 1 (by decide), apuRun_zero, still]
      rfl
    have owed : (apuRun (lengthProbe channel) apu 3).immediate = true := by
      have clock : (apuRun (lengthProbe channel) apu 3).immediate = _ :=
        immediate_clock (apuRun (lengthProbe channel) apu 2) (low 2)
      have set : (lengthProbe channel 2).cpuDataIn.getLsbD 7 = true := by
        cases channel <;> decide
      rw [waiting, set, (lengthProbe_writes channel 2).2.2.1] at clock
      exact clock
    rw [three, halfFrame, frameEvents_eq _ (low 3), owed]
    rfl

/-- An event that a disabled channel left waiting makes the length counter one less. -/
theorem lengthProbe_counter (still : apu.modePair.pending = false) (first : apu.count = 0)
    (disabled : apu.status.pulseEnable channel = false)
    (halted : (apu.pulse channel).regs.loopFlag = false) :
    ((apuRun (lengthProbe channel) apu 5).pulseLengthCounter channel).toNat =
      1 - (apu.lengthPair channel).pending.toNat := by
  have runs := lengthProbe_runs halted
  have half (i : ℕ) (early : i ≤ 3) :
      (apuRun (lengthProbe channel) apu i).halfFrame (lengthProbe channel i) = (i == 3) :=
    lengthProbe_half still first i early
  have pending (i : ℕ) : ((apuRun (lengthProbe channel) apu (i + 1)).lengthPair channel).pending =
      _ := lengthPending_clock (apuRun (lengthProbe channel) apu i) channel
  have counter (i : ℕ) :
      ((apuRun (lengthProbe channel) apu (i + 1)).pulseLengthCounter channel).toNat = _ :=
    pulseLengthCounter_clock (apuRun (lengthProbe channel) apu i) channel
  have loads (i : ℕ) := (lengthProbe_writes channel i).2.1
  have kept : ((apuRun (lengthProbe channel) apu 2).lengthPair channel).pending =
      (apu.lengthPair channel).pending := by
    rw [pending 1, pending 0, half 0 (by decide), half 1 (by decide), loads 0, loads 1,
      (runs 0).1, apuRun_zero, disabled]
    cases (apu.lengthPair channel).pending <;> rfl
  have loaded : ((apuRun (lengthProbe channel) apu 2).pulseLengthCounter channel).toNat = 2 := by
    have entry : (lengthProbe channel 1).entry.toNat = 2 := by cases channel <;> decide
    rw [counter 1, (runs 0).1, loads 1]
    exact entry
  have answered : ((apuRun (lengthProbe channel) apu 3).lengthPair channel).pending = false := by
    rw [pending 2, half 2 (by decide), (runs 1).1, loads 2]
    cases ((apuRun (lengthProbe channel) apu 2).lengthPair channel).pending <;> rfl
  have asked : ((apuRun (lengthProbe channel) apu 4).lengthPair channel).pending = true := by
    rw [pending 3, half 3 (by decide), answered]
    rfl
  rw [counter 4, (runs 3).1, loads 4, (runs 4).2, counter 3, (runs 2).1, loads 3, (runs 3).2,
    counter 2, (runs 1).1, loads 2, (runs 2).2, loaded, kept, answered, asked]
  cases (apu.lengthPair channel).pending <;> rfl

end Apu

namespace Chips

variable {left right chips : Chips} {io : ℕ → ChipInput} {n : ℕ}

/-- A clock with an access of the APU alone. -/
def withPort (port : ApuPort) : ChipInput :=
  ⟨port.reset, true, true, ⟨0, 0, false, false, false, 0, 0⟩, port, 0, 0⟩

/-- The half-frame event that such a clock shows. -/
theorem observe_half (port : ApuPort) (chips : Chips) :
    (observe (withPort port) chips).half = (chips.apu.frameEvents port).half := Bool.true_and _

/-- The interrupt line of a clock. -/
theorem observe_nmi (input : ChipInput) (chips : Chips) :
    (observe input chips).nmiN = chips.ppu.nmiN := rfl

/-- The overflow flag in the PPU status of a clock. -/
theorem observe_overflow (input : ChipInput) (chips : Chips) :
    (observe input chips).ppuStatus.getLsbD 5 = chips.ppu.eval.spriteOverflow := by
  show (BitVec.ofBool chips.ppu.nmi.nmiOccured ++ BitVec.ofBool chips.ppu.sprite0Hit ++
    BitVec.ofBool chips.ppu.eval.spriteOverflow ++ 0#5).getLsbD 5 = _
  cases chips.ppu.nmi.nmiOccured <;> cases chips.ppu.sprite0Hit <;>
    cases chips.ppu.eval.spriteOverflow <;> decide

/-- The bits of the APU status that such a clock shows. -/
theorem observe_irq (input : ChipInput) (chips : Chips) :
    (observe input chips).apuStatus.getLsbD 6 = chips.apu.frameIrq :=
  Apu.interruptBit_eq chips.apu (show apuStatusRead.readsStatus = true from rfl)

/-- A channel bit shows whether its length counter runs. -/
theorem observe_length (input : ChipInput) (chips : Chips) (channel : Channel) :
    (observe input chips).apuStatus.getLsbD channel.bit =
      (chips.apu.pulseLengthCounter channel != 0) :=
  Apu.channelBit_eq chips.apu channel (show apuStatusRead.readsStatus = true from rfl)

/-- Under such clocks the APU runs as it does alone. -/
theorem run_withPort (ports : ℕ → ApuPort) (start : Chips) (n : ℕ) :
    (run (fun i => withPort (ports i)) start n).apu = apuRun ports start.apu n := by
  induction n with
  | zero => rfl
  | succ n ih =>
    rw [apuRun_succ, ← ih]
    rfl

/-- Clocks with no access. -/
def idleClocks : ℕ → ChipInput := fun i => withPort (Apu.idle i)

/-- Under idle clocks the APU runs as it does under an idle processor. -/
theorem run_idle (start : Chips) (n : ℕ) :
    (run idleClocks start n).apu = apuRun Apu.idle start.apu n := run_withPort Apu.idle start n

/-- Under idle clocks the CPU interface is left alone, and so is a clear handle that agrees. -/
theorem idle_ppu (start : Chips) (quiet : start.ppu.nmiClearPending = false) (n : ℕ) :
    (run idleClocks start n).ppu.cpu = start.ppu.cpu ∧
      (run idleClocks start n).ppu.nmi.ppuNmiClearHandle =
        start.ppu.nmi.ppuNmiClearHandle := by
  induction n with
  | zero => exact ⟨rfl, rfl⟩
  | succ n ih =>
    refine ⟨ih.1, ?_⟩
    have unasked : (run idleClocks start n).ppu.nmiClearPending = false := by
      rw [Ppu.nmiClearPending, ih.1, ih.2]
      exact quiet
    show ((run idleClocks start n).ppu.nmiNext false).ppuNmiClearHandle = _
    rw [Ppu.nmiNext, if_neg Bool.false_ne_true, unasked, if_neg Bool.false_ne_true, ← ih.2]
    split
    · rfl
    · split <;> rfl

/-- Under idle clocks the beam moves on from the first dot. -/
theorem idle_beam (start : Chips) (rest : start.ppu.engine = ⟨0, 0, 0, 0, false⟩) (n : ℕ) :
    (run idleClocks start (n + 1)).ppu.engine =
      Engine.on (Beam.after 0 n) := by
  induction n with
  | zero => exact Ppu.engineNext_rest start.ppu rest
  | succ n ih => exact Ppu.engineNext_on _ 0 n ih

/-- The enable of the interrupt shows at the first vertical blank. -/
theorem idle_nmi (start : Chips) (rest : start.ppu.engine = ⟨0, 0, 0, 0, false⟩)
    (quiet : start.ppu.nmiClearPending = false) :
    (run idleClocks start 82184).ppu.nmiN = !start.ppu.cpu.nmiGenerate := by
  have unasked : (run idleClocks start 82183).ppu.nmiClearPending = false := by
    rw [Ppu.nmiClearPending, (idle_ppu start quiet 82183).1, (idle_ppu start quiet 82183).2]
    exact quiet
  have set : (run idleClocks start 82183).ppu.ppuNmiSetRequest = true :=
    (Nes.ppuNmiSetRequest_on (idle_beam start rest 82182)).mpr rfl
  have occured : (run idleClocks start 82184).ppu.nmi.nmiOccured = true := by
    show ((run idleClocks start 82183).ppu.nmiNext false).nmiOccured = true
    rw [Ppu.nmiNext, if_neg Bool.false_ne_true, unasked, if_neg Bool.false_ne_true, set,
      if_pos rfl]
  rw [Ppu.nmiN, occured, (idle_ppu start quiet 82184).1, Bool.and_true]

/-- A reset of two edges. -/
def heldReset : ℕ → ChipInput := fun _ => { withPort .idle with reset := true }

/-- Two clocks under it are a held reset. -/
theorem heldReset_hold : ResetHold heldReset 2 where
  reset _ _ := rfl
  unwritten _ _ := rfl
  unread _ _ := rfl
  edges := by decide

/-- Where history is erased, the handles were low. -/
theorem ErasesHistory.handlesLow (erases : ErasesHistory left right) :
    left.HandlesLow ∧ right.HandlesLow :=
  have quiet := erases.quiet heldReset 2 heldReset_hold
  ⟨(quiet_after_iff heldReset_hold).1 quiet.1, (quiet_after_iff heldReset_hold).1 quiet.2⟩

/-- Where history is erased, what some accesses of the APU show of one state is what they show of
the other. -/
theorem ErasesHistory.told (erases : ErasesHistory left right) (ports : ℕ → ApuPort)
    (released : ∀ i, (ports i).reset = false) (k : ℕ) (view : Observation → Bool)
    {first second : Bool}
    (ofLeft : view (observe (withPort (ports k))
      (run (fun i => withPort (ports i)) (run heldReset left 2) k)) = first)
    (ofRight : view (observe (withPort (ports k))
      (run (fun i => withPort (ports i)) (run heldReset right 2) k)) = second) :
    first = second := by
  have same := erases.same heldReset heldReset 2 2 heldReset_hold heldReset_hold
    (fun i => withPort (ports i)) released k
  rw [← ofLeft, ← ofRight, same]

/-- The sequencer after a reset with the handles low: at its start, and owing nothing. -/
theorem HandlesLow.start (low : chips.HandlesLow) :
    (run heldReset chips 2).apu.modePair.pending = false ∧
      (run heldReset chips 2).apu.count = 0 := by
  refine ⟨((quiet_after_iff heldReset_hold).2 low).mode, ?_⟩
  rw [Apu.count, (Apu.run_cleared heldReset_hold chips).1.sequencer]
  rfl

/-- No immediate edge follows. -/
theorem HandlesLow.still (low : chips.HandlesLow) :
    (run heldReset chips 2).apu.immediate = false := by
  rw [Apu.immediate_eq, low.start.1, Bool.false_and]

/-- The mode shows in the half-frame events. -/
theorem ErasesHistory.mode (erases : ErasesHistory left right) :
    left.apu.status.frameCounterMode = right.apu.status.frameCounterMode := by
  have shown (chips : Chips) (low : chips.HandlesLow) :
      (observe (withPort .idle) (run idleClocks (run heldReset chips 2) 29839)).half =
        !chips.apu.status.frameCounterMode := by
    have half := Apu.idle_half low.still low.start.2
    rw [(Apu.run_cleared heldReset_hold chips).1.status] at half
    rw [observe_half, run_idle]
    exact half
  exact Bool.not_inj (erases.told Apu.idle (fun _ => rfl) 29839 Observation.half
    (shown left erases.handlesLow.1) (shown right erases.handlesLow.2))

/-- In mode zero the inhibit bit shows in the flag. -/
theorem ErasesHistory.inhibit (erases : ErasesHistory left right) :
    left.apu.status.frameIrqInhibit = right.apu.status.frameIrqInhibit ∨
      left.apu.status.frameCounterMode = true := by
  cases mode : left.apu.status.frameCounterMode with
  | true => exact Or.inr rfl
  | false =>
    left
    have shown (chips : Chips) (low : chips.HandlesLow)
        (zero : chips.apu.status.frameCounterMode = false) :
        (observe (withPort .idle)
          (run idleClocks (run heldReset chips 2) 29841)).apuStatus.getLsbD 6 =
            !chips.apu.status.frameIrqInhibit := by
      have cleared := (Apu.run_cleared heldReset_hold chips).1
      have quiet := (quiet_after_iff heldReset_hold).2 low
      have clear : (run heldReset chips 2).apu.interrupt.frameInterrupt = false := by
        rw [cleared.interrupt]
      have mode : (run heldReset chips 2).apu.status.frameCounterMode = false := by
        rw [cleared.status]
        exact zero
      have irq := Apu.idle_irq low.still low.start.2 quiet.set clear mode
      rw [cleared.status] at irq
      rw [observe_irq, run_idle]
      exact irq
    exact Bool.not_inj (erases.told Apu.idle (fun _ => rfl) 29841
      (fun seen => seen.apuStatus.getLsbD 6) (shown left erases.handlesLow.1 mode)
      (shown right erases.handlesLow.2 (erases.mode.symm.trans mode)))

/-- A stale half-frame event shows in the length counter it is taken from. -/
theorem ErasesHistory.length (erases : ErasesHistory left right) (channel : Channel) :
    left.apu.staleLength channel = right.apu.staleLength channel := by
  have shown (chips : Chips) (low : chips.HandlesLow) :
      (observe (withPort .idle)
        (run (fun i => withPort (Apu.lengthProbe channel i)) (run heldReset chips 2)
          5)).apuStatus.getLsbD channel.bit = !chips.apu.staleLength channel := by
    have cleared := (Apu.run_cleared heldReset_hold chips).1
    have disabled : (run heldReset chips 2).apu.status.pulseEnable channel = false := by
      rw [cleared.status]
      rfl
    have counter := Apu.lengthProbe_counter low.start.1 low.start.2 disabled
      (cleared.halted channel)
    rw [cleared.length] at counter
    rw [observe_length, run_withPort]
    cases stale : chips.apu.staleLength channel with
    | true =>
      rw [stale] at counter
      exact bne_eq_false_iff_eq.mpr (BitVec.eq_of_toNat_eq counter)
    | false =>
      rw [stale] at counter
      refine bne_iff_ne.mpr fun zero => ?_
      rw [zero] at counter
      exact absurd counter (by decide)
  exact Bool.not_inj (erases.told (Apu.lengthProbe channel)
    (Apu.lengthProbe_released channel) 5 (fun seen => seen.apuStatus.getLsbD channel.bit)
    (shown left erases.handlesLow.1) (shown right erases.handlesLow.2))

/-- The enable of the interrupt shows on its line. -/
theorem ErasesHistory.nmiGenerate (erases : ErasesHistory left right) :
    left.ppu.cpu.nmiGenerate = right.ppu.cpu.nmiGenerate := by
  have shown (chips : Chips) (low : chips.HandlesLow) :
      (observe (withPort .idle) (run idleClocks (run heldReset chips 2) 82184)).nmiN =
        !chips.ppu.cpu.nmiGenerate := by
    have cleared := Ppu.run_held heldReset_hold chips
    have rest : (run heldReset chips 2).ppu.engine = ⟨0, 0, 0, 0, false⟩ := by
      rw [cleared]
      rfl
    have line := idle_nmi (run heldReset chips 2) rest
      (((quiet_after_iff heldReset_hold).2 low).ppu .nmiClear)
    rw [cleared] at line
    rw [observe_nmi]
    exact line
  exact Bool.not_inj (erases.told Apu.idle (fun _ => rfl) 82184 Observation.nmiN
    (shown left erases.handlesLow.1) (shown right erases.handlesLow.2))

/-- The overflow flag shows at once. -/
theorem ErasesHistory.overflow (erases : ErasesHistory left right) :
    left.ppu.eval.spriteOverflow = right.ppu.eval.spriteOverflow := by
  have shown (chips : Chips) :
      (observe (withPort .idle) (run heldReset chips 2)).ppuStatus.getLsbD 5 =
        chips.ppu.eval.spriteOverflow := by
    rw [observe_overflow, Ppu.run_held heldReset_hold chips]
    rfl
  exact erases.told Apu.idle (fun _ => rfl) 0 (fun seen => seen.ppuStatus.getLsbD 5)
    (shown left) (shown right)

/-- Where history is erased, what the chips come to show by themselves agrees. -/
theorem ErasesHistory.reports (erases : ErasesHistory left right) : ReportsAgree left right :=
  ⟨erases.mode, erases.inhibit, erases.length, erases.nmiGenerate, erases.overflow⟩

/-! ## When a reset erases the past -/

/-- A reset erases the past of two states when the handles are low in both, and the registers
that outlast it agree. It does so only if the handles are low, and the registers agree that the
chips come to show by themselves. -/
theorem erasesHistory (left right : Chips) :
    (left.HandlesLow ∧ right.HandlesLow ∧ ReportsAgree left right ∧ RenderingAgree left right →
      ErasesHistory left right) ∧
    (ErasesHistory left right →
      left.HandlesLow ∧ right.HandlesLow ∧ ReportsAgree left right) := by
  constructor
  · rintro ⟨leftLow, rightLow, reports, renders⟩
    exact renders.erases reports leftLow rightLow
  · intro erases
    exact ⟨erases.handlesLow.1, erases.handlesLow.2, erases.reports⟩

/-- The processor writes `$2006`. -/
def addressWrite : ℕ → ChipInput := fun _ =>
  { withPort .idle with ppuPort := ⟨0x21, 6, true, false, false, 0, 0⟩ }

/-- A half-written address is forgotten. -/
theorem addressWrite_erased :
    (run addressWrite powerUp 1).ppu.cpu.ppuLatch = true ∧
      ErasesHistory powerUp (run addressWrite powerUp 1) := by
  refine ⟨rfl, (erasesHistory powerUp (run addressWrite powerUp 1)).1 ⟨?_, ?_, ?_, ?_⟩⟩
  · exact ⟨rfl, rfl, rfl, rfl⟩
  · exact ⟨rfl, rfl, rfl, rfl⟩
  · exact ⟨rfl, Or.inl rfl, fun channel => by cases channel <;> rfl, rfl, rfl⟩
  · exact ⟨rfl, rfl, rfl, rfl, Or.inl rfl, rfl, Or.inl rfl, rfl, rfl, ⟨rfl, rfl⟩, Or.inl rfl,
      ⟨rfl, rfl, rfl⟩⟩

/-- The processor writes `$4017` with bit 7 set, and is idle after. -/
def modeOneWrite : ℕ → ChipInput
  | 0 => withPort ⟨false, 0x80, 0x17, true, false⟩
  | _ => withPort .idle

/-- After a write of `$4017` that has been answered, the reset clears its request and not its
handle: the answered write is performed again, on the first edge after the reset. -/
theorem modeOneWrite_repeated :
    (run modeOneWrite powerUp 2).ppu.cpu.oam = powerUp.ppu.cpu.oam ∧
      (run modeOneWrite powerUp 2).apu.modePair.pending = false ∧
      (observe (withPort .idle) (run heldReset powerUp 2)).half = false ∧
      (observe (withPort .idle) (run heldReset (run modeOneWrite powerUp 2) 2)).half = true ∧
      ¬ (run heldReset (run modeOneWrite powerUp 2) 2).Quiet ∧
      ¬ ErasesHistory powerUp (run modeOneWrite powerUp 2) := by
  refine ⟨rfl, rfl, rfl, rfl, fun quiet => ?_, fun erases => ?_⟩
  · exact absurd quiet.mode (by decide)
  · exact absurd erases.handlesLow.2.mode (by decide)

end Chips

end FpgaNes
