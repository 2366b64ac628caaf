import FpgaNes.Hdl.Progress
import FpgaNes.T65.Sequence
import FpgaNes.T65.Entry

/-!
# The processor: non-maskable interrupts

A falling edge of `NMI_n` that the processor has seen is served within fifteen machine cycles,
whatever opcodes it finds, and is served once.
-/

namespace FpgaNes

open Hdl
open Mos6502 (nmiVector)

namespace T65

variable {s : T65} {pins : Pins} {di : Byte}

/-- `NMI_n` falls between two samples of the processor, which takes none in the first cycle of a
branch. -/
def nmiFalls (pins : Pins) (s : T65) : Bool :=
  s.nmiNO && !pins.nmiN && !s.branching s.micro.toMoves

/-- An `NMI` that has come waits for the end of an instruction, or has been accepted and waits
for the choice of the vector. -/
structure NmiOwed (s : T65) : Prop where
  /-- The processor is in a state of the microcode. -/
  sequenced : Sequenced s
  /-- No reset is being entered. -/
  rstCycle : s.rstCycle = false
  /-- The edge has been seen and not been answered yet, or its sequence is under way. -/
  request : s.nmiAct = true ∧ s.nmiEntered = false ∨
    s.nmiCycle = true ∧ (s.mCycle = 0 ∨ s.ir = 0 ∧ s.mCycle ≤ 4)

/-- The processor is about to jump through the vector of `NMI`: it reads its two bytes and
fetches the opcode they point at. -/
structure LoadsNmi (s : T65) : Prop where
  /-- The cycle is a read. -/
  wrN : s.wrN = true
  /-- It reads the low byte of the vector. -/
  address : s.address = nmiVector
  /-- The next cycle reads the high byte. -/
  second : ∀ pins di, (s.clock pins di).wrN = true ∧ (s.clock pins di).address = nmiVector + 1
  /-- The jump is to the word of both. -/
  jump : ∀ pins di pins' di', let t := (s.clock pins di).clock pins' di'
    t.sync = true ∧ t.wrN = true ∧ t.address = di' ++ di

/-- The machine cycles up to the one that chooses the vector of an owed `NMI`, at most. -/
def nmiRank (s : T65) : ℕ :=
  if s.mCycle = 0 then if s.nmiCycle then 4 else 12
  else if s.ir = 0 then if s.mCycle ≤ 4 then 4 - s.mCycle.toNat else 19 - s.mCycle.toNat
  else 5 + (s.moves 0).lCycle.toNat - s.mCycle.toNat

/-- A machine cycle of opcode zero is one of an interrupt entry. -/
theorem entering_self (ir : s.ir = 0) : Entering s.rstCycle s.mCycle s.regs s :=
  ⟨ir, rfl, rfl, rfl⟩

/-- An interrupt entry ends with its seventh machine cycle. -/
theorem entry_done (ir : s.ir = 0) : s.done s.micro.toMoves = (s.mCycle == 6) := by
  have cycles : ∀ (taken : Bool) (c : Cycle), let m := (mcode 0 false taken c).toMoves
      m.lCycle = 6 ∧ m.breakAtNA = false ∧ m.pcAdd = false := by
    decide
  obtain ⟨last, breakAtNA, pcAdd⟩ := cycles (MCode.branch s.ir s.p) s.mCycle
  rw [micro, ir, mcode_brk, done, breaks]
  rw [ir] at last breakAtNA pcAdd
  rw [last, breakAtNA, pcAdd]
  exact Bool.or_false _

/-- The vector latch in the cycle that chooses it. -/
theorem vector_nmi (rst : s.rstCycle = false) (fourth : s.mCycle = 4)
    (taken : s.nmiCycle = true ∨ s.nmiAct = true) : s.vector = 0b010 := by
  rw [vector, rst, fourth]
  rcases taken with cycle | act
  · rw [cycle]
    rfl
  · rw [act]
    cases s.nmiCycle <;> rfl

/-- The cycle that chooses the vector pushes the flags. -/
theorem Sequenced.pushes (h : Sequenced s) (ir : s.ir = 0) (fourth : s.mCycle = 4) :
    s.setAddrToR = .sp := by
  have follows := h.follows (by rw [fourth]; decide)
  rw [follows, moves, ir, fourth, mcode_brk]
  cases MCode.branch 0 s.p <;> decide

/-- The cycle that chooses the vector of `NMI` leads to the jump through it. -/
theorem loads_nmi (h : Sequenced s) (ir : s.ir = 0) (fourth : s.mCycle = 4)
    (rst : s.rstCycle = false) (chosen : s.vector = 0b010) (pins : Pins) (di : Byte) :
    LoadsNmi (s.clock pins di) := by
  have entering := entering_self ir
  rw [fourth, rst] at entering
  have stack := h.pushes ir fourth
  have pushed := entering.next ⟨3, by decide⟩ rfl (by decide) pins di
  generalize s.clock pins di = s₅ at pushed
  have fifth := pushed.entering
  have again : s₅.vector = 0b010 := by
    rw [vector, fifth.rstCycle, pushed.nmiEntered, chosen]
    cases s₅.nmiCycle <;> simp
  have next (pins : Pins) (di : Byte) := fifth.next ⟨4, by decide⟩ rfl (by decide) pins di
  refine ⟨pushed.wrN, ?_, fun pins di => ⟨(next pins di).wrN, ?_⟩, fun pins di pins' di' => ?_⟩
  · rw [address_ba pushed.setAddrToR, pushed.bah, pushed.bal, stack, chosen]
    rfl
  · rw [address_ba (next pins di).setAddrToR, (next pins di).bah, (next pins di).bal,
      pushed.setAddrToR, again]
    rfl
  · have sixth := (next pins di).entering
    have dl : (s₅.clock pins di).dl = di := (next pins di).dl
    have masked : (s₅.clock pins di).p.i = true :=
      congrArg (fun r : Mos6502.Regs => r.flags.i) sixth.regs
    obtain ⟨boundary, regs, -⟩ := Entering.finish sixth masked pins' di'
    refine ⟨beq_of_eq boundary.sync, boundary.wrN, boundary.address.trans ?_⟩
    rw [dl] at regs
    exact congrArg Mos6502.Regs.pc regs

/-- A request that is not being answered stays while no entry accepts it. -/
theorem nmiAct_waits (request : s.nmiAct = true) (unanswered : s.nmiEntered = false)
    (kept : s.done s.micro.toMoves = false ∨ s.ir = 0) : (s.clock pins di).nmiAct = true := by
  show s.nmiActNext pins s.micro.toMoves = true
  rw [nmiActNext, unanswered, takesNmi, request]
  rcases kept with inside | entry
  · rw [inside]
    simp
  · rw [entry]
    simp

/-- Away from the cycle that chooses a vector nothing is answered. -/
theorem nmiEntered_other (other : s.ir ≠ 0 ∨ s.mCycle ≠ 4) :
    (s.clock pins di).nmiEntered = false := by
  show (s.ir == 0 && s.vector == 0b010 && s.mCycle == 4) = false
  rcases other with ir | cycle
  · rw [beq_false_of_ne ir]
    rfl
  · rw [beq_false_of_ne cycle, Bool.and_false]

/-- The reset cycle ends for good. -/
theorem rstCycle_clear (rst : s.rstCycle = false) : (s.clock pins di).rstCycle = false := by
  show (s.rstCycle && !s.done s.micro.toMoves) = false
  rw [rst]
  rfl

/-- A machine cycle of an opcode that is not its last, but for the opcode fetch. -/
theorem clock_inside (inside : s.mCycle ≠ 0) (goes : s.done s.micro.toMoves = false) (pins : Pins)
    (di : Byte) :
    (s.clock pins di).mCycle = s.mCycle + 1 ∧ (s.clock pins di).ir = s.ir ∧
      (s.clock pins di).nmiCycle = s.nmiCycle := by
  refine ⟨?_, ?_, ?_⟩
  · show (if s.done s.micro.toMoves then 0 else s.mCycle + 1) = _
    rw [goes]
    rfl
  · show (if s.mCycle == 0 then _ else s.ir) = s.ir
    rw [beq_false_of_ne inside]
    rfl
  · show (if s.done s.micro.toMoves then _ else s.nmiCycle) = _
    rw [goes]
    rfl

/-- A machine cycle that is the last of its opcode. -/
theorem clock_last (done : s.done s.micro.toMoves = true) (pins : Pins) (di : Byte) :
    (s.clock pins di).mCycle = 0 ∧ (s.clock pins di).nmiCycle = s.takesNmi := by
  constructor
  · show (if s.done s.micro.toMoves then 0 else s.mCycle + 1) = 0
    rw [done]
    rfl
  · show (if s.done s.micro.toMoves then s.takesNmi else _) = _
    rw [done]
    rfl

/-- The opcode fetch starts the entry of an accepted `NMI`, or an instruction that it waits
for. -/
theorem NmiOwed.fetch (h : NmiOwed s) (first : s.mCycle = 0) (pins : Pins) (di : Byte) :
    NmiOwed (s.clock pins di) ∧ nmiRank (s.clock pins di) < nmiRank s := by
  have sequenced := h.sequenced.clock pins di
  have rst : (s.clock pins di).rstCycle = false := rstCycle_clear h.rstCycle
  have goes : s.done s.micro.toMoves = false := by
    by_contra done
    exact done_inside s (Bool.eq_true_of_not_eq_false done) first
  have mCycle : (s.clock pins di).mCycle = 1 := by
    show (if s.done s.micro.toMoves then 0 else s.mCycle + 1) = 1
    rw [goes, first]
    rfl
  have nmiCycle : (s.clock pins di).nmiCycle = s.nmiCycle := by
    show (if s.done s.micro.toMoves then _ else s.nmiCycle) = _
    rw [goes]
    rfl
  cases taken : s.nmiCycle with
  | true =>
    have ir : (s.clock pins di).ir = 0 := by
      show (if s.mCycle == 0 then if s.interrupted then 0 else di else s.ir) = 0
      rw [first, interrupted, taken, Bool.or_true]
      rfl
    refine ⟨⟨sequenced, rst, .inr ⟨nmiCycle.trans taken, .inr ⟨ir, ?_⟩⟩⟩, ?_⟩
    · rw [mCycle]
      decide
    · rw [nmiRank, nmiRank, mCycle, ir, first, taken]
      simp
  | false =>
    obtain ⟨request, unanswered⟩ : s.nmiAct = true ∧ s.nmiEntered = false :=
      h.request.resolve_right fun accepted => Bool.false_ne_true (taken.symm.trans accepted.1)
    refine ⟨⟨sequenced, rst, .inl ⟨nmiAct_waits request unanswered (.inl goes),
      nmiEntered_other (.inr (by rw [first]; decide))⟩⟩, ?_⟩
    have top := ((s.clock pins di).moves 0).lCycle.isLt
    rw [nmiRank, nmiRank, mCycle, first, taken]
    simp
    split <;> omega

/-- A machine cycle of an interrupt entry chooses the vector of an owed `NMI`, or comes before or
after the choice. -/
theorem NmiOwed.entry (h : NmiOwed s) (inside : s.mCycle ≠ 0) (ir : s.ir = 0) (pins : Pins)
    (di : Byte) :
    LoadsNmi (s.clock pins di) ∨
      NmiOwed (s.clock pins di) ∧ nmiRank (s.clock pins di) < nmiRank s := by
  have sequenced := h.sequenced.clock pins di
  have rst : (s.clock pins di).rstCycle = false := rstCycle_clear h.rstCycle
  have done := entry_done ir
  have top : s.mCycle ≤ 6 := by
    have room := h.sequenced.cycle
    have last : (s.moves 0).lCycle = 6 := by
      rw [moves, ir, mcode_brk]
      cases MCode.branch 0 s.p <;> rfl
    rwa [last] at room
  by_cases last : s.mCycle = 6
  · have request := h.request.resolve_right fun accepted => by
      have early := (accepted.2.resolve_left inside).2
      rw [last] at early
      exact absurd early (by decide)
    rw [last] at done
    obtain ⟨mCycle, nmiCycle⟩ := clock_last done pins di
    refine .inr ⟨⟨sequenced, rst, .inl ⟨nmiAct_waits request.1 request.2 (.inr ir),
      nmiEntered_other (.inr (by rw [last]; decide))⟩⟩, ?_⟩
    rw [takesNmi, ir] at nmiCycle
    rw [nmiRank, nmiRank, mCycle, nmiCycle, ir, last]
    simp
  · have goes : s.done s.micro.toMoves = false := done.trans (beq_false_of_ne last)
    obtain ⟨mCycle, ir', nmiCycle⟩ := clock_inside inside goes pins di
    by_cases fourth : s.mCycle = 4
    · left
      apply loads_nmi h.sequenced ir fourth h.rstCycle
      exact vector_nmi h.rstCycle fourth (h.request.symm.imp And.left And.left)
    · refine .inr ⟨⟨sequenced, rst, ?_⟩, ?_⟩
      · refine h.request.imp (fun request => ?_) fun accepted => ?_
        · exact ⟨nmiAct_waits request.1 request.2 (.inr ir), nmiEntered_other (.inr fourth)⟩
        · rw [nmiCycle, mCycle, ir']
          have early := (accepted.2.resolve_left inside).2
          exact ⟨accepted.1, .inr ⟨ir, by bv_omega⟩⟩
      · rw [nmiRank, nmiRank, mCycle, ir', ir]
        have wrap : s.mCycle + 1 ≠ 0 := by bv_omega
        simp only [inside, wrap, if_true, if_false]
        split <;> split <;> bv_omega

/-- A machine cycle of another opcode accepts an owed `NMI` when it is the last. -/
theorem NmiOwed.instruction (h : NmiOwed s) (inside : s.mCycle ≠ 0) (ir : s.ir ≠ 0) (pins : Pins)
    (di : Byte) :
    NmiOwed (s.clock pins di) ∧ nmiRank (s.clock pins di) < nmiRank s := by
  have sequenced := h.sequenced.clock pins di
  have rst : (s.clock pins di).rstCycle = false := rstCycle_clear h.rstCycle
  have room := h.sequenced.cycle
  obtain ⟨request, unanswered⟩ : s.nmiAct = true ∧ s.nmiEntered = false :=
    h.request.resolve_right fun accepted =>
      accepted.2.elim inside fun early => ir early.1
  cases done : s.done s.micro.toMoves with
  | true =>
    obtain ⟨mCycle, nmiCycle⟩ := clock_last done pins di
    have accepted : (s.clock pins di).nmiCycle = true := by
      rw [nmiCycle, takesNmi, request]
      exact bne_iff_ne.mpr ir
    refine ⟨⟨sequenced, rst, .inr ⟨accepted, .inl mCycle⟩⟩, ?_⟩
    rw [nmiRank, nmiRank, mCycle, accepted]
    simp only [inside, ir, if_true, if_false]
    bv_omega
  | false =>
    obtain ⟨mCycle, ir', nmiCycle⟩ := clock_inside inside done pins di
    refine ⟨⟨sequenced, rst, .inl ⟨nmiAct_waits request unanswered (.inl done),
      nmiEntered_other (.inl ir)⟩⟩, ?_⟩
    have goes : s.mCycle ≠ (s.moves 0).lCycle := by
      rw [T65.done, Bool.or_eq_false_iff, beq_eq_false_iff_ne] at done
      rw [← (moves_bounded s s.mCycle).1]
      exact done.1
    have wrap : s.mCycle + 1 ≠ 0 := by bv_omega
    rw [nmiRank, nmiRank, mCycle, ir', moves_clock s inside]
    simp only [inside, wrap, ir, if_false]
    bv_omega

/-- A machine cycle serves an owed `NMI` or brings it nearer. -/
theorem NmiOwed.next (h : NmiOwed s) (pins : Pins) (di : Byte) :
    LoadsNmi (s.clock pins di) ∨
      NmiOwed (s.clock pins di) ∧ nmiRank (s.clock pins di) < nmiRank s := by
  by_cases first : s.mCycle = 0
  · exact .inr (h.fetch first pins di)
  · by_cases ir : s.ir = 0
    · exact h.entry first ir pins di
    · exact .inr (h.instruction first ir pins di)

/-- An owed `NMI` is never more than fifteen machine cycles away. -/
theorem nmiRank_le (s : T65) : nmiRank s ≤ 14 := by
  have top := (s.moves 0).lCycle.isLt
  rw [nmiRank]
  split
  · split <;> decide
  · next inside =>
    have positive : s.mCycle.toNat ≠ 0 := fun zero => inside (BitVec.eq_of_toNat_eq zero)
    split
    · split <;> bv_omega
    · omega

/-- A falling edge is owed an entry, or comes while one chooses its vector. -/
theorem nmiFalls_owed (h : Sequenced s) (rst : s.rstCycle = false)
    (unanswered : s.nmiEntered = false) (falls : s.nmiFalls pins = true) (di : Byte) :
    LoadsNmi (s.clock pins di) ∨ NmiOwed (s.clock pins di) := by
  have request : (s.clock pins di).nmiAct = true := by
    show s.nmiActNext pins s.micro.toMoves = true
    rw [nmiActNext, unanswered, if_neg Bool.false_ne_true]
    exact if_pos falls
  cases answered : (s.clock pins di).nmiEntered with
  | true =>
    have chosen : (s.ir == 0 && s.vector == 0b010 && s.mCycle == 4) = true := answered
    rw [Bool.and_eq_true, Bool.and_eq_true, beq_iff_eq, beq_iff_eq, beq_iff_eq] at chosen
    exact .inl (loads_nmi h chosen.1.1 chosen.2 rst chosen.1.2 pins di)
  | false =>
    exact .inr ⟨h.clock pins di, rstCycle_clear rst, .inl ⟨request, answered⟩⟩

/-! ## The account of requests -/

/-- An interrupt entry reads the first byte of the vector of `NMI`. -/
def entersNmi (s : T65) : Bool := s.ir == 0 && s.mCycle == 5 && s.address == nmiVector

/-- An `NMI` has been accepted, and its entry has not chosen the vector. -/
def nmiAccepted (s : T65) : Bool := s.nmiCycle && !(s.ir == 0 && 5 ≤ s.mCycle)

/-- The requests of `NMI` that have not had their entry. -/
def nmiTokens (s : T65) : ℕ := (s.nmiAct && !s.nmiEntered).toNat + s.nmiAccepted.toNat

/-- An answer to `NMI` is given in the cycle after the choice of the vector, or is left from
before a reset. -/
def Answers (s : T65) : Prop :=
  s.nmiEntered = true → s.ir = 0 ∧ (s.mCycle = 5 ∨ s.rstCycle = true)

/-- The answer to `NMI` is the choice of its vector. -/
theorem nmiEntered_iff : (s.clock pins di).nmiEntered = true ↔
    s.ir = 0 ∧ s.mCycle = 4 ∧ s.vector = 0b010 := by
  show (s.ir == 0 && s.vector == 0b010 && s.mCycle == 4) = true ↔ _
  rw [Bool.and_eq_true, Bool.and_eq_true, beq_iff_eq, beq_iff_eq, beq_iff_eq]
  constructor
  · rintro ⟨⟨ir, vector⟩, fourth⟩
    exact ⟨ir, fourth, vector⟩
  · rintro ⟨ir, fourth, vector⟩
    exact ⟨⟨ir, vector⟩, fourth⟩

/-- The processor reads the vector of `NMI` after it has answered, and only then. -/
theorem entersNmi_clock (h : Sequenced s) (pins : Pins) (di : Byte) :
    (s.clock pins di).entersNmi = (s.clock pins di).nmiEntered := by
  by_cases choice : s.ir = 0 ∧ s.mCycle = 4
  · obtain ⟨ir, fourth⟩ := choice
    have entering := entering_self ir
    rw [fourth] at entering
    have stack := h.pushes ir fourth
    have pushed := entering.next ⟨3, by decide⟩ rfl (by decide) pins di
    generalize s.clock pins di = t at pushed
    rw [entersNmi, pushed.entering.ir, pushed.entering.mCycle, address_ba pushed.setAddrToR,
      pushed.bah, pushed.bal, stack, pushed.nmiEntered, vector]
    split
    · rfl
    · split <;> rfl
  · have unanswered : (s.clock pins di).nmiEntered = false := by
      apply nmiEntered_other
      by_contra both
      rw [not_or, not_not, not_not] at both
      exact choice both
    rw [unanswered, entersNmi, Bool.and_eq_false_iff, Bool.and_eq_false_iff]
    left
    by_contra both
    rw [not_or, Bool.not_eq_false, Bool.not_eq_false, beq_iff_eq, beq_iff_eq, mCycle_clock] at both
    obtain ⟨ir, fifth⟩ := both
    split at fifth
    · exact absurd fifth (by decide)
    · next goes =>
      have fourth : s.mCycle = 4 := by bv_omega
      have inside : s.mCycle ≠ 0 := by rw [fourth]; decide
      rw [(clock_inside inside (Bool.eq_false_iff.mpr goes) pins di).2.1] at ir
      exact choice ⟨ir, fourth⟩

/-- An answer outlives one machine cycle. -/
theorem Answers.clock (pins : Pins) (di : Byte) : Answers (s.clock pins di) := by
  intro answered
  obtain ⟨ir, fourth, -⟩ := nmiEntered_iff.mp answered
  have goes : s.done s.micro.toMoves = false := by
    rw [entry_done ir, fourth]
    rfl
  obtain ⟨mCycle, ir', -⟩ :=
    clock_inside (by rw [fourth]; decide) goes pins di
  rw [mCycle, ir', fourth]
  exact ⟨ir, .inl rfl⟩

/-- The vector of `NMI` is chosen for a request. -/
theorem nmiTokens_chosen (answers : Answers s) (ir : s.ir = 0) (fourth : s.mCycle = 4)
    (chosen : s.vector = 0b010) : 1 ≤ nmiTokens s := by
  have settled : s.rstCycle = false := by
    by_contra reset
    rw [vector, Bool.eq_true_of_not_eq_false reset, if_pos rfl] at chosen
    exact absurd chosen (by decide)
  have unanswered : s.nmiEntered = false := by
    by_contra answered
    rcases (answers (Bool.eq_true_of_not_eq_false answered)).2 with fifth | reset
    · rw [fourth] at fifth
      exact absurd fifth (by decide)
    · exact Bool.false_ne_true (settled.symm.trans reset)
  rw [vector, settled, fourth, unanswered] at chosen
  rw [nmiTokens, nmiAccepted, unanswered, ir, fourth]
  cases act : s.nmiAct <;> cases cycle : s.nmiCycle
  · rw [act, cycle] at chosen
    exact absurd chosen (by decide)
  all_goals simp

/-- A request that an entry accepts stays one request. -/
theorem nmiAccepted_inside (h : Sequenced s) (goes : s.done s.micro.toMoves = false) (pins : Pins)
    (di : Byte) :
    (s.clock pins di).nmiAccepted.toNat ≤ s.nmiAccepted.toNat := by
  have nmiCycle : (s.clock pins di).nmiCycle = s.nmiCycle := by
    show (if s.done s.micro.toMoves then _ else s.nmiCycle) = _
    rw [goes]
    rfl
  rw [nmiAccepted, nmiAccepted, nmiCycle]
  cases s.nmiCycle with
  | false => exact Nat.le_refl 0
  | true =>
    cases late : s.ir == 0 && 5 ≤ s.mCycle with
    | false => exact Bool.toNat_le _
    | true =>
      rw [Bool.and_eq_true, beq_iff_eq, decide_eq_true_eq] at late
      have inside : s.mCycle ≠ 0 := by bv_omega
      obtain ⟨mCycle, ir, -⟩ := clock_inside inside goes pins di
      have room := (h.clock pins di).cycle
      have more : 5 ≤ s.mCycle + 1 := by
        rw [entry_done late.1, beq_eq_false_iff_ne] at goes
        have last := h.cycle
        have six : (s.moves 0).lCycle = 6 := by
          rw [moves, late.1, mcode_brk]
          cases MCode.branch 0 s.p <;> rfl
        rw [six] at last
        bv_omega
      rw [mCycle, ir, late.1, decide_eq_true more]
      exact Nat.le_refl 0

/-- A machine cycle pays for an answer to `NMI` with a request or with a falling edge. -/
theorem nmi_account (h : Sequenced s) (answers : Answers s) (pins : Pins) (di : Byte) :
    nmiTokens (s.clock pins di) + (s.clock pins di).nmiEntered.toNat ≤
      nmiTokens s + (s.nmiFalls pins).toNat := by
  cases answered : (s.clock pins di).nmiEntered with
  | true =>
    obtain ⟨ir, fourth, vector⟩ := nmiEntered_iff.mp answered
    have goes : s.done s.micro.toMoves = false := by
      rw [entry_done ir, fourth]
      rfl
    obtain ⟨mCycle, ir', -⟩ :=
      clock_inside (by rw [fourth]; decide) goes pins di
    have spent : nmiTokens (s.clock pins di) = 0 := by
      rw [nmiTokens, nmiAccepted, answered, mCycle, ir', ir, fourth]
      simp
    have request := nmiTokens_chosen answers ir fourth vector
    rw [spent, Bool.toNat_true]
    omega
  | false =>
    have act : (s.clock pins di).nmiAct =
        if s.nmiEntered then false
        else if s.nmiFalls pins then true
        else if s.done s.micro.toMoves && s.takesNmi then false
        else s.nmiAct := rfl
    rw [nmiTokens, nmiTokens, answered, act, Bool.not_false, Bool.and_true]
    cases done : s.done s.micro.toMoves with
    | false =>
      have kept := nmiAccepted_inside h done pins di
      cases s.nmiEntered <;> cases s.nmiFalls pins <;> cases s.nmiAct <;> simp <;> omega
    | true =>
      obtain ⟨mCycle, nmiCycle⟩ := clock_last done pins di
      have accepted : (s.clock pins di).nmiAccepted = s.takesNmi := by
        rw [nmiAccepted, nmiCycle, mCycle]
        simp
      rw [accepted]
      cases taken : s.takesNmi with
      | false => cases s.nmiEntered <;> cases s.nmiFalls pins <;> cases s.nmiAct <;> simp
      | true =>
        rw [takesNmi, Bool.and_eq_true, bne_iff_ne] at taken
        have unanswered : s.nmiEntered = false := by
          by_contra reply
          exact taken.2 (answers (Bool.eq_true_of_not_eq_false reply)).1
        rw [unanswered, taken.1]
        cases s.nmiFalls pins <;> simp

end T65

namespace ResetT65

open T65

/-- A program of `NOP`s, with a fall of `NMI_n` in the second one. -/
def nopsThenNmi : ℕ → Drive := playing (fun _ => 0xEA) fun n => n < 12

/-- The edge takes a machine cycle that leads to the vector of `NMI`. -/
def answersNmi (inputs : ℕ → Drive) (start : ResetT65) (i : ℕ) : Bool :=
  (run inputs start i).clocks (inputs i) && (run inputs start (i + 1)).core.entersNmi

/-- The edge takes a machine cycle that sees `NMI_n` fall. -/
def seesNmi (inputs : ℕ → Drive) (start : ResetT65) (i : ℕ) : Bool :=
  (run inputs start i).clocks (inputs i) && (run inputs start i).core.nmiFalls (inputs i).pins

end ResetT65

end FpgaNes
