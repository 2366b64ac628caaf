import FpgaNes.Hdl.After
import FpgaNes.T65.Program
import FpgaNes.T65.Core

/-!
# The processor: machine cycles in sequence

What holds of the microcode of all 256 opcodes, the undocumented ones and those that jam a
6502 included, and what follows for the registers in every state that a reset leads to.
-/

namespace FpgaNes

open Hdl

namespace T65

/-! ## The microcode of an opcode -/

/-- A microprogram starts and ends with a read at the program counter, and so does a cycle that
ends it early. -/
def Bounded (u : Cycle → Moves) (c : Cycle) : Prop :=
  (u c).lCycle = (u 0).lCycle ∧ (u 0).lCycle ≠ 0 ∧
    (c = 0 ∨ c = (u 0).lCycle → (u c).setAddrTo = .pbr ∧ (u c).write = false) ∧
    ((u c).breakAtNA = true ∨ (u c).pcAdd = true → (u c).write = false ∧ c ≠ 0)

/-- Writes that are close to each other leave the address alone, or are all to the stack. -/
def WritesTogether (opcode : Byte) (u : Cycle → Moves) (c : Cycle) : Prop :=
  2 ≤ c ∧ c ≤ (u 0).lCycle ∧ (u (c - 1)).write = true →
    ((u c).write = true →
      (u (c - 1)).setAddrTo = .sp ∧ (u c).setAddrTo = .sp ∨
        opcode ≠ 0 ∧ (u c).setAddrTo = (u (c - 1)).setAddrTo ∧ (u c).setAddrTo ≠ .pbr ∧
          (u c).setAddrTo ≠ .sp ∧
          (u c).adAdd = false ∧ (u c).ldad = false ∧ (u c).ldbal = false ∧
          (u c).ldbah = false ∧ (u c).baAdd = .none) ∧
      (c + 1 ≤ (u 0).lCycle ∧ c + 1 ≠ 0 ∧ (u (c + 1)).write = true → (u c).write = true)

/-- The condition of a branch is read by branches, and they leave it alone. -/
def BranchHolds (opcode : Byte) (c : Cycle) : Prop :=
  if opcode.extractLsb 4 0 = 0b10000 then
    c ≠ 0 → (mcode opcode false false c).saveP = false ∧ (mcode opcode false false c).ldp = false ∧
      (mcode opcode false true c).saveP = false ∧ (mcode opcode false true c).ldp = false
  else (mcode opcode false true c).toMoves = (mcode opcode false false c).toMoves

instance (u : Cycle → Moves) (c : Cycle) : Decidable (Bounded u c) :=
  inferInstanceAs (Decidable (_ ∧ _))

instance (opcode : Byte) (u : Cycle → Moves) (c : Cycle) : Decidable (WritesTogether opcode u c) :=
  inferInstanceAs (Decidable (_ → _))

instance (opcode : Byte) (c : Cycle) : Decidable (BranchHolds opcode c) :=
  inferInstanceAs (Decidable (ite _ _ _))

/-- The microcode of the 256 opcodes, by cases. -/
theorem cycle_table : ∀ opcode : Byte, ∀ c : Cycle,
    BranchHolds opcode c ∧ ∀ taken,
      Bounded (fun c => (mcode opcode false taken c).toMoves) c ∧
        WritesTogether opcode (fun c => (mcode opcode false taken c).toMoves) c := by
  decide +kernel

/-- Decimal mode moves nothing: it selects an operand of an undocumented opcode. -/
theorem mcode_bcdEn (opcode : Byte) (bcdEn taken : Bool) (c : Cycle) :
    (mcode opcode bcdEn taken c).toMoves = (mcode opcode false taken c).toMoves := by
  have operand (u : Micro) : (MCode.immediateUndoc opcode bcdEn c u).toMoves =
      (MCode.immediateUndoc opcode false c u).toMoves := by
    unfold MCode.immediateUndoc
    split <;> by_cases first : c = 1 <;> simp only [first, if_true, if_false]
  unfold mcode MCode.addressing
  split
  all_goals first | rfl | exact operand _

/-! ## The registers -/

/-- What the opcode in `IR` moves in a machine cycle. -/
def moves (s : T65) (c : Cycle) : Moves := (mcode s.ir s.bcdEnR (MCode.branch s.ir s.p) c).toMoves

variable {s : T65} {pins : Pins} {di : Byte}

/-- The facts of the table, for the opcode in `IR`. -/
theorem moves_bounded (s : T65) (c : Cycle) : Bounded s.moves c := by
  have moves : s.moves = fun c => (mcode s.ir false (MCode.branch s.ir s.p) c).toMoves :=
    funext fun c => mcode_bcdEn s.ir s.bcdEnR (MCode.branch s.ir s.p) c
  rw [moves]
  exact ((cycle_table s.ir c).2 (MCode.branch s.ir s.p)).1

/-- The facts of the table about writes, for the opcode in `IR`. -/
theorem moves_together (s : T65) (c : Cycle) : WritesTogether s.ir s.moves c := by
  have moves : s.moves = fun c => (mcode s.ir false (MCode.branch s.ir s.p) c).toMoves :=
    funext fun c => mcode_bcdEn s.ir s.bcdEnR (MCode.branch s.ir s.p) c
  rw [moves]
  exact ((cycle_table s.ir c).2 (MCode.branch s.ir s.p)).2

/-- The processor goes through the machine cycles of an opcode in order. -/
structure Sequenced (s : T65) : Prop where
  /-- The cycle is one of the instruction. -/
  cycle : s.mCycle ≤ (s.moves 0).lCycle
  /-- The first cycle reads at the program counter. -/
  boundary : s.mCycle = 0 → s.setAddrToR = .pbr ∧ s.wrN = true
  /-- Every other has the address register that the cycle before has set. -/
  follows : s.mCycle ≠ 0 → s.setAddrToR = (s.moves (s.mCycle - 1)).setAddrTo
  /-- A write is one that the cycle before has asked for. -/
  writes : s.wrN = false →
    s.mCycle ≠ 0 ∧ (s.moves (s.mCycle - 1)).write = true ∧ s.rstCycle = false

/-- The condition of a branch, from the flags it reads. -/
theorem branch_congr (opcode : Byte) {p q : Status} (n : p.n = q.n) (v : p.v = q.v) (c : p.c = q.c)
    (z : p.z = q.z) : MCode.branch opcode p = MCode.branch opcode q := by
  unfold MCode.branch
  rw [n, v, c, z]

/-- A branch leaves the flags it reads alone. -/
theorem branch_clock (s : T65) (inside : s.mCycle ≠ 0)
    (column : s.ir.extractLsb 4 0 = 0b10000) (pins : Pins) (di : Byte) :
    MCode.branch s.ir (s.clock pins di).p = MCode.branch s.ir s.p := by
  have fetch : s.sync = false := beq_false_of_ne inside
  have holds := (cycle_table s.ir s.mCycle).1
  rw [BranchHolds, if_pos column] at holds
  obtain ⟨saveP, ldp, saveP', ldp'⟩ := holds inside
  have kept : s.micro.saveP = false ∧ s.micro.ldp = false := by
    have moves := mcode_bcdEn s.ir s.bcdEnR (MCode.branch s.ir s.p) s.mCycle
    constructor
    · rw [micro, moves]
      cases MCode.branch s.ir s.p
      · exact saveP
      · exact saveP'
    · rw [micro, moves]
      cases MCode.branch s.ir s.p
      · exact ldp
      · exact ldp'
  have other (p : Status) : flagOp s.ir p = p := by
    rw [flagOp, column, if_neg (by decide)]
  have flags : (s.clock pins di).p = s.pNext s.micro := rfl
  rw [flags, pNext, fetch, kept.1, kept.2]
  simp only [Bool.false_and, Bool.false_eq_true, if_false, other]
  apply branch_congr <;> split <;> split <;> rfl

/-- After the opcode fetch the moves of the opcode stay what they are. -/
theorem moves_clock (s : T65) (inside : s.mCycle ≠ 0) (pins : Pins) (di : Byte) :
    (s.clock pins di).moves = s.moves := by
  have fetch : s.sync = false := beq_false_of_ne inside
  have ir : (s.clock pins di).ir = s.ir := by
    show (if s.sync then _ else s.ir) = s.ir
    rw [fetch]
    rfl
  funext c
  rw [moves, moves, mcode_bcdEn, mcode_bcdEn s.ir, ir]
  by_cases column : s.ir.extractLsb 4 0 = 0b10000
  · rw [branch_clock s inside column]
  · have holds := (cycle_table s.ir c).1
    rw [BranchHolds, if_neg column] at holds
    cases MCode.branch s.ir (s.clock pins di).p <;> cases MCode.branch s.ir s.p <;>
      first | rfl | exact holds | exact holds.symm

/-- The registers of a reset are in sequence. -/
theorem Sequenced.reset (s : T65) : Sequenced s.reset := by
  obtain ⟨-, long, ends, -⟩ := moves_bounded s.reset 0
  have one : s.reset.mCycle = 1 := rfl
  have reads : s.reset.wrN = true := rfl
  refine ⟨?_, fun _ => ⟨rfl, reads⟩, fun _ => ?_,
    fun write => absurd (write.symm.trans reads) Bool.false_ne_true⟩
  · rw [one]
    bv_omega
  · rw [one]
    exact (ends (.inl rfl)).1.symm

/-- A machine cycle that `Break` ends writes nothing and is no opcode fetch. -/
theorem breaks_bounded (s : T65) (breaks : s.breaks (s.moves s.mCycle) = true) :
    (s.moves s.mCycle).write = false ∧ s.mCycle ≠ 0 := by
  apply (moves_bounded s s.mCycle).2.2.2
  rw [T65.breaks, Bool.or_eq_true, Bool.and_eq_true, Bool.and_eq_true] at breaks
  exact breaks.imp And.left And.left

/-- A machine cycle that is not the last is followed by the next of the same opcode; after the
opcode fetch comes the first of another. -/
theorem mCycle_clock (s : T65) (pins : Pins) (di : Byte) :
    (s.clock pins di).mCycle = if s.done (s.moves s.mCycle) then 0 else s.mCycle + 1 := rfl

/-- The opcode fetch is not the last machine cycle. -/
theorem done_inside (s : T65) (done : s.done (s.moves s.mCycle) = true) : s.mCycle ≠ 0 := by
  rw [T65.done, Bool.or_eq_true, beq_iff_eq] at done
  rcases done with last | breaks
  · obtain ⟨same, long, -⟩ := moves_bounded s s.mCycle
    rw [last, same]
    exact long
  · exact (breaks_bounded s breaks).2

/-- Every clock keeps the sequence. -/
theorem Sequenced.clock (h : Sequenced s) (pins : Pins) (di : Byte) :
    Sequenced (s.clock pins di) := by
  obtain ⟨same, long, ends, -⟩ := moves_bounded s s.mCycle
  have wrN : (s.clock pins di).wrN = (!(s.moves s.mCycle).write || s.rstCycle) := rfl
  have setAddrToR : (s.clock pins di).setAddrToR =
      if s.breaks (s.moves s.mCycle) then .pbr else (s.moves s.mCycle).setAddrTo := rfl
  have rstCycle : (s.clock pins di).rstCycle =
      (s.rstCycle && !s.done (s.moves s.mCycle)) := rfl
  have mCycle := mCycle_clock s pins di
  cases done : s.done (s.moves s.mCycle) with
  | true =>
    rw [done, if_pos rfl] at mCycle
    have address : (s.clock pins di).setAddrToR = .pbr ∧ (s.moves s.mCycle).write = false := by
      rw [setAddrToR]
      cases breaks : s.breaks (s.moves s.mCycle) with
      | true => exact ⟨rfl, (breaks_bounded s breaks).1⟩
      | false =>
        rw [T65.done, breaks, Bool.or_false, beq_iff_eq, same] at done
        exact ends (.inr done)
    have reads : (s.clock pins di).wrN = true := by
      rw [wrN, address.2]
      rfl
    exact ⟨by rw [mCycle]; exact Nat.zero_le _, fun _ => ⟨address.1, reads⟩,
      fun inside => absurd mCycle inside, fun write => absurd (write.symm.trans reads)
        Bool.false_ne_true⟩
  | false =>
    rw [done, if_neg Bool.false_ne_true] at mCycle
    have goes : s.breaks (s.moves s.mCycle) = false ∧ s.mCycle ≠ (s.moves 0).lCycle := by
      rw [T65.done, Bool.or_eq_false_iff, beq_eq_false_iff_ne, same] at done
      exact ⟨done.2, done.1⟩
    rw [goes.1, if_neg Bool.false_ne_true] at setAddrToR
    have room := h.cycle
    have previous : (s.clock pins di).mCycle - 1 = s.mCycle := by
      rw [mCycle, BitVec.add_sub_cancel]
    have inside : (s.clock pins di).mCycle ≠ 0 := by
      rw [mCycle]
      bv_omega
    by_cases fetch : s.mCycle = 0
    · obtain ⟨address, reads⟩ := ends (.inl fetch)
      obtain ⟨-, long', ends', -⟩ := moves_bounded (s.clock pins di) 0
      have read : (s.clock pins di).wrN = true := by
        rw [wrN, reads]
        rfl
      refine ⟨?_, fun first => absurd first inside, fun _ => ?_,
        fun write => absurd (write.symm.trans read) Bool.false_ne_true⟩
      · rw [mCycle, fetch]
        bv_omega
      · rw [setAddrToR, address, previous, fetch]
        exact (ends' (.inl rfl)).1.symm
    · rw [← moves_clock s fetch pins di] at room goes setAddrToR wrN
      refine ⟨?_, fun first => absurd first inside, fun _ => ?_, fun write => ?_⟩
      · rw [mCycle]
        bv_omega
      · rw [setAddrToR, previous]
      · rw [wrN, Bool.or_eq_false_iff, Bool.not_eq_false'] at write
        refine ⟨inside, ?_, ?_⟩
        · rw [previous]
          exact write.1
        · rw [rstCycle, write.2]
          rfl

/-! ## Writes -/

/-- Two bus cycles address the same byte, or both the stack. -/
def Near (a b : BitVec 16) : Prop :=
  a = b ∨ a.extractLsb 15 8 = 0x01 ∧ b.extractLsb 15 8 = 0x01

/-- What two pairs of cycles have in common. -/
theorem Near.trans {a b c : BitVec 16} (left : Near a b) (right : Near b c) : Near a c := by
  rcases left with rfl | ⟨first, second⟩
  · exact right
  · rcases right with rfl | ⟨-, third⟩
    · exact .inr ⟨first, second⟩
    · exact .inr ⟨first, third⟩

/-- A bus cycle at the stack pointer. -/
theorem address_stack (stack : s.setAddrToR = .sp) : s.address.extractLsb 15 8 = 0x01 := by
  rw [address, stack]
  exact BitVec.extractLsb'_append_eq_left

/-- A machine cycle that follows a write was reached in sequence. -/
theorem Sequenced.write_inside (h : Sequenced s) (write : s.wrN = false) :
    2 ≤ s.mCycle ∧ s.mCycle ≤ (s.moves 0).lCycle ∧ (s.moves (s.mCycle - 1)).write = true := by
  obtain ⟨inside, moves, -⟩ := h.writes write
  refine ⟨?_, h.cycle, moves⟩
  have second : s.mCycle ≠ 1 := by
    intro one
    rw [one] at moves
    exact Bool.false_ne_true ((((moves_bounded s 0).2.2.1 (.inl rfl)).2).symm.trans moves)
  bv_omega

/-- A write comes from the machine cycle before, which was not the last. -/
theorem Sequenced.write_before (h : Sequenced s) (write : (s.clock pins di).wrN = false) :
    s.mCycle ≠ 0 ∧ (s.moves s.mCycle).write = true ∧ (s.clock pins di).mCycle = s.mCycle + 1 ∧
      s.mCycle + 1 ≠ 0 := by
  obtain ⟨inside, moves, -⟩ := (h.clock pins di).writes write
  have mCycle := mCycle_clock s pins di
  cases done : s.done (s.moves s.mCycle) with
  | true =>
    rw [done, if_pos rfl] at mCycle
    exact absurd mCycle inside
  | false =>
    rw [done, if_neg Bool.false_ne_true] at mCycle
    rw [mCycle, BitVec.add_sub_cancel] at moves
    have later : s.mCycle ≠ 0 := by
      intro fetch
      rw [fetch] at moves
      have reads := ((moves_bounded (s.clock pins di) 0).2.2.1 (.inl rfl)).2
      exact Bool.false_ne_true (reads.symm.trans moves)
    rw [moves_clock s later] at moves
    rw [mCycle] at inside
    exact ⟨later, moves, mCycle, inside⟩

/-- From one write to the next the machine cycle counts on. -/
theorem Sequenced.write_counts (h : Sequenced s) (again : (s.clock pins di).wrN = false) :
    (s.clock pins di).mCycle.toNat = s.mCycle.toNat + 1 := by
  obtain ⟨-, -, mCycle, goes⟩ := h.write_before again
  rw [mCycle]
  bv_omega

/-- Two writes in a row are near each other. -/
theorem Sequenced.near_next (h : Sequenced s) (write : s.wrN = false)
    (again : (s.clock pins di).wrN = false) : Near s.address (s.clock pins di).address := by
  have inside := h.write_inside write
  obtain ⟨later, moves, mCycle, goes⟩ := h.write_before again
  have before := h.follows later
  have after := (h.clock pins di).follows (by rwa [mCycle])
  rw [moves_clock s later, mCycle, BitVec.add_sub_cancel] at after
  rcases (moves_together s s.mCycle inside).1 moves with
    ⟨stack, stack'⟩ | ⟨ir, same, notPbr, notSp, adAdd, ldad, ldbal, ldbah, baAdd⟩
  · exact .inr ⟨address_stack (before.trans stack), address_stack (after.trans stack')⟩
  · left
    have address : (s.clock pins di).setAddrToR = s.setAddrToR := by rw [after, before, same]
    have ad : (s.clock pins di).ad = s.ad := by
      show s.adNext (s.moves s.mCycle) di = s.ad
      rw [adNext, ldad, adAdd, baAdd]
      rfl
    have bah : (s.clock pins di).bah = s.bah := by
      show s.bahNext (s.moves s.mCycle) di = s.bah
      rw [bahNext, ldbah, if_neg Bool.false_ne_true, if_neg ir, baAdd, if_neg (by simp)]
    have bal : (s.clock pins di).bal = s.bal := by
      have ldbal' : s.micro.ldbal = false := ldbal
      have baAdd' : s.micro.baAdd = .none := baAdd
      show s.balNext s.micro di = s.bal
      simp only [balNext, ldbal', baAdd', if_neg ir, Bool.false_eq_true, if_false]
    rw [same, ← before] at notPbr notSp
    rw [T65.address, T65.address, address, ad, bah, bal]
    cases source : s.setAddrToR with
    | sp => exact absurd source notSp
    | pbr => exact absurd source notPbr
    | zpg => rfl
    | ba => rfl

/-- Between two writes that are two clocks apart is a third. -/
theorem Sequenced.write_between {pins' : Pins} {di' : Byte} (h : Sequenced s)
    (write : s.wrN = false) (again : ((s.clock pins di).clock pins' di').wrN = false) :
    (s.clock pins di).wrN = false := by
  obtain ⟨last, reached, before⟩ := h.write_inside write
  obtain ⟨later, moves, -, goes⟩ := (h.clock pins di).write_before again
  have free := (h.writes write).2.2
  have inside : s.mCycle ≠ 0 := by bv_omega
  have mCycle : (s.clock pins di).mCycle = s.mCycle + 1 := by
    rw [mCycle_clock] at later ⊢
    split at later
    · exact absurd rfl later
    · next goes' => rw [if_neg goes']
  have room := (h.clock pins di).cycle
  rw [moves_clock s inside] at moves room
  rw [mCycle] at moves room later
  have wrN : (s.clock pins di).wrN = (!(s.moves s.mCycle).write || s.rstCycle) := rfl
  rw [wrN, (moves_together s s.mCycle ⟨last, reached, before⟩).2 ⟨room, later, moves⟩, free]
  rfl

end T65

/-! ## Runs -/

namespace ResetT65

open T65

/-- What the pins of the processor carry up to an edge of its clock. -/
structure Drive where
  /-- `Res_n`. -/
  resN : Bool
  /-- `Enable`. -/
  enable : Bool
  /-- The pins. -/
  pins : T65.Pins
  /-- The byte on the data bus. -/
  di : Byte
  deriving DecidableEq

/-- An edge of the processor clock, under what its pins carry. -/
def step (d : Drive) (s : ResetT65) : ResetT65 := s.edge d.resN d.enable d.pins d.di

/-- The processor after each number of edges. -/
def run (inputs : ℕ → Drive) (start : ResetT65) : ℕ → ResetT65 := trace step inputs start

/-- The processor is out of reset and enabled, and takes its next machine cycle on the edge. -/
def clocks (d : Drive) (s : ResetT65) : Bool := d.resN && s.resNI && d.enable

/-- An edge that takes a machine cycle. -/
theorem step_clocked {d : Drive} {s : ResetT65} (clocked : s.clocks d = true) :
    (s.step d).core = s.core.clock d.pins d.di := by
  rw [clocks, Bool.and_eq_true, Bool.and_eq_true] at clocked
  obtain ⟨⟨resN, resNI⟩, enable⟩ := clocked
  rw [step, edge, resN, resNI, enable]
  rfl

/-- Every other edge resets the registers or leaves them. -/
theorem step_idle {d : Drive} {s : ResetT65} (idle : s.clocks d = false) :
    (s.step d).core = s.core.reset ∨ (s.step d).core = s.core := by
  rw [clocks] at idle
  rw [step, edge]
  cases resN : d.resN with
  | false => exact .inl rfl
  | true =>
    cases resNI : s.resNI with
    | false => exact .inl rfl
    | true =>
      rw [resN, resNI, Bool.true_and, Bool.true_and] at idle
      rw [idle]
      exact .inr rfl

/-- While the processor is enabled they reset the registers. -/
theorem step_held {d : Drive} {s : ResetT65} (idle : s.clocks d = false)
    (enable : d.enable = true) : (s.step d).core = s.core.reset := by
  rw [clocks, enable, Bool.and_true, Bool.and_eq_false_iff] at idle
  rw [step, edge]
  rcases idle with resN | resNI
  · rw [resN]
    rfl
  · rw [resNI]
    cases d.resN <;> rfl

/-- A machine cycle, under what the interrupt lines and the data bus carry. -/
def machineCycle (input : T65.Pins × Byte) (s : T65) : T65 := s.clock input.1 input.2

/-- What the processor sees some edges later. -/
def seen (inputs : ℕ → Drive) (first n : ℕ) : Bool × T65.Pins × Byte :=
  ((inputs (first + n)).enable, (inputs (first + n)).pins, (inputs (first + n)).di)

/-- While no reset comes the registers make the run of a machine with an enable. -/
theorem run_released (inputs : ℕ → Drive) (start : ResetT65) {t : ℕ} (later : 0 < t)
    (up : (run inputs start t).resNI = true) (high : ∀ n, t ≤ n → (inputs n).resN = true) (n : ℕ) :
    (run inputs start (t + n)).core =
        trace (gated machineCycle) (seen inputs t) (run inputs start t).core n ∧
      (run inputs start (t + n)).resNI = true ∧ (run inputs start (t + n)).resND = true := by
  induction n with
  | zero =>
    refine ⟨rfl, up, ?_⟩
    obtain ⟨k, rfl⟩ : ∃ k, t = k + 1 := ⟨t - 1, by omega⟩
    have edge : run inputs start (k + 1) = (run inputs start k).step (inputs k) := rfl
    rw [Nat.add_zero, edge, step, ResetT65.edge]
    rw [edge, step, ResetT65.edge] at up
    split
    · next low => rw [if_pos low] at up; exact absurd up Bool.false_ne_true
    · rfl
  | succ n ih =>
    obtain ⟨same, resNI, resND⟩ := ih
    have edge : run inputs start (t + (n + 1)) =
        (run inputs start (t + n)).step (inputs (t + n)) := rfl
    have resN := high (t + n) (Nat.le_add_right t n)
    rw [edge, trace_succ, ← same]
    refine ⟨?_, ?_, ?_⟩ <;> rw [step, ResetT65.edge, resN, resNI]
    · rfl
    · exact resND
    · rfl

/-- What a reset establishes and a machine cycle keeps, every edge keeps. -/
theorem step_invariant {inv : T65 → Prop} (reset : ∀ s : T65, inv s.reset)
    (clock : ∀ s pins di, inv s → inv (s.clock pins di)) {s : ResetT65} (holds : inv s.core)
    (d : Drive) : inv (s.step d).core := by
  cases clocked : s.clocks d with
  | true =>
    rw [step_clocked clocked]
    exact clock s.core d.pins d.di holds
  | false =>
    rcases step_idle clocked with reset' | held
    · rw [reset']
      exact reset s.core
    · rwa [held]

/-- A reset acts on its first edge. -/
theorem run_asserted (inputs : ℕ → Drive) (start : ResetT65)
    (asserted : (inputs 0).resN = false) : (run inputs start 1).core = start.core.reset := by
  show (start.step (inputs 0)).core = _
  rw [step, edge, asserted]
  rfl

/-- It holds from a reset on. -/
theorem run_invariant {inv : T65 → Prop} (reset : ∀ s : T65, inv s.reset)
    (clock : ∀ s pins di, inv s → inv (s.clock pins di)) (inputs : ℕ → Drive) (start : ResetT65)
    (asserted : (inputs 0).resN = false) (n : ℕ) : inv (run inputs start (n + 1)).core := by
  induction n with
  | zero =>
    rw [run_asserted inputs start asserted]
    exact reset start.core
  | succ n ih => exact step_invariant reset clock ih (inputs (n + 1))

/-- From a reset on the processor is in sequence. -/
theorem sequenced_run (inputs : ℕ → Drive) (start : ResetT65) (asserted : (inputs 0).resN = false)
    (n : ℕ) : Sequenced (run inputs start (n + 1)).core :=
  run_invariant .reset (fun _ pins di h => h.clock pins di) inputs start asserted n

/-- Two writes one edge apart are near each other. -/
theorem near_step {s : ResetT65} {d : Drive} (h : Sequenced s.core) (write : s.core.wrN = false)
    (again : (s.step d).core.wrN = false) : Near s.core.address (s.step d).core.address := by
  cases clocked : s.clocks d with
  | true =>
    rw [step_clocked clocked] at again ⊢
    exact h.near_next write again
  | false =>
    rcases step_idle clocked with reset | held
    · rw [reset] at again
      exact absurd again.symm Bool.false_ne_true
    · rw [held]
      exact .inl rfl

/-- Two writes two edges apart are near each other. -/
theorem near_steps {s : ResetT65} {d d' : Drive} (h : Sequenced s.core)
    (write : s.core.wrN = false) (again : ((s.step d).step d').core.wrN = false) :
    Near s.core.address ((s.step d).step d').core.address := by
  have middle : Sequenced (s.step d).core :=
    step_invariant .reset (fun _ pins di h => h.clock pins di) h d
  suffices between : (s.step d).core.wrN = false from
    (near_step h write between).trans (near_step middle between again)
  cases clocked : (s.step d).clocks d' with
  | false =>
    rcases step_idle clocked with reset | held
    · rw [reset] at again
      exact absurd again.symm Bool.false_ne_true
    · rwa [held] at again
  | true =>
    rw [step_clocked clocked] at again
    cases earlier : s.clocks d with
    | true =>
      rw [step_clocked earlier] at again ⊢
      exact h.write_between write again
    | false =>
      rcases step_idle earlier with reset | held
      · have reads : (s.core.reset.clock d'.pins d'.di).wrN = true :=
          Bool.or_true (!s.core.reset.micro.write)
        rw [reset, reads] at again
        exact absurd again.symm Bool.false_ne_true
      · rwa [held]

/-- From a reset on, through any later resets and stalls, two writes at different addresses
outside the stack are at least three edges apart. -/
theorem writes_apart (inputs : ℕ → Drive) (start : ResetT65)
    (asserted : (inputs 0).resN = false) {i j : ℕ} (reset : 0 < i) (before : i < j)
    (first : (run inputs start i).core.wrN = false)
    (second : (run inputs start j).core.wrN = false)
    (differ : (run inputs start i).core.address ≠ (run inputs start j).core.address)
    (outside : (run inputs start i).core.address.extractLsb 15 8 ≠ 0x01 ∨
      (run inputs start j).core.address.extractLsb 15 8 ≠ 0x01) :
    i + 3 ≤ j := by
  obtain ⟨k, rfl⟩ : ∃ k, i = k + 1 := ⟨i - 1, by omega⟩
  have sequenced := sequenced_run inputs start asserted k
  have apart :
      ¬ Near (run inputs start (k + 1)).core.address (run inputs start j).core.address := by
    rintro (same | ⟨stack, stack'⟩)
    · exact differ same
    · exact outside.elim (· stack) (· stack')
  apply Nat.le_of_not_lt
  intro close
  obtain rfl | rfl : j = k + 1 + 1 ∨ j = k + 1 + 1 + 1 := by omega
  · exact apart (near_step sequenced first second)
  · exact apart (near_steps sequenced first second)

/-- While the processor is enabled, one cycle in eight is not a write. -/
theorem writes_end (inputs : ℕ → Drive) (start : ResetT65) (asserted : (inputs 0).resN = false)
    {i : ℕ} (reset : 0 < i)
    (enabled : ∀ k < 7, (run inputs start (i + k)).core.wrN = false →
      (inputs (i + k)).enable = true) :
    ∃ k ≤ 7, (run inputs start (i + k)).core.wrN = true := by
  by_contra none
  have writes : ∀ k ≤ 7, (run inputs start (i + k)).core.wrN = false := by
    intro k within
    by_contra reads
    exact none ⟨k, within, Bool.eq_true_of_not_eq_false reads⟩
  obtain ⟨t, rfl⟩ : ∃ t, i = t + 1 := ⟨i - 1, by omega⟩
  have counts : ∀ k ≤ 7, k + 1 ≤ (run inputs start (t + 1 + k)).core.mCycle.toNat := by
    intro k
    induction k with
    | zero =>
      intro _
      obtain ⟨inside, -⟩ := (sequenced_run inputs start asserted t).writes (writes 0 (by decide))
      rw [Nat.zero_add, Nat.add_zero]
      bv_omega
    | succ k ih =>
      intro within
      have before := ih (by omega)
      have again := writes (k + 1) within
      have edge : run inputs start (t + 1 + (k + 1)) =
          (run inputs start (t + 1 + k)).step (inputs (t + 1 + k)) := rfl
      have sequenced := sequenced_run inputs start asserted (t + k)
      rw [show t + k + 1 = t + 1 + k by omega] at sequenced
      rw [edge] at again ⊢
      cases clocked : (run inputs start (t + 1 + k)).clocks (inputs (t + 1 + k)) with
      | true =>
        rw [step_clocked clocked] at again ⊢
        rw [sequenced.write_counts again]
        omega
      | false =>
        -- A cycle that is not taken is one of a reset, and reads.
        rw [step_held clocked (enabled k (by omega) (writes k (by omega)))] at again
        exact absurd again.symm Bool.false_ne_true
  have last := counts 7 (Nat.le_refl 7)
  have top := (run inputs start (t + 1 + 7)).core.mCycle.isLt
  omega

/-- One edge of reset, then bytes on the data bus and levels on `NMI_n`. -/
def playing (data : ℕ → Byte) (nmiN : ℕ → Bool) (n : ℕ) : Drive :=
  ⟨n ≠ 0, true, Cpu2A03.pins true (nmiN n), data n⟩

end ResetT65

end FpgaNes
