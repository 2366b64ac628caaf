import FpgaNes.T65.Entry
import FpgaNes.Mos6502.Run

/-!
# The processor is a 6502

From one opcode fetch to the next the processor and its memory make one step of the 6502, in
as many cycles. Whole runs follow, under any levels of the interrupt lines.
-/

namespace FpgaNes

open Hdl
open Mos6502 (Regs Instruction Memory Machine Mode Interrupt Running Step decode)

namespace T65

variable {σ : Type*} {mem : Memory σ} {c : System σ} {i j : Instruction} {m : Machine σ}

/-- The interrupt the processor has accepted. -/
def accepted (s : T65) : Option Interrupt :=
  if s.nmiCycle then some .nmi else if s.irqCycle then some .irq else none

/-- The processor is about to go on with a program. -/
def Represents (p : Running σ) (c : System σ) : Prop :=
  (∃ i mask, Between i p.machine mask c) ∧ c.cpu.accepted = p.accepted

/-- No interrupt is accepted when the next instruction is fetched. -/
theorem accepted_none (s : T65) : s.accepted = none ↔ s.interrupted = false := by
  rw [accepted, interrupted]
  cases s.nmiCycle <;> cases s.irqCycle <;> simp

/-- An instruction that has been executed. -/
theorem Executed.represents (h : Executed mem i m c)
    (decoded : i ∈ decode (mem.load m.mem m.regs.pc)) (other : i ≠ .brk) :
    ∃ p, Step mem ⟨m, none⟩ (i.cycles mem m) p ∧ Represents p c := by
  refine ⟨⟨i.exec mem m, c.cpu.accepted⟩, .execute decoded other ?_, ⟨i, _, h⟩, rfl⟩
  intro irq
  apply h.masked
  rw [accepted] at irq
  split at irq
  · cases irq
  · split at irq
    · next request => exact request
    · cases irq

/-- An instruction takes two to seven cycles. -/
theorem cycles_bounds (mem : Memory σ) (m : Machine σ) (known : documented i = true) :
    2 ≤ i.cycles mem m ∧ i.cycles mem m ≤ 7 := by
  have read (mode : Mode) (crossed : Bool) :
      2 ≤ mode.readCycles crossed ∧ mode.readCycles crossed ≤ 6 := by
    cases mode <;> cases crossed <;> decide
  cases i with
  | read op mode =>
    have bounds := read mode (mode.crosses mem m.mem m.regs)
    exact ⟨bounds.1, by show mode.readCycles _ ≤ 7; omega⟩
  | store op mode =>
    have bounds := read mode true
    exact ⟨bounds.1, by show mode.readCycles _ ≤ 7; omega⟩
  | modify op mode =>
    have modes := of_decide_eq_true known
    show 2 ≤ mode.readCycles true + 2 ∧ mode.readCycles true + 2 ≤ 7
    fin_cases modes <;> decide
  | branch flag value =>
    rw [Instruction.cycles]
    split
    · have crossed := Bool.toNat_le ((m.regs.pc + 2).extractLsb 15 8 !=
        (Mos6502.branchTarget m.regs.pc (Mos6502.argument mem m.mem m.regs)).extractLsb 15 8)
      dsimp only
      omega
    · omega
  | _ => simp [Instruction.cycles]

/-- The opcode is fetched at the program counter. -/
theorem Between.clock {mask : Bool} (h : Between j m mask c) (lines : Lines) :
    c.clock mem lines =
      ⟨c.cpu.clock (Cpu2A03.pins lines.irqN lines.nmiN) (mem.load m.mem m.regs.pc), m.mem⟩ := by
  have pc : c.cpu.pc = m.regs.pc := congrArg Regs.pc h.regs
  have clock : c.clock mem lines = _ := System.clock_read h.boundary.wrN h.boundary.address lines
  rwa [pc, h.mem] at clock

/-- The fetch of an opcode leads to the first machine cycle of its instruction. -/
theorem Between.fetch {mask : Bool} (h : Between j m mask c) (free : c.cpu.interrupted = false)
    (decoded : i ∈ decode (mem.load m.mem m.regs.pc)) (lines : Lines) :
    Fetching i { m.regs with pc := m.regs.pc + 1 }
      (program (MCode.branch (c.clock mem lines).cpu.ir (c.clock mem lines).cpu.p) i) m.mem
      (c.clock mem lines) := by
  have fetched := h.boundary.fetched lines (mem.load m.mem m.regs.pc)
  have stage := fetched.stage free decoded
  have pc : c.cpu.pc = m.regs.pc := congrArg Regs.pc h.regs
  rw [h.regs, pc] at stage
  rw [h.clock]
  exact ⟨stage, fetched.setAddrToR, fetched.wrN, rfl⟩

/-- From the fetch of an opcode the processor executes its instruction. -/
theorem execute {mask : Bool} (h : Between j m mask c) (free : c.cpu.interrupted = false)
    (decoded : i ∈ decode (mem.load m.mem m.regs.pc)) (other : i ≠ .brk) :
    After (System.clock mem) (i.cycles mem m) (Executed mem i m) c := by
  have known := decode_documented decoded
  have count : i.cycles mem m = i.cycles mem m - 1 + 1 := by
    have bounds := cycles_bounds mem m known
    omega
  rw [count]
  intro lines
  have fetching := h.fetch free decoded lines
  cases i with
  | read op mode => exact exec_read fetching
  | store op mode => exact exec_store fetching (of_decide_eq_true known)
  | modify op mode =>
    refine exec_modify fetching ?_
    rintro rfl
    exact absurd known Bool.false_ne_true
  | implied op => exact exec_implied fetching
  | branch flag value =>
    have flags : (c.clock mem lines).cpu.p.flags = m.regs.flags :=
      congrArg Regs.flags fetching.stage.regs
    rw [branch_test fetching.stage.decoded, flags] at fetching
    exact exec_branch fetching
  | jmp => exact exec_jmp fetching
  | jmpIndirect => exact exec_jmpIndirect fetching
  | jsr => exact exec_jsr fetching
  | rts => exact exec_rts fetching
  | rti => exact exec_rti fetching
  | brk => exact absurd rfl other
  | pha => exact exec_pha fetching
  | php => exact exec_php fetching
  | pla => exact exec_pla fetching
  | plp => exact exec_plp fetching

/-! ## Interrupts -/

/-- The vector of an entry is one of the two. -/
theorem entryVector_mem (nmi : Bool) : entryVector nmi ∈ Mos6502.vectors := by
  cases nmi <;> decide

/-- From the fetch of an opcode that is `BRK` or is replaced by an interrupt the processor enters
the interrupt routine. -/
theorem enterInterrupt {mask : Bool} (h : Between j m mask c)
    (entry : c.cpu.interrupted = true ∨ .brk ∈ decode (mem.load m.mem m.regs.pc)) :
    After (System.clock mem) 7
      (fun t => ∃ nmi, (c.cpu.nmiCycle = true → nmi = true) ∧
        Between .brk
          (Mos6502.interrupt mem (!c.cpu.interrupted) (entryVector nmi)
            (if c.cpu.interrupted then m.regs.pc else m.regs.pc + 2) m) true t ∧
        t.cpu.interrupted = false) c := by
  intro lines
  have fetched := h.boundary.fetched lines (mem.load m.mem m.regs.pc)
  rw [h.clock]
  generalize c.cpu.clock _ _ = s at fetched ⊢
  have same : s.interrupted = c.cpu.interrupted := by
    rw [interrupted, fetched.irqCycle, fetched.nmiCycle]
    rfl
  have ir : s.ir = 0 := by
    rw [fetched.ir]
    rcases entry with taken | brk
    · rw [taken]
      rfl
    · rw [decode_brk brk, ite_self]
  have entering : Entering false 1 s.regs s := ⟨ir, fetched.mCycle, rfl, fetched.rstCycle⟩
  have back : (if s.interrupted then s.regs.pc else s.regs.pc + 1) =
      if c.cpu.interrupted then m.regs.pc else m.regs.pc + 2 := by
    have pc : c.cpu.pc = m.regs.pc := congrArg Regs.pc h.regs
    rw [same, fetched.regs, ← pc_two, ← pc]
    cases c.cpu.interrupted <;> rfl
  have entered : After (System.clock mem) _ _ _ := enter (c := ⟨s, m.mem⟩) entering fetched.wrN rfl
  rw [back] at entered
  refine entered.mono fun t result => ?_
  obtain ⟨nmi, taken, between, free⟩ := result
  refine ⟨nmi, fun own => taken (fetched.nmiCycle.trans own), ?_, free⟩
  have regs : s.regs = { m.regs with pc := s.regs.pc } := by
    rw [fetched.regs, h.regs]
  rw [same, regs] at between
  exact between

/-! ## Runs -/

/-- From one opcode fetch to the next the processor makes one step of the 6502. -/
theorem simulates (mem : Memory σ) :
    Simulates (System.clock mem) (Step mem) (Running.Documented mem) Represents 7 := by
  rintro ⟨m, accepted'⟩ c ⟨⟨i, mask, between⟩, rfl⟩ known
  cases free : c.cpu.interrupted with
  | false =>
    have ready := (accepted_none c.cpu).mpr free
    obtain ⟨j, decoded⟩ := known ready
    rw [ready]
    by_cases brk : j = .brk
    · subst brk
      refine ⟨7, by decide, le_rfl, (enterInterrupt between (.inr decoded)).mono ?_⟩
      rintro t ⟨nmi, -, entered, free'⟩
      rw [free] at entered
      exact ⟨_, .brk decoded (entryVector_mem nmi), ⟨.brk, true, entered⟩,
        (accepted_none t.cpu).mpr free'⟩
    · have bounds := cycles_bounds mem m (decode_documented decoded)
      exact ⟨j.cycles mem m, by omega, bounds.2,
        (execute between free decoded brk).mono fun t executed => executed.represents decoded brk⟩
  | true =>
    refine ⟨7, by decide, le_rfl, (enterInterrupt between (.inl free)).mono ?_⟩
    rintro t ⟨nmi, own, entered, free'⟩
    rw [free] at entered
    have rests := (accepted_none t.cpu).mpr free'
    cases kind : c.cpu.nmiCycle with
    | true =>
      rw [own kind] at entered
      have accepted : c.cpu.accepted = some .nmi := by
        rw [accepted, kind]
        rfl
      rw [accepted]
      exact ⟨_, .nmi, ⟨.brk, true, entered⟩, rests⟩
    | false =>
      have request : c.cpu.irqCycle = true := by
        rw [interrupted, kind, Bool.or_false] at free
        exact free
      have accepted : c.cpu.accepted = some .irq := by
        rw [accepted, kind, request]
        rfl
      rw [accepted]
      exact ⟨_, .irq (entryVector_mem nmi), ⟨.brk, true, entered⟩, rests⟩

end T65

end FpgaNes
