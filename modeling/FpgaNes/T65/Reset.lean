import FpgaNes.T65.Refinement

/-!
# The processor: reset

A reset makes an interrupt entry in which no cycle writes, and leaves the processor at the
first instruction of the program at its vector. The enable of the processor stalls it.
-/

namespace FpgaNes

open Hdl
open Mos6502 (Flags Regs Instruction Memory Machine Running Step afterReset resetVector)

namespace T65

variable {σ : Type*} {mem : Memory σ} {r : Regs} {s : T65} {memory : σ} {cycle : Cycle}
  {sp : Byte}

/-! ## The entry of a reset -/

/-- The flags from the first machine cycle of a reset on. -/
def resetFlags : Flags := ⟨false, false, false, true, false, false⟩

/-- The processor is in a machine cycle of the entry of a reset, but for the first. -/
structure Resetting (cycle : Cycle) (r : Regs) (sp : Byte) (s : T65) : Prop where
  /-- The reset sequence is at this cycle. -/
  entering : ∃ pc, Entering true cycle { r with s := sp, pc, flags := resetFlags } s
  /-- The cycle is a read. -/
  reads : s.wrN = true

/-- A machine cycle of the entry of a reset reads. -/
theorem Resetting.next (mem : Memory σ) (h : Resetting cycle r sp s) (k : Fin entrySteps.length)
    (here : cycle = BitVec.ofNat 3 (k + 1)) (goes : k.val < 5) (lines : Lines) (memory : σ) :
    ∃ t r', System.clock mem lines ⟨s, memory⟩ = ⟨t, memory⟩ ∧
      Resetting (cycle + 1) r (if (entrySteps.get k).decS then sp - 1 else sp) t ∧
      Entered true cycle (entrySteps.get k) r' (mem.load memory s.address) s t := by
  obtain ⟨pc, entering⟩ := h.entering
  have entered := entering.next k here goes (Cpu2A03.pins lines.irqN lines.nmiN)
    (mem.load memory s.address)
  refine ⟨_, _, System.clock_read (c := ⟨s, memory⟩) h.reads rfl lines, ⟨⟨_, entered.entering⟩, ?_⟩,
    entered⟩
  rw [entered.wrN]
  exact Bool.or_true _

/-- The address of the vector while a reset is under way. -/
theorem vector_reset (rst : s.rstCycle = true) : s.vector = 0b100 := by
  rw [vector, rst]
  rfl

/-- From the registers that a reset leaves, the processor loads the vector in six cycles. -/
theorem enterReset (s : T65) (memory : σ) :
    After (System.clock mem) 6
      (fun t => Between .brk (afterReset mem s.regs memory) true t ∧
        t.cpu.interrupted = false) ⟨s.reset, memory⟩ := by
  intro lines
  rw [System.clock_read (c := ⟨s.reset, memory⟩) rfl rfl]
  have first : Entering true 1 s.reset.regs s.reset := ⟨rfl, rfl, rfl, rfl⟩
  have entered := first.next ⟨0, by decide⟩ rfl (by decide)
    (Cpu2A03.pins lines.irqN lines.nmiN) (mem.load memory s.reset.address)
  generalize s.reset.clock _ _ = s₂ at entered ⊢
  have second : Resetting 2 s.regs 0 s₂ :=
    ⟨⟨_, entered.entering⟩, entered.wrN.trans (Bool.or_true _)⟩
  -- three bytes of the stack are skipped
  intro lines
  obtain ⟨s₃, _, clock, third, -⟩ := Resetting.next mem second ⟨1, by decide⟩ rfl (by decide) lines
    memory
  rw [clock]
  intro lines
  obtain ⟨s₄, _, clock, fourth, before⟩ := Resetting.next mem third ⟨2, by decide⟩ rfl (by decide)
    lines memory
  rw [clock]
  intro lines
  obtain ⟨s₅, _, clock, fifth, chosen⟩ := Resetting.next mem fourth ⟨3, by decide⟩ rfl (by decide)
    lines memory
  rw [clock]
  have rst : s₄.rstCycle = true := fourth.entering.choose_spec.rstCycle
  have low : s₅.address = resetVector := by
    rw [address_ba chosen.setAddrToR, chosen.bah, chosen.bal, before.setAddrToR, vector_reset rst]
    rfl
  intro lines
  obtain ⟨s₆, _, clock, sixth, again⟩ := Resetting.next mem fifth ⟨4, by decide⟩ rfl (by decide)
    lines memory
  rw [clock]
  have high : s₆.address = resetVector + 1 := by
    rw [address_ba again.setAddrToR, again.bah, again.bal, chosen.setAddrToR,
      vector_reset chosen.entering.rstCycle]
    rfl
  have dl : s₆.dl = mem.load memory resetVector := by
    rw [again.dl, low]
    rfl
  obtain ⟨pc, entering⟩ := sixth.entering
  have masked : s₆.p.i = true := congrArg (fun r : Regs => r.flags.i) entering.regs
  intro lines
  rw [System.clock_read (c := ⟨s₆, memory⟩) sixth.reads high]
  obtain ⟨boundary, regs, free⟩ := Entering.finish entering masked
    (Cpu2A03.pins lines.irqN lines.nmiN) (mem.load memory (resetVector + 1))
  refine ⟨⟨boundary, ?_, rfl, ?_⟩, free⟩
  · rw [regs, dl]
    rfl
  · intro accepted
    rw [interrupted, Bool.or_eq_false_iff] at free
    exact absurd (free.1.symm.trans accepted) Bool.false_ne_true

/-! ## Runs from a reset -/

/-- What drives the processor: its reset, its enable and the interrupt lines. -/
structure Drive where
  /-- `Res_n`. -/
  resN : Bool
  /-- `Enable`. -/
  enable : Bool
  /-- The interrupt lines. -/
  lines : Lines
  deriving DecidableEq

/-- The processor with the registers of its reset, and a memory on its bus. -/
structure Board (σ : Type*) where
  /-- The processor. -/
  cpu : ResetT65
  /-- The memory. -/
  mem : σ

namespace Board

/-- The processor and the memory. -/
def system (b : Board σ) : System σ := ⟨b.cpu.core, b.mem⟩

/-- An edge of the processor clock. A bus cycle ends with an enabled edge. -/
def edge (mem : Memory σ) (d : Drive) (b : Board σ) : Board σ where
  cpu :=
    b.cpu.edge d.resN d.enable (Cpu2A03.pins d.lines.irqN d.lines.nmiN)
      (Cpu2A03.di b.cpu.core (mem.load b.mem b.cpu.core.address))
  mem :=
    if d.resN && d.enable && !b.cpu.core.wrN then
      mem.store b.mem b.cpu.core.address b.cpu.core.dataOut
    else b.mem

/-- The enable and the interrupt lines some edges later. -/
def driven (inputs : ℕ → Drive) (first n : ℕ) : Bool × Lines :=
  ((inputs (first + n)).enable, (inputs (first + n)).lines)

variable {b : Board σ} {d : Drive}

/-- Out of reset the board is the processor with an enable. -/
theorem edge_released (mem : Memory σ) (high : d.resN = true)
    (released : b.cpu.resNI = true ∧ b.cpu.resND = true) :
    (b.edge mem d).system = gated (System.clock mem) (d.enable, d.lines) b.system ∧
      (b.edge mem d).cpu.resNI = true ∧ (b.edge mem d).cpu.resND = true := by
  obtain ⟨⟨core, resNI, resND⟩, m⟩ := b
  obtain ⟨rfl, rfl⟩ := released
  obtain ⟨resN, enable, lines⟩ := d
  subst high
  refine ⟨?_, rfl, rfl⟩
  cases enable
  · rfl
  · show System.mk _ (if true && true && !core.wrN then _ else m) = _
    cases writes : core.wrN <;> simp only [gated, system, System.clock, writes] <;> rfl

/-- An edge that comes before the release is over leaves the processor in reset. -/
theorem edge_held (mem : Memory σ) (high : d.resN = true) (s : T65) (resND : Bool) (m : σ) :
    edge mem d ⟨⟨s.reset, false, resND⟩, m⟩ = ⟨⟨s.reset, resND, true⟩, m⟩ := by
  rw [edge, ResetT65.edge, high]
  cases d.enable <;> rfl

/-- Two edges after a reset the registers are still those of the reset, and nothing was
written. -/
theorem reset_released (mem : Memory σ) (b : Board σ) (inputs : ℕ → Drive)
    (asserted : (inputs 0).resN = false) (released : ∀ n, (inputs (n + 1)).resN = true) :
    trace (edge mem) inputs b 3 = ⟨⟨b.cpu.core.reset, true, true⟩, b.mem⟩ := by
  have first : trace (edge mem) inputs b 1 = ⟨⟨b.cpu.core.reset, false, false⟩, b.mem⟩ := by
    rw [trace_succ, trace_zero, edge, ResetT65.edge, asserted]
    rfl
  rw [trace_succ, trace_succ, first, edge_held mem (released 0), edge_held mem (released 1)]

/-- Out of reset a run of the board is a run of the processor with an enable. -/
theorem trace_released (mem : Memory σ) (b : Board σ) (inputs : ℕ → Drive)
    (asserted : (inputs 0).resN = false) (released : ∀ n, (inputs (n + 1)).resN = true) (n : ℕ) :
    (trace (edge mem) inputs b (3 + n)).system =
        trace (gated (System.clock mem)) (driven inputs 3) ⟨b.cpu.core.reset, b.mem⟩ n ∧
      (trace (edge mem) inputs b (3 + n)).cpu.resNI = true ∧
      (trace (edge mem) inputs b (3 + n)).cpu.resND = true := by
  induction n with
  | zero =>
    rw [reset_released mem b inputs asserted released]
    exact ⟨rfl, rfl, rfl⟩
  | succ n ih =>
    obtain ⟨same, up⟩ := ih
    have high : (inputs (3 + n)).resN = true := by
      rw [show 3 + n = 2 + n + 1 by omega]
      exact released (2 + n)
    have step := edge_released mem high up
    rw [same] at step
    exact step

/-- A memory that holds nothing but `NOP`s. -/
def nops : Memory Unit where
  load _ _ := 0xEA
  store _ _ _ := ()

/-- One edge of reset, then an enabled processor without interrupts. -/
def free (n : ℕ) : Drive := ⟨n != 0, true, ⟨true, true⟩⟩

end Board

end T65

end FpgaNes
