import FpgaNes.Mos6502.Semantics

/-!
# The 6502: instructions and interrupts one after the other

A program makes an instruction, or enters the interrupt that was accepted at the end of the
last one. The lines decide which interrupt that is, so a step is a relation.
-/

namespace FpgaNes.Mos6502

variable {σ : Type*}

/-- An interrupt that takes the place of the next instruction. -/
inductive Interrupt where
  | irq
  | nmi
  deriving DecidableEq, Repr

/-- A program, with the interrupt that comes before its next instruction. -/
structure Running (σ : Type*) where
  /-- The registers and the memory. -/
  machine : Machine σ
  /-- The interrupt that the next step enters. -/
  accepted : Option Interrupt

/-- A vector a request or `BRK` loads: an `NMI` takes it over. -/
def vectors : List Word := [irqVector, nmiVector]

/-- A step of a program, with its cycles. -/
inductive Step (mem : Memory σ) : Running σ → ℕ → Running σ → Prop
  /-- An instruction. A request after it is accepted only where it is not masked. -/
  | execute {m : Machine σ} {i : Instruction} {accepted : Option Interrupt}
      (decoded : i ∈ decode (mem.load m.mem m.regs.pc)) (other : i ≠ .brk)
      (masked : accepted = some .irq → i.mask mem m = false) :
      Step mem ⟨m, none⟩ (i.cycles mem m) ⟨i.exec mem m, accepted⟩
  /-- `BRK`. The byte after the opcode is skipped. -/
  | brk {m : Machine σ} {vector : Word} (decoded : .brk ∈ decode (mem.load m.mem m.regs.pc))
      (chosen : vector ∈ vectors) :
      Step mem ⟨m, none⟩ 7 ⟨interrupt mem true vector (m.regs.pc + 2) m, none⟩
  /-- An interrupt request. -/
  | irq {m : Machine σ} {vector : Word} (chosen : vector ∈ vectors) :
      Step mem ⟨m, some .irq⟩ 7 ⟨interrupt mem false vector m.regs.pc m, none⟩
  /-- A non-maskable interrupt. -/
  | nmi {m : Machine σ} :
      Step mem ⟨m, some .nmi⟩ 7 ⟨interrupt mem false nmiVector m.regs.pc m, none⟩

/-- The program a reset starts: three bytes of the stack are skipped, requests are masked and the
vector is loaded. -/
def afterReset (mem : Memory σ) (r : Regs) (m : σ) : Machine σ where
  regs :=
    { r with
      s := 0xFD
      pc := loadWord mem m resetVector (resetVector + 1)
      flags := { n := false, v := false, d := false, i := true, z := false, c := false } }
  mem := m

/-- A program at the opcode of a documented instruction, or before an interrupt. -/
def Running.Documented (mem : Memory σ) (p : Running σ) : Prop :=
  p.accepted = none → ∃ i, i ∈ decode (mem.load p.machine.mem p.machine.regs.pc)

/-- A memory behind some addresses of which are devices, with what these answer. -/
def Memory.answering (mem : Memory σ) (device : Word → Bool) (answer : Word → Byte) :
    Memory σ where
  load m a := if device a then answer a else mem.load m a
  store := mem.store

/-- A step of a program that reads devices, with what they answer during it. -/
def DeviceStep (mem : Memory σ) (device : Word → Bool) (answer : Word → Byte) :
    Running σ → ℕ → Running σ → Prop :=
  Step (mem.answering device answer)

end FpgaNes.Mos6502
