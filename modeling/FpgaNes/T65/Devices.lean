import FpgaNes.T65.Reset

/-!
# The processor: devices on the bus

A read of a device finds what the device puts on the bus in that cycle. An instruction sees one
answer for each address that it reads, so a run is one of the 6502 with the answers of each
instruction.
-/

namespace FpgaNes

open Hdl
open Mos6502 (Word Memory Running DeviceStep afterReset)

namespace T65

variable {σ : Type*}

/-- An edge of the processor clock, with the byte that a device would put on the bus. -/
def System.deviceClock (mem : Memory σ) (device : Word → Bool) (input : Lines × Byte) :
    System σ → System σ :=
  System.clock (mem.answering device fun _ => input.2) input.1

/-- The processor reads a device. -/
def System.asks (device : Word → Bool) (c : System σ) : Bool :=
  c.cpu.wrN && device c.cpu.address

/-- A device that is read answers what the program is to see. -/
theorem System.deviceClock_eq (mem : Memory σ) (device : Word → Bool) (answer : Word → Byte)
    (input : Lines × Byte) (c : System σ)
    (told : c.asks device = true → input.2 = answer c.cpu.address) :
    c.deviceClock mem device input = c.clock (mem.answering device answer) input.1 := by
  have data : Cpu2A03.di c.cpu ((mem.answering device fun _ => input.2).load c.mem c.cpu.address) =
      Cpu2A03.di c.cpu ((mem.answering device answer).load c.mem c.cpu.address) := by
    rw [Cpu2A03.di, Cpu2A03.di]
    cases reads : c.cpu.wrN with
    | false => rfl
    | true =>
      show (if device _ then input.2 else _) = if device _ then answer _ else _
      cases selected : device c.cpu.address with
      | false => rfl
      | true => exact told (by rw [asks, reads, selected]; rfl)
  rw [deviceClock, clock, clock, data]
  rfl

/-- From a reset and from each opcode fetch on, over seven machine cycles, each device that is
read answers with one byte. -/
def Answered (mem : Memory σ) (device : Word → Bool) (inputs : ℕ → Lines × Byte)
    (start : System σ) (answers : ℕ → Word → Byte) (time : ℕ) : Prop :=
  let run := trace (System.deviceClock mem device) inputs start
  ∀ m, m = 0 ∨ (run m).cpu.sync = true → ∀ j < 7, m + j < time →
    (run (m + j)).asks device = true → (inputs (m + j)).2 = answers m (run (m + j)).cpu.address

/-- A program is at an opcode fetch. -/
theorem Represents.sync {p : Running σ} {c : System σ} (h : Represents p c) :
    c.cpu.sync = true := by
  obtain ⟨⟨i, mask, between⟩, -⟩ := h
  exact beq_of_eq between.boundary.sync

/-- From a reset the processor follows the 6502 with the answers of the devices. -/
theorem run_devices (mem : Memory σ) (device : Word → Bool) (s : T65) (memory : σ)
    (inputs : ℕ → Lines × Byte) (answers : ℕ → Word → Byte) (time : ℕ) (late : 6 ≤ time)
    (answered : Answered mem device inputs ⟨s.reset, memory⟩ answers time)
    (documented : ∀ n q, Timed (Clocked (DeviceStep mem device) answers)
      (6, ⟨afterReset (mem.answering device (answers 0)) s.regs memory, none⟩) n q →
        q.2.Documented (mem.answering device (answers q.1))) :
    ∃ n q, 6 + n ≤ time ∧ time < 6 + n + 7 ∧
      Timed (Clocked (DeviceStep mem device) answers)
        (6, ⟨afterReset (mem.answering device (answers 0)) s.regs memory, none⟩) n (6 + n, q) ∧
      Represents q (trace (System.deviceClock mem device) inputs ⟨s.reset, memory⟩ (6 + n)) := by
  have agrees (m : ℕ) (begins : m = 0 ∨
      (trace (System.deviceClock mem device) inputs ⟨s.reset, memory⟩ m).cpu.sync = true)
      (j : ℕ) (near : j < 7) (within : m + j < time) :=
    System.deviceClock_eq mem device (answers m) (inputs (m + j)) _
      (answered m begins j near within)
  have start : Represents ⟨afterReset (mem.answering device (answers 0)) s.regs memory, none⟩
      (trace (System.deviceClock mem device) inputs ⟨s.reset, memory⟩ 6) := by
    have reset : After (System.clock (mem.answering device (answers 0))) 6 _ ⟨s.reset, memory⟩ :=
      enterReset s memory
    have entered := reset.trace fun i => (inputs i).1
    rw [trace_agrees (System.deviceClock mem device) inputs
      (System.clock (mem.answering device (answers 0))) (fun i => (inputs i).1) 6 fun j near => by
        have step := agrees 0 (.inl rfl) j (by omega) (by omega)
        rwa [Nat.zero_add] at step]
    exact ⟨⟨.brk, true, entered.1⟩, (accepted_none _).mpr entered.2⟩
  obtain ⟨n, q, before, soon, steps, here⟩ := Simulates.run_clocked
    (fun answer : Word → Byte => simulates (mem.answering device answer)) (by decide) Prod.fst
    answers start documented (time - 6) fun m b _ within stands j near =>
      agrees m (.inr stands.sync) j near (by omega)
  exact ⟨n, q, by omega, by omega, steps, here⟩

end T65

end FpgaNes
