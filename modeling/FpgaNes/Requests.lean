import FpgaNes.Bus
import Mathlib.Tactic.IntervalCases

/-!
# Exactly-once requests

A register access asks for service on some of the request and handle pairs, on the edge
that ends its bus cycle. The PPU has two of its own edges before the next CPU edge to
perform the request. It performs every request exactly once in that time unless a live
palette read holds up the read handler, which happens when a read of `$2007` follows a
read of `$2007` on the next CPU cycle.
-/

namespace FpgaNes

open Hdl

namespace Ppu

/-- What performing a request does to the registers of the PPU. -/
def effect (before after : Ppu) : Lane → Prop
  | .write => after.access.ppuWrite = true
  | .read => after.access.ppuRead = true
  | .load => after.vram.activeVramAddress = before.cpu.tempVramAddress
  | .inc => after.vram.activeVramAddress = before.incremented
  | .nmiClear => after.nmi.nmiOccured = false

/-- An edge performs a request: the handle moves and the effect takes place. -/
def Performs (before after : Ppu) (l : Lane) : Prop :=
  (after.lane l).handle ≠ (before.lane l).handle ∧ effect before after l

instance (before after : Ppu) (l : Lane) : Decidable (Performs before after l) := by
  unfold Performs effect
  cases l <;> exact inferInstance

end Ppu

namespace Nes

variable {pins : Pins} {bus : CpuBus}

/-- An answered request of the VRAM address handler or of the vertical blank handler takes
effect on the edge that answers it. -/
theorem effect_of_ungated (nes : Nes) (released : pins.reset = false) (cpuEdge : Bool) (l : Lane)
    (ungated : l.gated = false) (served : (nes.ppu.waiting l && nes.ready bus l) = true) :
    Ppu.effect nes.ppu (nes.ppuClock pins bus cpuEdge).ppu l := by
  obtain ⟨waits, ready⟩ := Bool.and_eq_true_iff.mp served
  cases l with
  | write => exact absurd ungated Bool.noConfusion
  | read => exact absurd ungated Bool.noConfusion
  | load =>
    have pending : nes.ppu.loadPending = true := waits
    have clear : nes.ppu.waiting .write = false ∧ nes.ppu.waiting .read = false := by
      simpa [Nes.ready, Ppu.ready] using ready
    have free : nes.ppu.writePending = false ∧ nes.ppu.readPending = false := clear
    simp [Ppu.effect, released, Ppu.vramNext, pending, free]
  | inc =>
    have pending : nes.ppu.incPending = true := waits
    have clear : (nes.ppu.waiting .write = false ∧ nes.ppu.waiting .read = false) ∧
        nes.ppu.waiting .load = false := by
      simpa [Nes.ready, Ppu.ready] using ready
    have free : (nes.ppu.writePending = false ∧ nes.ppu.readPending = false) ∧
        nes.ppu.loadPending = false := clear
    simp [Ppu.effect, released, Ppu.vramNext, pending, free]
  | nmiClear =>
    have pending : nes.ppu.nmiClearPending = true := waits
    simp [Ppu.effect, released, Ppu.nmiNext, pending]

/-- An answered request takes effect on the edge that answers it. -/
theorem effect_of_served (nes : Nes) (running : pins.Running) (cpuEdge : Bool) (l : Lane)
    (served : (nes.ppu.waiting l && nes.ready bus l) = true) :
    Ppu.effect nes.ppu (nes.ppuClock pins bus cpuEdge).ppu l := by
  cases l with
  | write =>
    have pulse := (nes.ppu.accessNext_handles (nes.cpuControl bus)
      (nes.settledData pins bus)).1
    simp only [Ppu.effect, ppuClock_access, running.reset, running.enable]
    exact pulse.trans (Bool.and_eq_true_iff.mp served).1
  | read =>
    obtain ⟨waits, ready⟩ := Bool.and_eq_true_iff.mp served
    have pending : nes.ppu.readPending = true := waits
    have live : nes.ppu.cpuFramePaletteRead (nes.cpuControl bus) = false := by
      simpa [Nes.ready, Ppu.ready] using ready
    cases one : nes.ppu.access.oneAfterRead <;> cases w : nes.ppu.writePending <;>
      simp [Ppu.effect, running.reset, running.enable, Ppu.accessNext, Ppu.writeHalf,
        Ppu.readHalf, pending, live, one, w]
  | load => exact effect_of_ungated nes running.reset cpuEdge _ rfl served
  | inc => exact effect_of_ungated nes running.reset cpuEdge _ rfl served
  | nmiClear => exact effect_of_ungated nes running.reset cpuEdge _ rfl served

/-- A period performs a request exactly when it was waiting and the PPU was ready. -/
theorem performs_iff (nes : Nes) (running : pins.Running) (cpuEdge : Bool) (l : Lane) :
    Ppu.Performs nes.ppu (nes.ppuClock pins bus cpuEdge).ppu l ↔
      (nes.ppu.waiting l && nes.ready bus l) = true := by
  have moved : ((nes.ppuClock pins bus cpuEdge).ppu.lane l).handle ≠ (nes.ppu.lane l).handle ↔
      (nes.ppu.waiting l && nes.ready bus l) = true := by
    rw [lane_ppuClock running]
    exact Handshake.handle_step _ _ _
  exact ⟨fun performed => moved.mp performed.1,
    fun served => ⟨moved.mpr served, effect_of_served nes running cpuEdge l served⟩⟩

/-! ## One bus cycle -/

/-- How often the two edges inside a bus cycle perform a request on a pair. -/
def performed (pins : Pins) (bus : CpuBus) (nes : Nes) (l : Lane) : ℕ :=
  let first := nes.ppuClock pins bus false
  let second := first.ppuClock pins bus false
  (decide (Ppu.Performs nes.ppu first.ppu l)).toNat +
    (decide (Ppu.Performs first.ppu second.ppu l)).toNat

/-- For how many of the three periods that start inside or at the end of a bus cycle
`PPU_WRITE` is high. -/
def writePulses (pins : Pins) (bus : CpuBus) (nes : Nes) : ℕ :=
  let first := nes.ppuClock pins bus false
  let second := first.ppuClock pins bus false
  first.ppuWrite.toNat + second.ppuWrite.toNat + (nes.cpuClock pins bus).ppuWrite.toNat

/-- What waits in the middle of a bus cycle, after its first PPU edge. -/
theorem first_waiting (bus : CpuBus) (nes : Nes) (running : pins.Running) (l : Lane) :
    (nes.ppuClock pins bus false).ppu.waiting l =
      (nes.ppu.waiting l && !nes.ready bus l) := by
  rw [waiting_ppuClock bus nes running, Bool.false_and, Bool.false_xor]

/-- What waits just before the last edge of a bus cycle. -/
theorem sample_waiting (nes : Nes) (running : pins.Running) (l : Lane) :
    (nes.sample pins bus).ppu.waiting l =
      (nes.ppu.waiting l && !nes.ready bus l &&
        !(nes.ppuClock pins bus false).ready bus l) := by
  have second := first_waiting bus (nes.ppuClock pins bus false) running l
  rw [first_waiting bus nes running] at second
  exact second

/-- The requests that wait come from one register access. -/
structure OneAccess (ppu : Ppu) : Prop where
  /-- With a write no read and no load waits. -/
  write : ppu.waiting .write = true → ppu.waiting .read = false ∧ ppu.waiting .load = false
  /-- With a read no load waits. -/
  read : ppu.waiting .read = true → ppu.waiting .load = false
  /-- With a load no increment waits. -/
  load : ppu.waiting .load = true → ppu.waiting .inc = false
  /-- An increment waits with an access of `$2007` only. -/
  inc : ppu.waiting .inc = true → (ppu.waiting .write || ppu.waiting .read) = true

/-- A bus cycle makes one register access. -/
theorem asks_one (nes : Nes) (bus : CpuBus) :
    (nes.asks bus .write = true → nes.asks bus .read = false ∧ nes.asks bus .load = false) ∧
      (nes.asks bus .read = true → nes.asks bus .load = false) ∧
      (nes.asks bus .load = true → nes.asks bus .inc = false) ∧
      (nes.asks bus .inc = true → (nes.asks bus .write || nes.asks bus .read) = true) := by
  simp only [asks, CpuPort.asks]
  generalize (nes.cpuControl bus).addr.toNat = number
  generalize (nes.cpuControl bus).dmaWrite = dma
  generalize (nes.cpuControl bus).wren = wren
  generalize (nes.cpuControl bus).rden = rden
  refine ⟨?_, ?_, ?_, ?_⟩ <;> cases dma <;> cases wren <;> cases rden <;>
    simp +contextual

/-- A bus cycle asks for an increment with each access. -/
theorem asks_step (nes : Nes) (bus : CpuBus) :
    nes.asks bus .inc = (nes.asks bus .write || nes.asks bus .read) := by
  simp only [asks, CpuPort.asks]
  cases (nes.cpuControl bus).dmaWrite <;> cases (nes.cpuControl bus).wren <;>
    cases (nes.cpuControl bus).rden <;> simp

/-- From a quiet sample, what waits after the CPU edge is what the bus cycle asked for. -/
theorem cpuClock_asked (nes : Nes) (running : pins.Running)
    (quiet : (nes.sample pins bus).ppu.Quiet) :
    (∀ l, (nes.cpuClock pins bus).ppu.waiting l = nes.asks bus l) ∧
      OneAccess (nes.cpuClock pins bus).ppu := by
  have asked (l : Lane) : (nes.cpuClock pins bus).ppu.waiting l = nes.asks bus l := by
    rw [waiting_cpuClock bus nes running, quiet l, Bool.false_and, Bool.xor_false]
  obtain ⟨write, read, load, inc⟩ := nes.asks_one bus
  refine ⟨asked, ⟨?_, ?_, ?_, ?_⟩⟩ <;> simp only [asked]
  · exact write
  · exact read
  · exact load
  · exact inc

/-- A live palette read holds up a waiting read at the first PPU edge of the bus cycle. -/
def HeldUp (nes : Nes) (bus : CpuBus) : Prop :=
  nes.ppu.waiting .read = true ∧ nes.ppu.cpuFramePaletteRead (nes.cpuControl bus) = true

/-- Everything the two edges inside a bus cycle are to do about the waiting requests. -/
structure CycleServed (pins : Pins) (bus : CpuBus) (nes : Nes) : Prop where
  /-- Every pair agrees before the next CPU edge. -/
  agree : (nes.sample pins bus).ppu.Quiet
  /-- Every waiting request is performed exactly once, and no other. -/
  once : ∀ l, performed pins bus nes l = (nes.ppu.waiting l).toNat
  /-- A waiting write gives exactly one period of `PPU_WRITE`. -/
  pulse : writePulses pins bus nes = (nes.ppu.waiting .write).toNat

/-- A held up read leaves its increment waiting at the next CPU edge. -/
theorem not_quiet_of_heldUp (nes : Nes) (running : pins.Running)
    (asked : nes.ppu.waiting .inc = true) (held : HeldUp nes bus) :
    (nes.sample pins bus).ppu.waiting .inc = true := by
  obtain ⟨waits, live⟩ := held
  have blocked : nes.ready bus .read = false := by
    simp [ready, Ppu.ready, live]
  have still : (nes.ppuClock pins bus false).ppu.waiting .read = true := by
    rw [first_waiting bus nes running, waits, blocked]
    rfl
  have first : nes.ready bus .inc = false := by
    simp [ready, Ppu.ready, waits]
  have second : (nes.ppuClock pins bus false).ready bus .inc = false := by
    simp [ready, Ppu.ready, still]
  rw [sample_waiting nes running, asked, first, second]
  rfl

/-- `PPU_WRITE` is high for the period after an edge at which a write was waiting. -/
theorem ppuClock_pulse (nes : Nes) (running : pins.Running) (cpuEdge : Bool) :
    (nes.ppuClock pins bus cpuEdge).ppuWrite = nes.ppu.waiting .write := by
  have pulse := (nes.ppu.accessNext_handles (nes.cpuControl bus) (nes.settledData pins bus)).1
  rw [ppuWrite, ppuClock_access, running.reset, running.enable]
  exact pulse

/-- A count of edges that perform a request, from what waits at each of them. -/
theorem performed_eq (nes : Nes) (running : pins.Running) (l : Lane) :
    performed pins bus nes l =
      (nes.ppu.waiting l && nes.ready bus l).toNat +
        ((nes.ppuClock pins bus false).ppu.waiting l &&
          (nes.ppuClock pins bus false).ready bus l).toNat := by
  simp only [performed, performs_iff nes running,
    performs_iff (nes.ppuClock pins bus false) running, Bool.decide_eq_true]

/-- After the first edge only the increment of an access that is not held up waits. -/
theorem first_of_free (nes : Nes) (running : pins.Running) (one : OneAccess nes.ppu)
    (free : ¬ HeldUp nes bus) (l : Lane) :
    (nes.ppuClock pins bus false).ppu.waiting l =
      if l = .inc then nes.ppu.waiting .inc else false := by
  rw [first_waiting bus nes running]
  cases l with
  | write => simp [ready, Ppu.ready]
  | read =>
    cases waits : nes.ppu.waiting .read with
    | false => rfl
    | true =>
      have quiet : nes.ppu.cpuFramePaletteRead (nes.cpuControl bus) = false := by
        simpa [HeldUp, waits] using free
      simp [ready, Ppu.ready, quiet]
  | load =>
    cases waits : nes.ppu.waiting .load with
    | false => rfl
    | true =>
      have write : nes.ppu.waiting .write = false := by
        by_contra pending
        have := (one.write (Bool.eq_true_of_not_eq_false pending)).2
        simp [waits] at this
      have read : nes.ppu.waiting .read = false := by
        by_contra pending
        have := one.read (Bool.eq_true_of_not_eq_false pending)
        simp [waits] at this
      simp [ready, Ppu.ready, write, read]
  | inc =>
    cases waits : nes.ppu.waiting .inc with
    | false => rfl
    | true =>
      have access := one.inc waits
      simp only [ready, Ppu.ready, if_true, Bool.true_and, Bool.not_eq_true']
      cases write : nes.ppu.waiting .write with
      | true => rfl
      | false =>
        rw [write, Bool.false_or] at access
        rw [access]
        rfl
  | nmiClear => simp [ready, Ppu.ready]

/-- The requests of one access, none of them held up, are all performed in time. -/
theorem cycleServed_of_free (nes : Nes) (running : pins.Running) (one : OneAccess nes.ppu)
    (free : ¬ HeldUp nes bus) : CycleServed pins bus nes := by
  have first := first_of_free nes running one free
  have clear : (nes.ppuClock pins bus false).ready bus .inc = true := by
    simp [ready, Ppu.ready, first]
  have quiet : (nes.sample pins bus).ppu.Quiet := by
    intro l
    rw [sample_waiting nes running, ← first_waiting bus nes running, first]
    by_cases inc : l = .inc
    · subst inc
      rw [clear]
      simp
    · simp [inc]
  refine ⟨quiet, fun l => ?_, ?_⟩
  · have now := first_waiting bus nes running l
    rw [first] at now
    rw [performed_eq nes running, first]
    by_cases inc : l = .inc
    · subst inc
      rw [if_pos rfl] at now ⊢
      rw [clear]
      cases waits : nes.ppu.waiting .inc <;> cases able : nes.ready bus .inc <;>
        simp [waits, able] at now ⊢
    · rw [if_neg inc] at now ⊢
      cases waits : nes.ppu.waiting l <;> cases able : nes.ready bus l <;>
        simp [waits, able] at now ⊢
  · have second : (nes.ppuClock pins bus false).ppu.waiting .write = false := by simp [first]
    have third : ((nes.ppuClock pins bus false).ppuClock pins bus false).ppu.waiting .write =
        false := quiet .write
    simp only [writePulses, cpuClock_eq, ppuClock_pulse _ running, second, third,
      Bool.toNat_false, Nat.add_zero]

/-! ## Runs -/

/-- The requests of a bus cycle of the run: each is performed exactly once, with its one
`PPU_WRITE` pulse if it is a write, and its pair agrees, before the next CPU edge. -/
structure ServedOnce (io : ℕ → Input) (start : Nes) (n : ℕ) : Prop where
  /-- No request waits before the next bus cycle ends. -/
  agree : ((cpuRun io start (n + 1)).sample (io (n + 1)).pins (io (n + 1)).bus).ppu.Quiet
  /-- Each request is performed as often as it was asked for. -/
  once : ∀ l, performed (io (n + 1)).pins (io (n + 1)).bus (cpuRun io start (n + 1)) l =
    ((cpuRun io start n).asks (io n).bus l).toNat
  /-- `PPU_WRITE` is high as often as a write was asked for. -/
  pulse : writePulses (io (n + 1)).pins (io (n + 1)).bus (cpuRun io start (n + 1)) =
    ((cpuRun io start n).asks (io n).bus .write).toNat

/-- A read of `$2007` on the CPU cycle after a read of `$2007`, with the PPU bus at or
above `$3F00` in the PPU clock between them. -/
structure PaletteReadRepeated (io : ℕ → Input) (start : Nes) (n : ℕ) : Prop where
  /-- A bus cycle reads `$2007`. -/
  first : (cpuRun io start n).asks (io n).bus .read = true
  /-- So does the next. -/
  second : (cpuRun io start (n + 1)).asks (io (n + 1)).bus .read = true
  /-- The address is in the palette meanwhile. -/
  palette : 0x3F00 ≤ (cpuRun io start (n + 1)).ppuAddrBus.toNat

/-- A live palette read is a read of `$2007` with the PPU bus at or above `$3F00`. -/
theorem live_iff (nes : Nes) (bus : CpuBus) :
    nes.ppu.cpuFramePaletteRead (nes.cpuControl bus) = true ↔
      nes.asks bus .read = true ∧ 0x3F00 ≤ nes.ppuAddrBus.toNat := by
  simp only [Ppu.cpuFramePaletteRead, asks, CpuPort.asks, ppuAddrBus, cpuControl, cpuPpuRden,
    cpuPpuWren, dmaWrite]
  cases nes.dma.dmaActive <;> cases bus.rwN <;> simp [and_assoc]

/-- A quiet console stays quiet over a bus cycle, before its last edge. -/
theorem sample_quiet (nes : Nes) (running : pins.Running) (quiet : nes.ppu.Quiet) :
    (nes.sample pins bus).ppu.Quiet := by
  intro l
  rw [sample_waiting nes running, quiet l]
  rfl

/-- A repeated palette read leaves the first read's increment unperformed at the next CPU
edge. -/
theorem not_served_of_repeated (io : ℕ → Input) (start : Nes) (n : ℕ)
    (before : (io n).pins.Running) (running : (io (n + 1)).pins.Running)
    (quiet : ((cpuRun io start n).sample (io n).pins (io n).bus).ppu.Quiet)
    (again : PaletteReadRepeated io start n) : ¬ ServedOnce io start n := by
  intro served
  have asked := (cpuClock_asked (cpuRun io start n) before quiet).1
  rw [← cpuRun_succ] at asked
  have inc : (cpuRun io start n).asks (io n).bus .inc = true := by
    have read := again.first
    simp only [asks, CpuPort.asks] at read ⊢
    simp_all
  have held : HeldUp (cpuRun io start (n + 1)) (io (n + 1)).bus :=
    ⟨(asked .read).trans again.first, (live_iff _ _).mpr ⟨again.second, again.palette⟩⟩
  have stuck := not_quiet_of_heldUp _ running ((asked .inc).trans inc) held
  rw [served.agree .inc] at stuck
  contradiction

/-- Before each CPU edge of a run without repeated palette reads the pairs agree. -/
theorem sample_quiet_of_run (io : ℕ → Input) (start : Nes) (n : ℕ)
    (running : ∀ i ≤ n, (io i).pins.Running) (quiet : start.ppu.Quiet)
    (apart : ∀ i < n, ¬ PaletteReadRepeated io start i) :
    ((cpuRun io start n).sample (io n).pins (io n).bus).ppu.Quiet := by
  induction n with
  | zero => exact sample_quiet start (running 0 (Nat.le_refl 0)) quiet
  | succ n ih =>
    have before := ih (fun i le => running i (Nat.le_succ_of_le le))
      (fun i lt => apart i (Nat.lt_succ_of_lt lt))
    obtain ⟨asked, one⟩ := cpuClock_asked _ (running n (Nat.le_succ n)) before
    rw [← cpuRun_succ] at asked one
    have free : ¬ HeldUp (cpuRun io start (n + 1)) (io (n + 1)).bus := by
      intro held
      have live := (live_iff _ _).mp held.2
      exact apart n (Nat.lt_succ_self n)
        ⟨(asked .read).symm.trans held.1, live.1, live.2⟩
    exact (cycleServed_of_free _ (running (n + 1) (Nat.le_refl _)) one free).agree

/-- In every run from a quiet console, all requests of the first bus cycles are performed
exactly once and in time, if and only if none of these cycles is a read of `$2007`
repeated on the next CPU cycle while the PPU bus is at or above `$3F00`. -/
theorem requests_served_iff (io : ℕ → Input) (start : Nes) (n : ℕ)
    (running : ∀ i ≤ n, (io i).pins.Running) (quiet : start.ppu.Quiet) :
    (∀ i < n, ServedOnce io start i) ↔ ∀ i < n, ¬ PaletteReadRepeated io start i := by
  constructor
  · intro served i below again
    have before : ((cpuRun io start i).sample (io i).pins (io i).bus).ppu.Quiet := by
      rcases i with _ | i
      · exact sample_quiet start (running 0 (Nat.zero_le n)) quiet
      · exact (served i (Nat.lt_of_succ_lt below)).agree
    exact not_served_of_repeated io start i (running i (Nat.le_of_lt below))
      (running (i + 1) below) before again (served i below)
  · intro apart i below
    have before := sample_quiet_of_run io start i
      (fun j le => running j (Nat.le_trans le (Nat.le_of_lt below))) quiet
      (fun j lt => apart j (Nat.lt_trans lt below))
    obtain ⟨asked, one⟩ := cpuClock_asked _ (running i (Nat.le_of_lt below)) before
    rw [← cpuRun_succ] at asked one
    have free : ¬ HeldUp (cpuRun io start (i + 1)) (io (i + 1)).bus := by
      intro held
      have live := (live_iff _ _).mp held.2
      exact apart i below ⟨(asked .read).symm.trans held.1, live.1, live.2⟩
    have cycle := cycleServed_of_free _ (running (i + 1) below) one free
    exact ⟨cycle.agree, fun l => by rw [cycle.once, asked], by rw [cycle.pulse, asked]⟩

/-- A palette address, then two reads of `$2007` on consecutive CPU cycles. -/
def repeatedReads : ℕ → Input
  | 0 => .write 0x2006 0x3F
  | 1 => .write 0x2006 0x00
  | 2 => .read 0x8000
  | 3 => .read 0x2007
  | 4 => .read 0x2007
  | _ => .read 0x8000

/-- From power-up the first of two consecutive palette reads is not performed in time. -/
theorem repeatedReads_not_served : ¬ ServedOnce repeatedReads (powerUp .blank) 3 := by
  apply not_served_of_repeated repeatedReads (powerUp .blank) 3 ⟨rfl, rfl⟩ ⟨rfl, rfl⟩
  · intro l
    cases l <;> decide +kernel
  · exact ⟨by decide +kernel, by decide +kernel, by decide +kernel⟩

/-- A write, a read and an address load spaced as the processor spaces them. -/
def spacedAccesses : ℕ → Input
  | 0 => .write 0x2006 0x21
  | 1 => .write 0x2006 0x08
  | 2 => .write 0x2007 0x5A
  | 3 => .read 0x8000
  | 4 => .read 0x2007
  | _ => .read 0x8000

/-- After power-up the write and the read of `$2007` are performed exactly once and in time. -/
theorem spacedAccesses_served :
    ServedOnce spacedAccesses (powerUp .blank) 2 ∧
      ServedOnce spacedAccesses (powerUp .blank) 4 := by
  have apart : ∀ i < 6, ¬ PaletteReadRepeated spacedAccesses (powerUp .blank) i := by
    intro i below again
    have palette := again.palette
    interval_cases i <;> revert palette <;> decide +kernel
  have served := (requests_served_iff spacedAccesses (powerUp .blank) 6
    (fun i _ => by rcases i with _ | _ | _ | _ | _ | i <;> exact ⟨rfl, rfl⟩)
    (fun l => by cases l <;> rfl)).mpr apart
  exact ⟨served 2 (by decide), served 4 (by decide)⟩

end Nes

end FpgaNes
