import FpgaNes.PalettePort
import FpgaNes.Beam

/-!
# The read buffer

`ppu_read_buffer` is captured from the PPU bus on two paths: by a live palette read on each of
its edges, and by `one_after_read` on the edge after a read. The background and sprite fetches
share `one_after_read` with the reads of `$2007`, so they capture too.
-/

namespace FpgaNes

open Hdl

namespace Ppu

variable (ppu : Ppu) (port : CpuPort) (data : Byte)

/-- The read buffer and its flag after an edge. A live palette read and the edge after a read
capture the bus. The flag holds under a live palette read; else it is high for the edge after a
read of `$2007` or a fetch, unless it is high already. -/
theorem accessNext_reads :
    let r := ppu.accessNext false true port data
    r.ppuReadBuffer =
        (if ppu.cpuFramePaletteRead port || ppu.access.oneAfterRead then data
        else ppu.access.ppuReadBuffer) ∧
      r.oneAfterRead =
        if ppu.cpuFramePaletteRead port then ppu.access.oneAfterRead
        else !ppu.access.oneAfterRead && (ppu.waiting .read || ppu.ppuReadRequest) := by
  rw [waiting_read]
  cases live : ppu.cpuFramePaletteRead port <;> cases one : ppu.access.oneAfterRead <;>
    cases write : ppu.writePending <;> cases read : ppu.readPending <;>
    cases fetch : ppu.ppuReadRequest <;>
    simp [accessNext, writeHalf, readHalf, live, one, write, read, fetch]

end Ppu

namespace Nes

variable {pins : Pins} {bus : CpuBus} {nes : Nes}

/-! ## Fetches -/

/-- A cycle that reads no `$2007` has no live palette read. -/
theorem not_live (unread : nes.asks bus .read = false) :
    nes.ppu.cpuFramePaletteRead (nes.cpuControl bus) = false := by
  rw [← Bool.not_eq_true]
  exact fun live => Bool.false_ne_true (unread.symm.trans ((live_iff nes bus).mp live).1)

/-- With no read of `$2007` on the bus, the edge after a read captures the bus. -/
theorem buffer_captured (cpuEdge : Bool) (running : pins.Running)
    (unread : nes.asks bus .read = false) (capture : nes.ppu.access.oneAfterRead = true) :
    (nes.ppuClock pins bus cpuEdge).ppu.access.ppuReadBuffer = nes.settledData pins bus := by
  rw [ppuClock_access, running.reset, running.enable, (Ppu.accessNext_reads _ _ _).1,
    not_live unread, capture]
  rfl

/-- With no read of `$2007` on the bus, every other edge keeps the buffer; so does one in reset
or with `ENABLE` low. -/
theorem buffer_kept (cpuEdge : Bool) (unread : nes.asks bus .read = false)
    (other : pins.Running → nes.ppu.access.oneAfterRead = false) :
    (nes.ppuClock pins bus cpuEdge).ppu.access.ppuReadBuffer =
      nes.ppu.access.ppuReadBuffer := by
  cases stopped : pins.reset || !pins.enable with
  | true =>
    rw [ppuClock_access, Ppu.accessNext, if_pos stopped]
  | false =>
    obtain ⟨released, enabled⟩ := Bool.or_eq_false_iff.mp stopped
    have running : pins.Running := ⟨released, by simpa using enabled⟩
    rw [ppuClock_access, running.reset, running.enable, (Ppu.accessNext_reads _ _ _).1,
      not_live unread, other running]
    rfl

/-- A dot of the background and sprite fetches: dots 1 to 337 of lines 0 to 239 and of the
pre-render line, with rendering enabled. -/
def fetching (nes : Nes) : Bool :=
  nes.ppu.renderEnable && nes.ppu.renderLine &&
    (1 ≤ nes.ppu.engine.cycle.toNat && nes.ppu.engine.cycle.toNat ≤ 337)

/-- The fetch dots are those on which the rendering block asks for a read. -/
theorem ppuReadRequest_fetching (nes : Nes) : nes.ppu.ppuReadRequest = nes.fetching := by
  have dots : (nes.ppu.fetchDot || nes.ppu.spriteFetchDot) =
      (decide (1 ≤ nes.ppu.engine.cycle.toNat) && decide (nes.ppu.engine.cycle.toNat ≤ 337)) := by
    rw [Bool.eq_iff_iff]
    simp only [Ppu.fetchDot, Ppu.spriteFetchDot, Bool.or_eq_true, Bool.and_eq_true,
      decide_eq_true_eq]
    omega
  rw [Ppu.ppuReadRequest, fetching, dots]

/-- A read of `$2007` is to be performed by this clock: one still unanswered when the run
starts, or, after a clock paused or in reset, one that was answered before it. Such a clock
clears the handle, and `cpu_read_request` is high after an odd number of reads. -/
def readsAgain (io : ℕ → Dot) (start : Nes) : ℕ → Bool
  | 0 => start.ppu.waiting .read
  | i + 1 =>
    ((io i).pins.reset || !(io i).pins.enable) && (dotRun io start (i + 1)).ppu.cpu.cpuReadRequest

/-- How many clocks in a row, up to this one, have asked the PPU bus for a byte, by a fetch or by
a read performed again. -/
def asking (io : ℕ → Dot) (start : Nes) : ℕ → ℕ
  | 0 => start.ppu.access.oneAfterRead.toNat
  | i + 1 =>
    if (!(io i).pins.reset && (io i).pins.enable) &&
        ((dotRun io start i).fetching || readsAgain io start i) then
      asking io start i + 1
    else 0

variable {io : ℕ → Dot} {start : Nes} {n : ℕ}

/-- Without a read of `$2007` on the bus, one waits where a run starts with it or a pause brings
it back. -/
theorem waiting_readsAgain (unread : ∀ i < n, (dotRun io start i).asks (io i).bus .read = false)
    (i : ℕ) (le : i ≤ n) : (dotRun io start i).ppu.waiting .read = readsAgain io start i := by
  cases i with
  | zero => rfl
  | succ i =>
    rw [readsAgain]
    cases stopped : (io i).pins.reset || !(io i).pins.enable with
    | true =>
      have handle : (dotRun io start (i + 1)).ppu.access.ppuReadHandle = false := by
        rw [dotRun_succ, ppuClock_access, Ppu.accessNext, if_pos stopped]
      rw [Ppu.waiting_read, Ppu.readPending, handle, Bool.xor_false, Bool.true_and]
    | false =>
      obtain ⟨released, enabled⟩ := Bool.or_eq_false_iff.mp stopped
      have running : (io i).pins.Running := ⟨released, by simpa using enabled⟩
      have ready : (dotRun io start i).ready (io i).bus .read = true := by
        rw [Nes.ready, Ppu.ready, not_live (unread i le)]
        rfl
      rw [dotRun_succ, waiting_ppuClock (io i).bus _ running, unread i le, ready,
        Bool.and_false, Bool.not_true, Bool.and_false]
      rfl

/-- A capture is due after each odd number of clocks in a row that ask for a byte. -/
theorem oneAfterRead_asking (unread : ∀ i < n, (dotRun io start i).asks (io i).bus .read = false)
    (i : ℕ) (le : i ≤ n) :
    (dotRun io start i).ppu.access.oneAfterRead = (asking io start i % 2 == 1) := by
  induction i with
  | zero =>
    rw [asking, dotRun_zero]
    cases start.ppu.access.oneAfterRead <;> rfl
  | succ i ih =>
    have before := ih (Nat.le_of_succ_le le)
    rw [dotRun_succ, ppuClock_access, asking]
    cases stopped : (io i).pins.reset || !(io i).pins.enable with
    | true =>
      have idle : (!(io i).pins.reset && (io i).pins.enable) = false := by
        rw [← Bool.not_inj_iff, Bool.not_and, Bool.not_not, stopped]
        rfl
      rw [Ppu.accessNext, if_pos stopped, idle, Bool.false_and]
      rfl
    | false =>
      obtain ⟨released, enabled⟩ := Bool.or_eq_false_iff.mp stopped
      rw [Bool.not_eq_false'] at enabled
      rw [released, enabled, (Ppu.accessNext_reads _ _ _).2, not_live (unread i le), before,
        waiting_readsAgain unread i (Nat.le_of_succ_le le), ppuReadRequest_fetching,
        if_neg Bool.false_ne_true, Bool.or_comm, Bool.not_false, Bool.and_self, Bool.true_and]
      cases (dotRun io start i).fetching || readsAgain io start i with
      | false =>
        rw [Bool.and_false]
        rfl
      | true =>
        -- the flag is high on every other clock of the stretch
        rw [if_pos rfl, Bool.and_true]
        rcases Nat.mod_two_eq_zero_or_one (asking io start i) with even | odd
        · rw [even, Nat.add_mod, even]
          rfl
        · rw [odd, Nat.add_mod, odd]
          rfl

/-- A run whose captures carry the byte the buffer held at the start keeps it. -/
theorem buffer_of_carried (io : ℕ → Dot) (start : Nes) (n : ℕ)
    (unread : ∀ i < n, (dotRun io start i).asks (io i).bus .read = false)
    (carried : ∀ i < n, (io i).pins.Running →
      (dotRun io start i).ppu.access.oneAfterRead = true →
        (dotRun io start i).settledData (io i).pins (io i).bus =
          start.ppu.access.ppuReadBuffer) (m : ℕ) (le : m ≤ n) :
    (dotRun io start m).ppu.access.ppuReadBuffer = start.ppu.access.ppuReadBuffer := by
  apply trace_invariant (fun _ (nes : Nes) =>
    nes.ppu.access.ppuReadBuffer = start.ppu.access.ppuReadBuffer) rfl m
  intro i below held
  by_cases captures : (io i).pins.Running ∧
      (dotRun io start i).ppu.access.oneAfterRead = true
  · have taken := buffer_captured (io i).cpuEdge captures.1 (unread i (by omega)) captures.2
    exact taken.trans (carried i (by omega) captures.1 captures.2)
  · apply (buffer_kept (io i).cpuEdge (unread i (by omega)) ?_).trans held
    intro running
    exact Bool.eq_false_of_not_eq_true fun capture => captures ⟨running, capture⟩

/-- `PPU_READ` is high while a capture is due. -/
theorem ppuRead_of_capture (io : ℕ → Dot) (start : Nes)
    (initial : start.ppu.access.oneAfterRead = true → start.ppu.access.ppuRead = true) (n : ℕ)
    (capture : (dotRun io start n).ppu.access.oneAfterRead = true) :
    (dotRun io start n).ppu.access.ppuRead = true := by
  revert capture
  refine trace_invariant (fun _ (nes : Nes) => nes.ppu.access.oneAfterRead = true →
    nes.ppu.access.ppuRead = true) initial n fun i _ before => ?_
  rw [trace_succ, ppuClock_access, Ppu.accessNext]
  change _ → _ at before
  split
  · exact fun low => absurd low Bool.false_ne_true
  · generalize trace _ io start i = nes at before ⊢
    intro due
    cases live : nes.ppu.cpuFramePaletteRead (nes.cpuControl (io i).bus) <;>
      cases one : nes.ppu.access.oneAfterRead <;> cases write : nes.ppu.writePending <;>
      cases read : nes.ppu.readPending <;> cases fetch : nes.ppu.ppuReadRequest <;>
      simp [Ppu.writeHalf, Ppu.readHalf, live, one, write, read, fetch, before] at due ⊢

/-- Over any run with no read of `$2007` on the bus the read buffer keeps its byte exactly when,
on every clock in play that follows an odd number of clocks in a row that ask for a byte, the PPU
bus carries that byte. The clocks that ask are those of the fetches, and those after a pause that
perform an answered read again. The byte is the one a performed write stores, else the cell under
the address of the PPU. -/
theorem buffer_held_iff (io : ℕ → Dot) (start : Nes) (n : ℕ)
    (unread : ∀ i < n, (dotRun io start i).asks (io i).bus .read = false) :
    ((∀ m ≤ n, (dotRun io start m).ppu.access.ppuReadBuffer = start.ppu.access.ppuReadBuffer) ↔
      ∀ i < n, (io i).pins.Running → asking io start i % 2 = 1 →
        (dotRun io start i).settledData (io i).pins (io i).bus =
          start.ppu.access.ppuReadBuffer) ∧
    ((start.ppu.access.oneAfterRead = true → start.ppu.access.ppuRead = true) →
      ∀ i ≤ n, asking io start i % 2 = 1 → (io i).pins.chrRomPrgmrWren = false →
        let nes := dotRun io start i
        nes.settledData (io i).pins (io i).bus =
          if nes.ppuWrite then nes.ppu.cpu.ppuWriteBuffer
          else nes.mem.contents.read (io i).pins.header nes.ppuAddrBus.toNat) := by
  have due (i : ℕ) (le : i ≤ n) :
      (dotRun io start i).ppu.access.oneAfterRead = true ↔ asking io start i % 2 = 1 := by
    rw [oneAfterRead_asking unread i le, beq_iff_eq]
  refine ⟨⟨fun held i below running odd => ?_, fun carried => ?_⟩,
    fun initial i le odd unprogrammed => ?_⟩
  · rw [← held (i + 1) below]
    exact (buffer_captured (io i).cpuEdge running (unread i below)
      ((due i (Nat.le_of_lt below)).mpr odd)).symm
  · refine buffer_of_carried io start n unread fun i below running capture => ?_
    exact carried i below running ((due i (Nat.le_of_lt below)).mp capture)
  · have reads := ppuRead_of_capture io start initial i ((due i le).mpr odd)
    have out : (dotRun io start i).ppuRead (io i).bus = true := by
      rw [Nes.ppuRead, Ppu.ppuReadOut, reads, Bool.or_true]
    exact (settledData_eq _ _ _ unprogrammed).trans (by rw [out, if_pos rfl])

/-- A write that enables rendering, and nothing after it. -/
def enableRendering (i : ℕ) : Dot where
  toInput := if i < 3 then .write 0x2001 0x18 else .read 0x8000
  cpuEdge := i % 3 == 2

/-- Memories with one byte in every nametable cell. -/
def tiled : Memories := { Memories.blank with vram := ⟨fun _ => 0x5A, 0⟩ }

/-- One read of `$2007`, from a nametable. -/
def readOnce (i : ℕ) : Dot where
  toInput :=
    if i < 3 then .write 0x2006 0x20
    else if i < 6 then .write 0x2006 0x00
    else if i < 9 then .read 0x2007
    else .read 0x8000
  cpuEdge := i % 3 == 2

/-- Memories with that byte in every cell of the pattern tables too. -/
def uniform : Memories := { tiled with chrRom := ⟨fun _ => 0x5A, 0⟩ }

/-- The console after the read, with its byte in the buffer. -/
def primed : Nes := dotRun readOnce (powerUp uniform) 12

/-- Rendering is enabled, then `ENABLE` is low for three clocks. -/
def renderThenPause (i : ℕ) : Dot where
  pins := { Pins.playing with enable := !(5 ≤ i && i < 8) }
  bus := (enableRendering i).bus
  cpuEdge := i % 3 == 2

/-- The buffer keeps its byte over fetches and over the read that the pause repeats, which all
find that byte. -/
theorem renderThenPause_held :
    (asking renderThenPause primed 4, asking renderThenPause primed 9) = (1, 1) ∧
      readsAgain renderThenPause primed 8 = true ∧
        ∀ m ≤ 12, (dotRun renderThenPause primed m).ppu.access.ppuReadBuffer = 0x5A := by
  have unread : ∀ i < 12,
      (dotRun renderThenPause primed i).asks (renderThenPause i).bus .read = false := by
    decide +kernel
  have carried : ∀ i < 12, asking renderThenPause primed i % 2 = 1 →
      (dotRun renderThenPause primed i).settledData (renderThenPause i).pins
        (renderThenPause i).bus = primed.ppu.access.ppuReadBuffer := by
    decide +kernel
  have byte : primed.ppu.access.ppuReadBuffer = 0x5A := by decide +kernel
  refine ⟨by decide +kernel, by decide +kernel, fun m le => ?_⟩
  rw [← byte]
  exact (buffer_held_iff renderThenPause primed 12 unread).1.mpr
    (fun i below _ => carried i below) m le

/-- Five PPU clocks after power-up, with no read of `$2007`, the first fetch of a nametable
byte has changed the buffer. -/
theorem enableRendering_captures :
    (∀ i < 5, (dotRun enableRendering (powerUp tiled) i).asks (enableRendering i).bus .read =
        false) ∧
      (powerUp tiled).ppu.access.ppuReadBuffer = 0 ∧
      (dotRun enableRendering (powerUp tiled) 5).ppu.access.ppuReadBuffer = 0x5A := by
  refine ⟨fun i below => ?_, rfl, by decide +kernel⟩
  interval_cases i <;> decide +kernel

end Nes

end FpgaNes
