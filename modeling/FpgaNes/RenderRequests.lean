import FpgaNes.Requests
import FpgaNes.Ppu.Tile

/-!
# Address updates of rendering under register accesses

Rendering asks for its updates of `v` for one dot each and keeps no handle for them. The handler
of `v` serves the register accesses first: it holds `v` while an access waits and then spends an
edge on its increment, and what rendering asks for on these edges is lost.
-/

namespace FpgaNes

open Hdl

namespace Ppu

variable (ppu : Ppu)

/-- Rendering asks for an update of `v` on this dot. -/
def requestsAddress : Bool :=
  ppu.ppuHincVramRequest || ppu.ppuHcopyVramRequest || ppu.ppuVincVramRequest ||
    ppu.ppuVcopyVramRequest

/-- An access of `$2007` waits for its turn on the PPU bus. -/
def accessWaits : Bool := ppu.waiting .write || ppu.waiting .read

/-- The next edge loads `v` from `t`. -/
def loads : Bool := !ppu.accessWaits && ppu.waiting .load

/-- The VRAM address after an edge out of reset: accesses hold it, then come loads, increments
and last the updates of rendering. -/
theorem vramNext_address :
    (ppu.vramNext false).activeVramAddress =
      if ppu.accessWaits then ppu.vram.activeVramAddress
      else if ppu.waiting .load then ppu.cpu.tempVramAddress
      else if ppu.waiting .inc then ppu.incremented
      else if ppu.renderEnable then ppu.renderAddress
      else ppu.vram.activeVramAddress := by
  rw [accessWaits, waiting_write, waiting_read, waiting_load, waiting_inc]
  cases w : ppu.writePending <;> cases r : ppu.readPending <;> cases l : ppu.loadPending <;>
    cases i : ppu.incPending <;> cases e : ppu.renderEnable <;> simp [vramNext, w, r, l, i, e]

/-- A request for an update needs rendering enabled. -/
theorem enabled_of_requests (asked : ppu.requestsAddress = true) : ppu.renderEnable = true := by
  cases enabled : ppu.renderEnable with
  | true => rfl
  | false =>
    simp [requestsAddress, ppuHincVramRequest, ppuHcopyVramRequest, ppuVincVramRequest,
      ppuVcopyVramRequest, enabled] at asked

/-- An edge that does not load `v` applies what rendering asks for exactly when no access waits
and no increment does, or these leave `v` where rendering wants it. -/
theorem applied_iff (asked : ppu.requestsAddress = true) (unloaded : ppu.loads = false) :
    (ppu.vramNext false).activeVramAddress = ppu.renderAddress ↔
      (ppu.accessWaits = true → ppu.vram.activeVramAddress = ppu.renderAddress) ∧
        (ppu.accessWaits = false → ppu.waiting .inc = true →
          ppu.incremented = ppu.renderAddress) := by
  rw [vramNext_address, enabled_of_requests ppu asked]
  cases waits : ppu.accessWaits with
  | true => simp
  | false =>
    have load : ppu.waiting .load = false := by
      simpa [loads, waits] using unloaded
    rw [load]
    cases inc : ppu.waiting .inc with
    | true => simp
    | false => simp

end Ppu

namespace Nes

variable {pins : Pins} {bus : CpuBus}

/-- With no access waiting or asked for, none waits after the edge. -/
theorem no_access_follows (nes : Nes) (cpuEdge : Bool) (running : pins.Running)
    (write : nes.asks bus .write = false) (read : nes.asks bus .read = false)
    (idle : nes.ppu.accessWaits = false ∧ nes.ppu.waiting .inc = false) :
    (nes.ppuClock pins bus cpuEdge).ppu.accessWaits = false ∧
      (nes.ppuClock pins bus cpuEdge).ppu.waiting .inc = false := by
  obtain ⟨access, inc⟩ := idle
  obtain ⟨unwritten, unread⟩ := Bool.or_eq_false_iff.mp access
  constructor
  · rw [Ppu.accessWaits, waiting_ppuClock bus nes running, waiting_ppuClock bus nes running,
      write, read, unwritten, unread, Bool.and_false]
    rfl
  · rw [waiting_ppuClock bus nes running, asks_step, write, read, inc, Bool.or_self,
      Bool.and_false]
    rfl

/-- Over every run out of reset, each dot that asks for updates of `v` and does not load it from
`t` has them applied on its edge, exactly when on each such dot no access of `$2007` waits and
no increment does, or else what these do to `v` is what rendering asks for. A run in play that
starts with none of them waiting and never accesses `$2007` has every update applied. -/
theorem renderRequests_applied_iff (io : ℕ → Dot) (start : Nes) (n : ℕ)
    (released : ∀ i < n, (io i).pins.reset = false) :
    let ppu (i : ℕ) := (dotRun io start i).ppu
    let applied (i : ℕ) := (ppu i).requestsAddress = true → (ppu i).loads = false →
      (ppu (i + 1)).vram.activeVramAddress = (ppu i).renderAddress
    ((∀ i < n, applied i) ↔
      ∀ i < n, (ppu i).requestsAddress = true → (ppu i).loads = false →
        ((ppu i).accessWaits = true →
          (ppu i).vram.activeVramAddress = (ppu i).renderAddress) ∧
        ((ppu i).accessWaits = false → (ppu i).waiting .inc = true →
          (ppu i).incremented = (ppu i).renderAddress)) ∧
    (start.ppu.accessWaits = false → start.ppu.waiting .inc = false →
      (∀ i < n, (io i).pins.Running ∧ (dotRun io start i).asks (io i).bus .write = false ∧
        (dotRun io start i).asks (io i).bus .read = false) →
      ∀ i < n, applied i) := by
  intro ppu applied
  have step (i : ℕ) (below : i < n) :
      (ppu (i + 1)).vram.activeVramAddress =
        ((ppu i).vramNext false).activeVramAddress := by
    rw [← released i below]
    rfl
  refine ⟨⟨fun all i below asked unloaded => ?_, fun free i below asked unloaded => ?_⟩,
    fun access inc quiet i below asked unloaded => ?_⟩
  · have done := all i below asked unloaded
    rw [step i below] at done
    exact ((ppu i).applied_iff asked unloaded).mp done
  · rw [step i below]
    exact ((ppu i).applied_iff asked unloaded).mpr (free i below asked unloaded)
  · have idle : (ppu i).accessWaits = false ∧ (ppu i).waiting .inc = false := by
      apply trace_invariant (fun _ (nes : Nes) =>
        nes.ppu.accessWaits = false ∧ nes.ppu.waiting .inc = false) ⟨access, inc⟩ i
      intro j before
      obtain ⟨running, write, read⟩ := quiet j (by omega)
      exact no_access_follows (dotRun io start j) (io j).cpuEdge running write read
    rw [step i below]
    refine ((ppu i).applied_iff asked unloaded).mpr ⟨fun waits => ?_, fun _ waits => ?_⟩
    · exact absurd (idle.1.symm.trans waits) Bool.false_ne_true
    · exact absurd (idle.2.symm.trans waits) Bool.false_ne_true

/-- A write that enables rendering, and later a read of `$2007`. -/
def readWhileDrawing (i : ℕ) : Dot where
  toInput :=
    if i < 3 then .write 0x2001 0x18
    else if 30 ≤ i ∧ i < 33 then .read 0x2007
    else .read 0x8000
  cpuEdge := i % 3 == 2

/-- With no access yet, the step to the next column that dot 8 asks for happens. -/
theorem readWhileDrawing_applied :
    let ppu (i : ℕ) := (dotRun readWhileDrawing (powerUp .blank) i).ppu
    (ppu 9).engine.cycle.toNat = 8 ∧ (ppu 9).requestsAddress = true ∧
      (ppu 10).vram.activeVramAddress = (ppu 9).renderAddress := by
  intro ppu
  have quiet : ∀ i < 10, (readWhileDrawing i).pins.Running ∧
      (dotRun readWhileDrawing (powerUp .blank) i).asks (readWhileDrawing i).bus .write = false ∧
      (dotRun readWhileDrawing (powerUp .blank) i).asks (readWhileDrawing i).bus .read =
        false := by
    intro i below
    refine ⟨?_, ?_, ?_⟩
    · interval_cases i <;> exact ⟨rfl, rfl⟩
    · interval_cases i <;> decide +kernel
    · interval_cases i <;> decide +kernel
  have asked : (ppu 9).requestsAddress = true := by decide +kernel
  refine ⟨by decide +kernel, asked, ?_⟩
  exact (renderRequests_applied_iff readWhileDrawing (powerUp .blank) 10
    (fun i below => (quiet i below).1.reset)).2 rfl rfl quiet 9 (by decide) asked
      (by decide +kernel)

/-- The read of `$2007` waits on dot 32 of the line, and the step to the next column that this
dot asks for does not happen. -/
theorem readWhileDrawing_drops :
    let ppu (i : ℕ) := (dotRun readWhileDrawing (powerUp .blank) i).ppu
    (ppu 33).engine.cycle.toNat = 32 ∧ (ppu 33).renderEnable = true ∧
      (ppu 33).ppuHincVramRequest = true ∧ (ppu 33).loads = false ∧
      (ppu 33).renderAddress.coarseX = 4 ∧ (ppu 34).vram.activeVramAddress.coarseX = 3 := by
  decide +kernel

end Nes

end FpgaNes
