import FpgaNes.Beam

/-!
# Vertical blank

`nmi_occured` is set by the beam at the start of vertical blank and cleared by the beam at its
end, or by a read of `$2002`. The read returns the flag as it is on the edge of `CPU_CLK`; the
clear it asks for travels over a toggle handshake and arrives one PPU clock later, ahead of
the set in the priority chain.
-/

namespace FpgaNes

open Hdl

/-- The dots on which the flag may be set: dot 2 of line 241 to dot 1 of line 261. -/
def Beam.InVblank (beam : Beam) : Prop :=
  (241 < beam.line ∨ (beam.line = 241 ∧ 2 ≤ beam.dot)) ∧
    (beam.line < 261 ∨ (beam.line = 261 ∧ beam.dot ≤ 1))

/-- Vertical blank within a frame, as an interval of the time since the frame started. -/
theorem Beam.inVblank_after (time : ℕ) :
    (after 0 time).InVblank ↔ 82183 ≤ time % 89342 ∧ time % 89342 ≤ 89002 := by
  unfold InVblank after
  dsimp only
  constructor
  · intro inside
    omega
  · intro inside
    omega

/-- The frame of a console that has made some number of edges of `PPU_CLK` since reset: the
first edge starts the first frame, and a frame is 262 lines of 341 dots. -/
def frameOf (edges : ℕ) : ℕ := (edges - 1) / 89342

namespace Nes

/-- A console as reset leaves it: the beam has not started, and the flag is clear. -/
structure AtReset (nes : Nes) : Prop where
  /-- The engine is at rest. -/
  engine : nes.ppu.engine = ⟨0, 0, 0, 0, false⟩
  /-- The flag is clear. -/
  clear : nes.ppu.nmi.nmiOccured = false

/-- An edge of `PPU_CLK` with `RESET` high resets the console. -/
theorem atReset_ppuClock (pins : Pins) (bus : CpuBus) (cpuEdge : Bool) (nes : Nes)
    (reset : pins.reset = true) : (nes.ppuClock pins bus cpuEdge).AtReset := by
  constructor
  · rw [ppuClock_engine, reset]
    rfl
  · rw [ppuClock_nmi, reset]
    rfl

/-- So does power-up. -/
theorem atReset_powerUp (mem : Memories) : (powerUp mem).AtReset := ⟨rfl, rfl⟩

/-- The edge that ends this dot is one on which the processor reads `$2002`. -/
def readsStatus (dot : Dot) (nes : Nes) : Bool := dot.cpuEdge && nes.asks dot.bus .nmiClear

/-- Bit 7 of `CPU_DATA_BUS` on the edge that ends this dot. -/
def statusBit (dot : Dot) (nes : Nes) : Bool :=
  ((nes.settle dot.pins dot.bus).cpuDataBus dot.pins dot.bus).getLsbD 7

/-- The processor reads `$2002` on the edge that ends this dot, and is told of vertical
blank. -/
def reports (dot : Dot) (nes : Nes) : Bool := nes.readsStatus dot && nes.statusBit dot

/-- A read of `$2002` returns the flag in bit 7. -/
theorem statusBit_eq {dot : Dot} {nes : Nes} (read : nes.readsStatus dot = true) :
    nes.statusBit dot = nes.ppu.nmi.nmiOccured := by
  rw [readsStatus, Bool.and_eq_true] at read
  have asked := read.2
  simp only [asks, CpuPort.asks, Bool.and_eq_true, Bool.not_eq_true', beq_iff_eq] at asked
  obtain ⟨⟨⟨free, -⟩, rden⟩, register⟩ := asked
  have active : nes.dma.dmaActive = false := free
  have reading : dot.bus.rwN = true ∧ ppuRange dot.bus.addr = true := by
    simpa [cpuControl, cpuPpuRden, active] using rden
  have still : (nes.settle dot.pins dot.bus).dma.dmaActive = false := active
  rw [statusBit, cpuDataBus, still, reading.1, reading.2]
  show (Ppu.cpuDataOut _ (nes.cpuControl dot.bus) _).getLsbD 7 = _
  rw [Ppu.cpuDataOut, rden, register]
  show (BitVec.ofBool nes.ppu.nmi.nmiOccured ++ BitVec.ofBool nes.ppu.sprite0Hit ++
    BitVec.ofBool nes.ppu.eval.spriteOverflow ++ 0#5).getLsbD 7 = _
  cases nes.ppu.nmi.nmiOccured <;> cases nes.ppu.sprite0Hit <;>
    cases nes.ppu.eval.spriteOverflow <;> rfl

/-! ## One dot -/

/-- What asks for a clear after a dot is a read of `$2002` on the edge that ended it. -/
theorem nmiClearPending_ppuClock (dot : Dot) (nes : Nes) (released : dot.pins.reset = false) :
    (nes.ppuClock dot.pins dot.bus dot.cpuEdge).ppu.nmiClearPending = nes.readsStatus dot := by
  have requests := CpuInterface.next_requests nes.ppu.cpu (nes.settledPort dot.pins dot.bus)
  have asked : (nes.settledPort dot.pins dot.bus).asks nes.ppu.cpu.ppuLatch .nmiClear =
      nes.asks dot.bus .nmiClear := rfl
  have handle := nes.ppu.nmiNext_handle
  rw [readsStatus, Ppu.nmiClearPending, ppuClock_cpu, ppuClock_nmi, released, handle,
    Ppu.waiting_nmiClear, Ppu.nmiClearPending]
  cases dot.cpuEdge with
  | false =>
    rw [if_neg Bool.false_ne_true]
    cases nes.ppu.cpu.cpuNmiClearRequest <;> cases nes.ppu.nmi.ppuNmiClearHandle <;> rfl
  | true =>
    rw [if_pos rfl, requests.2.2.2.2, asked]
    cases nes.ppu.cpu.cpuNmiClearRequest <;> cases nes.ppu.nmi.ppuNmiClearHandle <;>
      cases nes.asks dot.bus .nmiClear <;> rfl

/-- The flag after a dot: a waiting clear wins over the beam. -/
theorem nmiOccured_ppuClock (dot : Dot) (nes : Nes) (released : dot.pins.reset = false) :
    (nes.ppuClock dot.pins dot.bus dot.cpuEdge).ppu.nmi.nmiOccured =
      (!nes.ppu.nmiClearPending && (nes.ppu.ppuNmiSetRequest ||
        (nes.ppu.nmi.nmiOccured && !nes.ppu.ppuNmiClearRequest))) := by
  rw [ppuClock_nmi, released, Ppu.nmiNext]
  cases nes.ppu.nmiClearPending <;> cases nes.ppu.ppuNmiSetRequest <;>
    cases clear : nes.ppu.ppuNmiClearRequest <;> simp

/-- Where the beam sets the flag. -/
theorem ppuNmiSetRequest_on {ppu : Ppu} {time : ℕ}
    (here : ppu.engine = Engine.on (Beam.after 0 time)) :
    ppu.ppuNmiSetRequest = true ↔ time % 89342 = 82182 := by
  rw [Ppu.ppuNmiSetRequest, Ppu.scanline_on here, Ppu.cycle_on here, Bool.and_eq_true,
    beq_iff_eq, beq_iff_eq]
  unfold Beam.after
  dsimp only
  omega

/-- Where the beam clears it. -/
theorem ppuNmiClearRequest_on {ppu : Ppu} {time : ℕ}
    (here : ppu.engine = Engine.on (Beam.after 0 time)) :
    ppu.ppuNmiClearRequest = true ↔ time % 89342 = 89002 := by
  rw [Ppu.ppuNmiClearRequest, Ppu.scanline_on here, Ppu.cycle_on here, Bool.and_eq_true,
    beq_iff_eq, beq_iff_eq]
  unfold Beam.after
  dsimp only
  omega

/-! ## Runs from reset -/

section Runs

variable {io : ℕ → Dot} {start : Nes}

/-- The beam of a run from reset: the first edge puts it on the first dot. -/
theorem dotRun_beam (rest : start.AtReset) (released : ∀ i, (io i).pins.reset = false) (n : ℕ) :
    (dotRun io start (n + 1)).ppu.engine = Engine.on (Beam.after 0 n) := by
  induction n with
  | zero =>
    rw [dotRun_succ, ppuClock_engine, released 0]
    exact Ppu.engineNext_rest _ rest.engine
  | succ n ih =>
    rw [dotRun_succ, ppuClock_engine, released (n + 1)]
    exact Ppu.engineNext_on _ 0 n ih

/-- The flag is set inside vertical blank only. -/
theorem nmiOccured_window (rest : start.AtReset) (released : ∀ i, (io i).pins.reset = false)
    (n : ℕ) (set : (dotRun io start n).ppu.nmi.nmiOccured = true) :
    82183 ≤ (n - 1) % 89342 ∧ (n - 1) % 89342 ≤ 89002 := by
  induction n with
  | zero => exact absurd (rest.clear.symm.trans set) Bool.false_ne_true
  | succ n ih =>
    rw [dotRun_succ, nmiOccured_ppuClock _ _ (released n), Bool.and_eq_true, Bool.or_eq_true,
      Bool.and_eq_true] at set
    cases n with
    | zero =>
      rcases set.2 with rises | ⟨before, -⟩
      · have quiet : start.ppu.ppuNmiSetRequest = false := by
          rw [Ppu.ppuNmiSetRequest, Ppu.scanline, rest.engine]
          rfl
        exact absurd (quiet.symm.trans rises) Bool.false_ne_true
      · exact absurd (rest.clear.symm.trans before) Bool.false_ne_true
    | succ n =>
      have here := dotRun_beam rest released n
      rcases set.2 with rises | ⟨before, stays⟩
      · have position := (ppuNmiSetRequest_on here).mp rises
        omega
      · have window := ih before
        have position : n % 89342 ≠ 89002 := by
          intro last
          have clear := (ppuNmiClearRequest_on here).mpr last
          rw [clear] at stays
          exact absurd stays (by decide)
        omega

/-- Once clear inside vertical blank, the flag is clear to the end of the frame. -/
theorem nmiOccured_stays (rest : start.AtReset) (released : ∀ i, (io i).pins.reset = false)
    (m n : ℕ) (later : m ≤ n) (positive : 0 < m) (inside : 82183 ≤ (m - 1) % 89342)
    (frame : frameOf n = frameOf m) (clear : (dotRun io start m).ppu.nmi.nmiOccured = false) :
    (dotRun io start n).ppu.nmi.nmiOccured = false := by
  unfold frameOf at frame
  apply trace_from (fun _ (nes : Nes) => nes.ppu.nmi.nmiOccured = false) m clear n later
  intro i after below before
  obtain ⟨time, rfl⟩ : ∃ time, i = time + 1 := Nat.exists_eq_add_of_le' (by omega)
  have here := dotRun_beam rest released time
  have unset : (dotRun io start (time + 1)).ppu.ppuNmiSetRequest = false := by
    apply Bool.eq_false_iff.mpr
    intro set
    have position := (ppuNmiSetRequest_on here).mp set
    omega
  have step := nmiOccured_ppuClock (io (time + 1)) (dotRun io start (time + 1)) (released _)
  show (dotRun io start (time + 1 + 1)).ppu.nmi.nmiOccured = false
  rw [dotRun_succ, step, unset, show (dotRun io start (time + 1)).ppu.nmi.nmiOccured = false
    from before, Bool.false_and, Bool.or_false, Bool.and_false]

/-- A read of `$2002` clears the flag on the second edge after it started. -/
theorem nmiOccured_cleared (released : ∀ i, (io i).pins.reset = false) (n : ℕ)
    (read : (dotRun io start n).readsStatus (io n) = true) :
    (dotRun io start (n + 2)).ppu.nmi.nmiOccured = false := by
  have pending : (dotRun io start (n + 1)).ppu.nmiClearPending = true :=
    (nmiClearPending_ppuClock (io n) (dotRun io start n) (released n)).trans read
  rw [dotRun_succ, nmiOccured_ppuClock _ _ (released (n + 1)), pending]
  rfl

/-- A read that reports vertical blank is the last to do so in its frame, and no interrupt is
asked for after it. -/
theorem nmiOccured_reported (rest : start.AtReset) (released : ∀ i, (io i).pins.reset = false)
    (i n : ℕ) (report : (dotRun io start i).reports (io i) = true) (later : i + 2 ≤ n)
    (frame : frameOf n = frameOf i) : (dotRun io start n).ppu.nmi.nmiOccured = false := by
  rw [reports, Bool.and_eq_true] at report
  have set : (dotRun io start i).ppu.nmi.nmiOccured = true :=
    (statusBit_eq report.1).symm.trans report.2
  have window := nmiOccured_window rest released i set
  have clear := nmiOccured_cleared released i report.1
  unfold frameOf at frame
  apply nmiOccured_stays rest released (i + 2) n later (by omega) (by omega) _ clear
  unfold frameOf
  omega

/-- From reset, over every interleaving of bus cycles with the PPU clock: the flag is set, and
`NMI_n` low, inside vertical blank only; in every frame at most one read of `$2002` returns bit
7 set; and from the PPU clock after it `NMI_n` is high to the end of the frame. -/
theorem vblank_reported_once (rest : start.AtReset)
    (released : ∀ i, (io i).pins.reset = false) (spaced : Spaced io) :
    (∀ n, (dotRun io start (n + 1)).ppu.engine = Engine.on (Beam.after 0 n)) ∧
      (∀ n, (dotRun io start n).ppu.nmi.nmiOccured = true →
        0 < n ∧ (Beam.after 0 (n - 1)).InVblank) ∧
      (∀ n, (dotRun io start n).ppu.nmiN = false →
        0 < n ∧ (Beam.after 0 (n - 1)).InVblank) ∧
      (∀ i j, frameOf i = frameOf j → (dotRun io start i).reports (io i) = true →
        (dotRun io start j).reports (io j) = true → i = j) ∧
      (∀ i n, (dotRun io start i).reports (io i) = true → i + 2 ≤ n → frameOf n = frameOf i →
        (dotRun io start n).ppu.nmiN = true) := by
  have window (n : ℕ) (set : (dotRun io start n).ppu.nmi.nmiOccured = true) :
      0 < n ∧ (Beam.after 0 (n - 1)).InVblank := by
    have inside := nmiOccured_window rest released n set
    exact ⟨by omega, (Beam.inVblank_after _).mpr inside⟩
  have ordered (i j : ℕ) (same : frameOf i = frameOf j)
      (first : (dotRun io start i).reports (io i) = true)
      (second : (dotRun io start j).reports (io j) = true) : ¬ i < j := by
    intro before
    have left := first
    have right := second
    rw [reports, readsStatus, Bool.and_eq_true, Bool.and_eq_true] at left right
    have apart : i + 1 ≠ j := by
      intro next
      have quiet := spaced i left.1.1
      rw [next] at quiet
      exact Bool.false_ne_true (quiet.symm.trans right.1.1)
    have clear := nmiOccured_reported rest released i j first (by omega) same.symm
    rw [reports, Bool.and_eq_true] at second
    exact Bool.false_ne_true (clear.symm.trans ((statusBit_eq second.1).symm.trans second.2))
  refine ⟨dotRun_beam rest released, window, fun n low => ?_, fun i j same left right => ?_,
    fun i n report later frame => ?_⟩
  · have both : (dotRun io start n).ppu.nmi.nmiOccured = true := by
      rw [Ppu.nmiN, Bool.not_eq_false', Bool.and_eq_true] at low
      exact low.2
    exact window n both
  · have notBefore := ordered i j same left right
    have notAfter := ordered j i same.symm right left
    omega
  · have clear := nmiOccured_reported rest released i n report later frame
    rw [Ppu.nmiN, clear, Bool.and_false]
    rfl

/-! ## Reads that clear an unreported flag -/

/-- No clear is on its way on a dot whose first edge was not one of `CPU_CLK`. -/
theorem nmiClearPending_unread (released : ∀ i, (io i).pins.reset = false) (n : ℕ)
    (unread : (io n).cpuEdge = false) :
    (dotRun io start (n + 1)).ppu.nmiClearPending = false := by
  have pending := nmiClearPending_ppuClock (io n) (dotRun io start n) (released n)
  rw [dotRun_succ, pending, readsStatus, unread]
  rfl

/-- The beam sets the flag unless a clear is on its way. -/
theorem nmiOccured_rises (released : ∀ i, (io i).pins.reset = false) (n : ℕ)
    (set : (dotRun io start n).ppu.ppuNmiSetRequest = true)
    (unread : (dotRun io start n).ppu.nmiClearPending = false) :
    (dotRun io start (n + 1)).ppu.nmi.nmiOccured = true := by
  rw [dotRun_succ, nmiOccured_ppuClock _ _ (released n), set, unread]
  rfl

/-- The flag lasts until a clear. -/
theorem nmiOccured_lasts (released : ∀ i, (io i).pins.reset = false) (n : ℕ)
    (set : (dotRun io start n).ppu.nmi.nmiOccured = true)
    (unread : (dotRun io start n).ppu.nmiClearPending = false)
    (inside : (dotRun io start n).ppu.ppuNmiClearRequest = false) :
    (dotRun io start (n + 1)).ppu.nmi.nmiOccured = true := by
  rw [dotRun_succ, nmiOccured_ppuClock _ _ (released n), set, unread, inside, Bool.not_false,
    Bool.and_true, Bool.or_true, Bool.and_true]

/-- A read of `$2002` on the edge on which the beam sets the flag returns it clear, and the
clear it asks for then removes it. -/
theorem vblank_discarded (rest : start.AtReset) (released : ∀ i, (io i).pins.reset = false)
    (spaced : Spaced io) (n : ℕ) (read : (dotRun io start n).readsStatus (io n) = true)
    (set : (dotRun io start n).ppu.ppuNmiSetRequest = true) :
    (dotRun io start n).statusBit (io n) = false ∧
      (dotRun io start (n + 1)).ppu.nmi.nmiOccured = true ∧
      (dotRun io start (n + 2)).ppu.nmi.nmiOccured = false := by
  obtain ⟨time, rfl⟩ : ∃ time, n = time + 1 := by
    cases n with
    | zero =>
      rw [dotRun_zero, Ppu.ppuNmiSetRequest, Ppu.scanline, rest.engine] at set
      exact absurd set (by decide)
    | succ time => exact ⟨time, rfl⟩
  have position := (ppuNmiSetRequest_on (dotRun_beam rest released time)).mp set
  have clear : (dotRun io start (time + 1)).ppu.nmi.nmiOccured = false := by
    apply Bool.eq_false_iff.mpr
    intro early
    have window := nmiOccured_window rest released (time + 1) early
    omega
  have edge : (io (time + 1)).cpuEdge = true := by
    rw [readsStatus, Bool.and_eq_true] at read
    exact read.1
  have unread : (io time).cpuEdge = false := by
    apply Bool.eq_false_iff.mpr
    intro before
    exact Bool.false_ne_true ((spaced time before).symm.trans edge)
  refine ⟨(statusBit_eq read).trans clear, ?_, nmiOccured_cleared released (time + 1) read⟩
  exact nmiOccured_rises released (time + 1) set (nmiClearPending_unread released time unread)

/-- Over every run from reset, what clears the flag ahead of the beam is a read of `$2002` on the
edge before, and no such read discards a flag it returned as clear exactly when no read falls
on the edge on which the beam sets it. -/
theorem vblank_kept_iff (rest : start.AtReset) (released : ∀ i, (io i).pins.reset = false)
    (spaced : Spaced io) (steps : ℕ) :
    (∀ n, (dotRun io start (n + 1)).ppu.nmiClearPending =
        (dotRun io start n).readsStatus (io n)) ∧
      ((∀ n < steps, (dotRun io start n).readsStatus (io n) = true →
          (dotRun io start (n + 1)).ppu.nmi.nmiOccured = true →
          (dotRun io start (n + 2)).ppu.nmi.nmiOccured = false →
          (dotRun io start n).statusBit (io n) = true) ↔
        ∀ n < steps, (dotRun io start n).readsStatus (io n) = true →
          (dotRun io start n).ppu.ppuNmiSetRequest = false) := by
  refine ⟨fun n => nmiClearPending_ppuClock (io n) (dotRun io start n) (released n), ?_⟩
  constructor
  · intro kept n below read
    apply Bool.eq_false_iff.mpr
    intro set
    have discarded := vblank_discarded rest released spaced n read set
    have told := kept n below read discarded.2.1 discarded.2.2
    exact Bool.false_ne_true (discarded.1.symm.trans told)
  · intro elsewhere n below read raised _
    rw [dotRun_succ, nmiOccured_ppuClock _ _ (released n), elsewhere n below read,
      Bool.false_or, Bool.and_eq_true, Bool.and_eq_true] at raised
    exact (statusBit_eq read).trans raised.2.1

end Runs

/-! ## A polling loop -/

/-- A processor that reads `$2002` in every CPU clock, whose edges are on one dot in three. -/
def pollingDots (phase time : ℕ) : Dot := ⟨.read 0x2002, time % 3 == phase⟩

/-- `RESET` stays low. -/
theorem pollingDots_released (phase i : ℕ) : (pollingDots phase i).pins.reset = false := rfl

/-- Its edges are not on adjacent dots. -/
theorem pollingDots_spaced (phase : ℕ) : Spaced (pollingDots phase) := by
  intro i edge
  have here : i % 3 = phase := beq_iff_eq.mp edge
  apply beq_eq_false_iff_ne.mpr
  omega

/-- It starts no DMA, so each of its edges reads `$2002`. -/
theorem pollingDots_reads (phase n : ℕ) :
    (dotRun (pollingDots phase) (powerUp .blank) n).readsStatus (pollingDots phase n) =
      (n % 3 == phase) := by
  have idle : (dotRun (pollingDots phase) (powerUp .blank) n).dma.dmaActive = false := by
    rw [dotRun_dma (pollingDots phase) (powerUp .blank) n rfl fun _ _ => rfl]
    rfl
  have polls : (Input.read 0x2002).bus.reads 2 = true := by decide
  rw [readsStatus, asks_of_free idle]
  show ((n % 3 == phase) && (Input.read 0x2002).bus.reads 2) = (n % 3 == phase)
  rw [polls, Bool.and_true]

/-- The beam sets the flag of the first frame on the edge that ends dot 82182. -/
theorem pollingDots_set (phase : ℕ) :
    (dotRun (pollingDots phase) (powerUp .blank) 82183).ppu.ppuNmiSetRequest = true :=
  (ppuNmiSetRequest_on
    (dotRun_beam (atReset_powerUp .blank) (pollingDots_released phase) 82182)).mpr rfl

/-- With edges one dot after the beam's, the flag is still set when the loop reads it. -/
theorem pollingDots_raised :
    (dotRun (pollingDots 2) (powerUp .blank) 82184).ppu.nmi.nmiOccured = true :=
  nmiOccured_rises (pollingDots_released 2) 82183 (pollingDots_set 2)
    (nmiClearPending_unread (pollingDots_released 2) 82182 rfl)

/-- The loop is told of the first vertical blank, and then no interrupt is asked for in the
frame. -/
theorem pollingDots_reported :
    (dotRun (pollingDots 2) (powerUp .blank) 82184).reports (pollingDots 2 82184) = true ∧
      (dotRun (pollingDots 2) (powerUp .blank) 82186).ppu.nmiN = true := by
  have read := pollingDots_reads 2 82184
  have report : (dotRun (pollingDots 2) (powerUp .blank) 82184).reports (pollingDots 2 82184) =
      true := by
    rw [reports, Bool.and_eq_true]
    exact ⟨read, (statusBit_eq read).trans pollingDots_raised⟩
  have once := vblank_reported_once (atReset_powerUp .blank) (pollingDots_released 2)
    (pollingDots_spaced 2)
  exact ⟨report, once.2.2.2.2 82184 82186 report (Nat.le_refl _) (by decide)⟩

/-- The read that clears it returned it. -/
theorem pollingDots_kept :
    (dotRun (pollingDots 2) (powerUp .blank) 82184).statusBit (pollingDots 2 82184) = true ∧
      (dotRun (pollingDots 2) (powerUp .blank) 82186).ppu.nmi.nmiOccured = false := by
  have apart (time : ℕ) (below : time + 1 < 82185) (phase : (time + 1) % 3 = 2) :
      time % 89342 ≠ 82182 := by
    intro position
    have small : time < 89342 := Nat.lt_trans (Nat.lt_of_succ_lt below) (by decide)
    have here : time = 82182 := (Nat.mod_eq_of_lt small).symm.trans position
    rw [here] at phase
    exact absurd phase (by decide)
  have read := pollingDots_reads 2 82184
  have rest := atReset_powerUp .blank
  have cleared := nmiOccured_cleared (pollingDots_released 2) 82184 read
  have unread : (dotRun (pollingDots 2) (powerUp .blank) 82184).ppu.nmiClearPending = false :=
    nmiClearPending_unread (pollingDots_released 2) 82183 rfl
  have inside : (dotRun (pollingDots 2) (powerUp .blank) 82184).ppu.ppuNmiClearRequest = false := by
    apply Bool.eq_false_iff.mpr
    intro clear
    have position :=
      (ppuNmiClearRequest_on (dotRun_beam rest (pollingDots_released 2) 82183)).mp clear
    exact absurd position (by decide)
  have lasts := nmiOccured_lasts (pollingDots_released 2) 82184 pollingDots_raised unread inside
  have kept := vblank_kept_iff rest (pollingDots_released 2) (pollingDots_spaced 2) 82185
  have elsewhere (n : ℕ) (below : n < 82185)
      (reading : (dotRun (pollingDots 2) (powerUp .blank) n).readsStatus (pollingDots 2 n) = true) :
      (dotRun (pollingDots 2) (powerUp .blank) n).ppu.ppuNmiSetRequest = false := by
    apply Bool.eq_false_iff.mpr
    intro set
    have phase : n % 3 = 2 := beq_iff_eq.mp ((pollingDots_reads 2 n).symm.trans reading)
    cases n with
    | zero => exact absurd phase (by decide)
    | succ time =>
      have position := (ppuNmiSetRequest_on (dotRun_beam rest (pollingDots_released 2) time)).mp set
      exact apart time below phase position
  exact ⟨kept.2.mpr elsewhere 82184 (by decide) read lasts cleared, cleared⟩

/-- Polling on the very dot, the loop is told nothing, and the first vertical blank is gone. -/
theorem pollingDots_discarded :
    (dotRun (pollingDots 1) (powerUp .blank) 82183).readsStatus (pollingDots 1 82183) = true ∧
      (dotRun (pollingDots 1) (powerUp .blank) 82183).statusBit (pollingDots 1 82183) = false ∧
      (dotRun (pollingDots 1) (powerUp .blank) 82184).ppu.nmi.nmiOccured = true ∧
      (dotRun (pollingDots 1) (powerUp .blank) 82185).ppu.nmi.nmiOccured = false := by
  have read := pollingDots_reads 1 82183
  have discarded := vblank_discarded (atReset_powerUp .blank) (pollingDots_released 1)
    (pollingDots_spaced 1) 82183 read (pollingDots_set 1)
  exact ⟨read, discarded⟩

end Nes

end FpgaNes
