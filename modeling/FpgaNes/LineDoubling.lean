import FpgaNes.Vga
import FpgaNes.Beam

/-!
# Line doubling

The PPU fills one line buffer while the controller of the display shows the other, twice as
fast and therefore twice. Nothing but their counters keeps the two together: 341 dots by 262
lines on one side, 341 pixels by 524 lines on the other. Both are functions of the number of
edges since reset here, which fixes their phase for runs of any length.
-/

namespace FpgaNes

open Hdl

/-! ## Phase -/

/-- Whether `PPU_CLK` rises with an edge of `VIDEO_CLK`, counted from the release of reset. The
first edge of `PPU_CLK` is the first of them, or the second when reset is released early. -/
def ppuRises (early : Bool) (tick : ℕ) : Bool := (tick % 2 == 1) == early

/-- The edges of `PPU_CLK` among the first edges of `VIDEO_CLK`. -/
def ppuEdges (early : Bool) (ticks : ℕ) : ℕ := if early then ticks / 2 else (ticks + 1) / 2

/-- The edge of `VIDEO_CLK` that ends a dot, given in dots since the first one. -/
def tickOf (early : Bool) (time : ℕ) : ℕ := 2 * time + 2 + early.toNat

/-- One more edge of `VIDEO_CLK` may be one more edge of `PPU_CLK`. -/
theorem ppuEdges_succ (early : Bool) (ticks : ℕ) :
    ppuEdges early (ticks + 1) = ppuEdges early ticks + (ppuRises early ticks).toNat := by
  unfold ppuEdges ppuRises
  rcases Nat.mod_two_eq_zero_or_one ticks with even | odd
  · cases early <;> simp [even] <;> omega
  · cases early <;> simp [odd] <;> omega

/-- The edge of `PPU_CLK` that ends a dot is the next one of the dot. -/
theorem tickOf_edges (early : Bool) (ticks : ℕ) (rises : ppuRises early ticks = true)
    (started : 0 < ppuEdges early ticks) : tickOf early (ppuEdges early ticks - 1) = ticks := by
  unfold ppuRises at rises
  unfold tickOf ppuEdges at *
  cases early
  · simp at rises started ⊢
    omega
  · simp at rises started ⊢
    omega

namespace Screen

/-! ## Runs -/

/-- The screen after each number of edges of `VIDEO_CLK`. -/
def videoRun (early : Bool) (io : ℕ → Dot) (start : Screen) : ℕ → Screen :=
  trace (fun tick s => s.videoClock (io tick).pins (io tick).bus (ppuRises early tick)
    (io tick).cpuEdge) id start

/-- The console and the controller as reset leaves them; the line buffers hold anything. -/
structure AtReset (s : Screen) : Prop where
  /-- The engine is at rest. -/
  engine : s.nes.ppu.engine = ⟨0, 0, 0, 0, false⟩
  /-- The PPU writes the first buffer. -/
  buffer : s.nes.ppu.lines.ppuLinebuffer = false
  /-- The counters of the VGA are at rest. -/
  counters : s.vga.toVgaCounters = Vga.countersReset

/-- An edge of both clocks with `RESET` high leaves them so. -/
theorem atReset_videoClock (pins : Pins) (bus : CpuBus) (cpuEdge : Bool) (s : Screen)
    (reset : pins.reset = true) : (s.videoClock pins bus true cpuEdge).AtReset := by
  have engine : (s.videoClock pins bus true cpuEdge).nes.ppu.engine =
      s.nes.ppu.engineNext pins.reset := rfl
  have lines : (s.videoClock pins bus true cpuEdge).nes.ppu.lines =
      s.nes.ppu.linesNext pins.reset (s.nes.mclkEdge pins bus).mem.framePalette.renderData := rfl
  have vga : (s.videoClock pins bus true cpuEdge).vga = s.vga.next pins.reset := rfl
  constructor
  · rw [engine, reset]
    rfl
  · rw [lines, reset]
    rfl
  · rw [vga, reset]
    rfl

/-- `color_idx` on an edge of `VIDEO_CLK`. -/
def colorIdx (dot : Dot) (s : Screen) : BitVec 6 :=
  (s.nes.mclkEdge dot.pins dot.bus).mem.framePalette.renderData.setWidth 6

variable {early : Bool} {io : ℕ → Dot} {start : Screen}

/-- A run is extended by one edge of `VIDEO_CLK` at its end. -/
theorem videoRun_succ (tick : ℕ) :
    videoRun early io start (tick + 1) =
      (videoRun early io start tick).videoClock (io tick).pins (io tick).bus
        (ppuRises early tick) (io tick).cpuEdge := rfl

/-! ## The controller -/

/-- The counters of the controller at a time, in pixels since its first one. -/
def countersOn (time : ℕ) : VgaCounters where
  nexth := BitVec.ofNat 12 ((time + 1) % 341)
  nextv := BitVec.ofNat 12 ((522 + (time + 1) / 341) % 524)
  hcount := BitVec.ofNat 12 (time % 341)
  vcount := BitVec.ofNat 12 ((522 + time / 341) % 524)

/-- The column and the line of the controller at a time, as numbers. -/
theorem countersOn_toNat (time : ℕ) :
    (countersOn time).hcount.toNat = time % 341 ∧
      (countersOn time).vcount.toNat = (522 + time / 341) % 524 := by
  rw [countersOn, BitVec.toNat_ofNat, BitVec.toNat_ofNat]
  omega

/-- Each edge moves the controller to the next pixel. -/
theorem countersNext_on (time : ℕ) :
    Vga.countersNext (countersOn time) = countersOn (time + 1) := by
  have column : (BitVec.ofNat 12 ((time + 1) % 341)).toNat = (time + 1) % 341 :=
    (countersOn_toNat (time + 1)).1
  have line : (BitVec.ofNat 12 ((522 + (time + 1) / 341) % 524)).toNat =
      (522 + (time + 1) / 341) % 524 := (countersOn_toNat (time + 1)).2
  simp only [Vga.countersNext, countersOn, column, line, Vga.hTot, Vga.vTot]
  by_cases last : (time + 1) % 341 = 340
  · have first : (time + 1 + 1) % 341 = 0 := by omega
    have next : (time + 1 + 1) / 341 = (time + 1) / 341 + 1 := by omega
    rw [if_pos last, if_pos last, first, next]
    by_cases frame : (522 + (time + 1) / 341) % 524 = 523
    · have top : (522 + ((time + 1) / 341 + 1)) % 524 = 0 := by omega
      rw [if_pos frame, top]
      rfl
    · have below : (522 + ((time + 1) / 341 + 1)) % 524 = (522 + (time + 1) / 341) % 524 + 1 := by
        omega
      rw [if_neg frame, below, BitVec.ofNat_add]
      rfl
  · have next : (time + 1 + 1) % 341 = (time + 1) % 341 + 1 := by omega
    have same : (time + 1 + 1) / 341 = (time + 1) / 341 := by omega
    rw [if_neg last, if_neg last, next, same, BitVec.ofNat_add]
    rfl

/-- The controller of a run from reset: the first edge puts it on its first pixel. -/
theorem videoRun_counters (rest : start.AtReset) (released : ∀ i, (io i).pins.reset = false)
    (tick : ℕ) : (videoRun early io start (tick + 1)).vga.toVgaCounters = countersOn tick := by
  induction tick with
  | zero =>
    show (start.vga.next (io 0).pins.reset).toVgaCounters = _
    rw [released 0]
    show Vga.countersNext start.vga.toVgaCounters = _
    rw [rest.counters]
    rfl
  | succ tick ih =>
    show ((videoRun early io start (tick + 1)).vga.next
      (io (tick + 1)).pins.reset).toVgaCounters = _
    rw [released (tick + 1)]
    show Vga.countersNext (videoRun early io start (tick + 1)).vga.toVgaCounters = _
    rw [ih, countersNext_on]

/-! ## The PPU -/

/-- What the PPU writes into a line buffer on the edge that ends a dot. -/
def written (early : Bool) (io : ℕ → Dot) (start : Screen) (time : ℕ) : BitVec 6 :=
  if (Beam.after 0 time).line < 240 then
    colorIdx (io (tickOf early time)) (videoRun early io start (tickOf early time))
  else 0x28

/-- The line buffers on a dot: the PPU has written the dots before this one of its line into one
of them, and the whole line before into the other. -/
structure Filling (early : Bool) (io : ℕ → Dot) (start : Screen) (time : ℕ) (s : Screen) :
    Prop where
  /-- The beam. -/
  engine : s.nes.ppu.engine = Engine.on (Beam.after 0 time)
  /-- The buffer changes with the line. -/
  buffer : s.nes.ppu.lines.ppuLinebuffer = (time / 341 % 2 == 1)
  /-- The columns drawn so far are in the buffer of the line. -/
  current : ∀ column : Fin 256, column.val < time % 341 →
    s.nes.ppu.lines.linebuffer s.nes.ppu.lines.ppuLinebuffer column =
      written early io start (341 * (time / 341) + column.val)
  /-- The line before is whole in the other. -/
  before : 0 < time / 341 → ∀ column : Fin 256,
    s.nes.ppu.lines.linebuffer s.vgaLinebuffer column =
      written early io start (341 * (time / 341 - 1) + column.val)

/-- An edge of `VIDEO_CLK` on which `PPU_CLK` does not rise leaves the PPU alone. -/
theorem videoClock_ppu (dot : Dot) (s : Screen) :
    (s.videoClock dot.pins dot.bus false dot.cpuEdge).nes.ppu = s.nes.ppu := rfl

/-- An edge of `PPU_CLK` moves the beam and writes one entry of a line buffer. -/
theorem videoClock_lines (dot : Dot) (s : Screen) (released : dot.pins.reset = false) :
    (s.videoClock dot.pins dot.bus true dot.cpuEdge).nes.ppu.engine =
        s.nes.ppu.engineNext false ∧
      (s.videoClock dot.pins dot.bus true dot.cpuEdge).nes.ppu.lines =
        s.nes.ppu.linesNext false
          (s.nes.mclkEdge dot.pins dot.bus).mem.framePalette.renderData := by
  rw [← released]
  exact ⟨rfl, rfl⟩

/-- The first edge of `PPU_CLK` puts the PPU on its first dot. -/
theorem Filling.first (dot : Dot) (s : Screen) (released : dot.pins.reset = false)
    (engine : s.nes.ppu.engine = ⟨0, 0, 0, 0, false⟩)
    (buffer : s.nes.ppu.lines.ppuLinebuffer = false) :
    Filling early io start 0 (s.videoClock dot.pins dot.bus true dot.cpuEdge) := by
  have edge := videoClock_lines dot s released
  have cycle : s.nes.ppu.engine.cycle.toNat ≠ 340 := by
    rw [engine]
    decide
  constructor
  · rw [edge.1]
    exact Ppu.engineNext_rest _ engine
  · rw [edge.2, Ppu.linesNext, if_neg Bool.false_ne_true]
    show (if s.nes.ppu.engine.cycle.toNat = 340 then _ else _) = _
    rw [if_neg cycle]
    exact buffer
  · intro column before
    exact absurd before (Nat.not_lt_zero _)
  · intro later
    exact absurd later (by decide)

/-- What an edge of `PPU_CLK` does to the line buffers, given the dot it ends. -/
theorem linesNext_on (ppu : Ppu) (renderData : Byte) (time : ℕ)
    (engine : ppu.engine = Engine.on (Beam.after 0 time)) (buffer : Bool) (column : Fin 256) :
    (ppu.linesNext false renderData).linebuffer buffer column =
      if buffer = ppu.lines.ppuLinebuffer ∧ column.val = time % 341 then
        if (Beam.after 0 time).line < 240 then renderData.setWidth 6 else 0x28
      else ppu.lines.linebuffer buffer column := by
  have dot : ppu.engine.cycle.toNat = time % 341 := Ppu.cycle_on engine
  rw [Ppu.linesNext, if_neg Bool.false_ne_true, ← dot, ← Ppu.scanline_on engine]

/-- The buffers are swapped on the last dot of a line. -/
theorem linesNext_swap (ppu : Ppu) (renderData : Byte) (time : ℕ)
    (engine : ppu.engine = Engine.on (Beam.after 0 time)) :
    (ppu.linesNext false renderData).ppuLinebuffer =
      if time % 341 = 340 then !ppu.lines.ppuLinebuffer else ppu.lines.ppuLinebuffer := by
  have dot : ppu.engine.cycle.toNat = time % 341 := Ppu.cycle_on engine
  rw [Ppu.linesNext, if_neg Bool.false_ne_true, ← dot]

/-- Consecutive numbers have different parities. -/
theorem parity_succ (n : ℕ) : ((n + 1) % 2 == 1) = !(n % 2 == 1) := by
  rcases Nat.mod_two_eq_zero_or_one n with even | odd
  · rw [even, show (n + 1) % 2 = 1 by omega]
    rfl
  · rw [odd, show (n + 1) % 2 = 0 by omega]
    rfl

/-- Each edge of `PPU_CLK` writes one more dot, and the last of a line swaps the buffers. -/
theorem Filling.next {time : ℕ} {s : Screen} (filling : Filling early io start time s)
    (released : (io (tickOf early time)).pins.reset = false)
    (here : s = videoRun early io start (tickOf early time)) :
    Filling early io start (time + 1)
      (s.videoClock (io (tickOf early time)).pins (io (tickOf early time)).bus true
        (io (tickOf early time)).cpuEdge) := by
  have edge := videoClock_lines (io (tickOf early time)) s released
  have color : (if (Beam.after 0 time).line < 240 then colorIdx (io (tickOf early time)) s
      else 0x28) = written early io start time := by rw [written, here]
  have entry (buffer : Bool) (column : Fin 256) :=
    (congrFun (congrFun (congrArg Linebuffers.linebuffer edge.2) buffer) column).trans
      (linesNext_on s.nes.ppu _ time filling.engine buffer column)
  have swap := (congrArg Linebuffers.ppuLinebuffer edge.2).trans
    (linesNext_swap s.nes.ppu _ time filling.engine)
  have next : (s.nes.ppu.engineNext false) = Engine.on (Beam.after 0 (time + 1)) :=
    Ppu.engineNext_on _ 0 time filling.engine
  by_cases last : time % 341 = 340
  · have first : (time + 1) % 341 = 0 := by omega
    have line : (time + 1) / 341 = time / 341 + 1 := by omega
    rw [if_pos last] at swap
    constructor
    · rw [edge.1, next]
    · rw [swap, filling.buffer, line, parity_succ]
    · intro column before
      exact absurd before (by omega)
    · intro _ column
      have inside := column.isLt
      have shown : (s.videoClock (io (tickOf early time)).pins (io (tickOf early time)).bus true
          (io (tickOf early time)).cpuEdge).vgaLinebuffer = s.nes.ppu.lines.ppuLinebuffer := by
        rw [vgaLinebuffer, swap, Bool.not_not]
      rw [shown, entry, if_neg (by omega), filling.current column (by omega), line,
        Nat.add_sub_cancel]
  · have following : (time + 1) % 341 = time % 341 + 1 := by omega
    have line : (time + 1) / 341 = time / 341 := by omega
    rw [if_neg last] at swap
    constructor
    · rw [edge.1, next]
    · rw [swap, filling.buffer, line]
    · intro column before
      rw [swap, entry, line]
      by_cases now : column.val = time % 341
      · have position : 341 * (time / 341) + column.val = time := by omega
        rw [if_pos ⟨rfl, now⟩, position]
        exact color
      · rw [if_neg fun both => now both.2]
        exact filling.current column (by omega)
    · intro later column
      have other : (!s.nes.ppu.lines.ppuLinebuffer) ≠ s.nes.ppu.lines.ppuLinebuffer :=
        Bool.not_ne_self _
      rw [line] at later ⊢
      rw [vgaLinebuffer, swap, entry, if_neg fun both => other both.1]
      exact filling.before later column

/-- Before the first edge of `PPU_CLK` the PPU is as reset left it. -/
theorem videoRun_rest (tick : ℕ) (none : ppuEdges early tick = 0) :
    (videoRun early io start tick).nes.ppu = start.nes.ppu := by
  induction tick with
  | zero => rfl
  | succ tick ih =>
    rw [ppuEdges_succ] at none
    have still : ppuRises early tick = false := by
      cases rises : ppuRises early tick with
      | false => rfl
      | true =>
        rw [rises] at none
        exact absurd none (Nat.succ_ne_zero _)
    rw [videoRun_succ, still]
    exact (videoClock_ppu (io tick) _).trans (ih (by omega))

/-- The line buffers of a run from reset. -/
theorem videoRun_filling (rest : start.AtReset) (released : ∀ i, (io i).pins.reset = false)
    (tick time : ℕ) (edges : ppuEdges early tick = time + 1) :
    Filling early io start time (videoRun early io start tick) := by
  induction tick generalizing time with
  | zero => cases early <;> exact absurd edges (by simp [ppuEdges])
  | succ tick ih =>
    rw [ppuEdges_succ] at edges
    cases rises : ppuRises early tick with
    | false =>
      rw [rises] at edges
      have before := ih time edges
      rw [videoRun_succ, rises]
      exact ⟨before.engine, before.buffer, before.current, before.before⟩
    | true =>
      rw [rises] at edges
      cases time with
      | zero =>
        have same : (videoRun early io start tick).nes.ppu = start.nes.ppu :=
          videoRun_rest tick (Nat.succ.inj edges)
        rw [videoRun_succ, rises]
        exact Filling.first (io tick) _ (released tick) (by rw [same, rest.engine])
          (by rw [same, rest.buffer])
      | succ time =>
        have count : ppuEdges early tick = time + 1 := Nat.succ.inj edges
        have position := tickOf_edges early tick rises (by omega)
        rw [count, Nat.add_sub_cancel] at position
        have after := (ih time count).next (released _) (congrArg _ position.symm)
        rw [position] at after
        rw [videoRun_succ, rises]
        exact after

/-! ## The two together -/

/-- The edges made by the one that ends a dot. -/
theorem ppuEdges_tickOf (early : Bool) (time : ℕ) :
    ppuEdges early (tickOf early time) = time + 1 ∧ ppuRises early (tickOf early time) = true := by
  unfold ppuEdges ppuRises tickOf
  cases early
  · simp
    omega
  · simp
    omega

/-- Edges of `VIDEO_CLK` bring edges of `PPU_CLK`, never fewer than before. -/
theorem ppuEdges_mono (early : Bool) {first later : ℕ} (order : first ≤ later) :
    ppuEdges early first ≤ ppuEdges early later := by
  unfold ppuEdges
  cases early
  · simp
    omega
  · simp
    omega

/-- The line the PPU is on while the controller shows a pixel past the first of a line: each
line of the PPU lasts for two of the controller. -/
theorem line_phase (early : Bool) (shown : ℕ) (later : 682 ≤ shown) (first : 1 ≤ shown % 341)
    (last : shown % 341 ≤ 255) :
    ∃ time, ppuEdges early (shown + 1) = time + 1 ∧ time / 341 = shown / 341 / 2 := by
  unfold ppuEdges
  cases early
  · refine ⟨shown / 2, ?_, ?_⟩
    · rw [if_neg Bool.false_ne_true]
      omega
    · omega
  · refine ⟨(shown - 1) / 2, ?_, ?_⟩
    · rw [if_pos rfl]
      omega
    · omega

/-- A line of the controller shows the line of the PPU with half its number. -/
theorem line_shown (shown : ℕ) (visible : (522 + shown / 341) % 524 < 480) :
    1 ≤ shown / 341 / 2 ∧
      (shown / 341 / 2 - 1) % 262 = (522 + shown / 341) % 524 / 2 := by
  omega

/-- The buffer the PPU writes at a time. -/
theorem videoRun_buffer (rest : start.AtReset) (released : ∀ i, (io i).pins.reset = false)
    (tick time : ℕ) (edges : ppuEdges early tick = time + 1) :
    (videoRun early io start tick).nes.ppu.lines.ppuLinebuffer = (time / 341 % 2 == 1) :=
  (videoRun_filling rest released tick time edges).buffer

/-- Dots end two edges of `VIDEO_CLK` apart. -/
theorem tickOf_add (early : Bool) (time dots : ℕ) :
    tickOf early time + 2 * dots = tickOf early (time + dots) := by
  unfold tickOf
  omega

/-- On every dot of a line the PPU writes the buffer of that line. -/
theorem videoRun_dot (rest : start.AtReset) (released : ∀ i, (io i).pins.reset = false)
    (line dot : ℕ) (inside : dot ≤ 340) :
    let tick := tickOf early (341 * line) + 2 * dot
    ppuRises early tick = true ∧
      (videoRun early io start tick).nes.ppu.scanline.toNat = line % 262 ∧
      (videoRun early io start tick).nes.ppu.engine.cycle.toNat = dot ∧
      (videoRun early io start tick).nes.ppu.lines.ppuLinebuffer = (line % 2 == 1) := by
  intro tick
  have here : tick = tickOf early (341 * line + dot) := tickOf_add early (341 * line) dot
  have position := onDot_time line dot (by omega)
  have edge := ppuEdges_tickOf early (341 * line + dot)
  have filling := videoRun_filling rest released _ _ edge.1
  rw [here, Ppu.scanline_on filling.engine, Ppu.cycle_on filling.engine, filling.buffer]
  refine ⟨edge.2, ?_, position.2, ?_⟩
  · show (0 + (341 * line + dot) / 341) % 262 = _
    rw [position.1, Nat.zero_add]
  · rw [position.1]

/-- On every dot of the next line it writes the other one. -/
theorem videoRun_swapped (rest : start.AtReset) (released : ∀ i, (io i).pins.reset = false)
    (line i later time : ℕ) (after : tickOf early (341 * line) + 681 ≤ i) (order : i ≤ later)
    (edges : ppuEdges early later = time + 1) (next : time / 341 = line + 1) :
    (videoRun early io start i).nes.ppu.lines.ppuLinebuffer = !(line % 2 == 1) := by
  have below := ppuEdges_mono early order
  have above : ppuEdges early (tickOf early (341 * line + 340) + 1) ≤ ppuEdges early i :=
    ppuEdges_mono early (by rw [← tickOf_add]; omega)
  have swap := ppuEdges_succ early (tickOf early (341 * line + 340))
  have edge := ppuEdges_tickOf early (341 * line + 340)
  rw [edge.1, edge.2, Bool.toNat_true] at swap
  have position : ppuEdges early i = ppuEdges early i - 1 + 1 := by omega
  have onNext : (ppuEdges early i - 1) / 341 = line + 1 := by omega
  rw [videoRun_buffer rest released i _ position, onNext, parity_succ]

/-- A pixel of the controller is shown between two and four lines after its line began. -/
theorem tickOf_shown (early : Bool) (shown before : ℕ) (half : shown / 341 / 2 = before + 1)
    (first : 1 ≤ shown % 341) (last : shown % 341 ≤ 255) :
    tickOf early (341 * before) + 681 ≤ shown + 1 ∧
      shown + 1 < tickOf early (341 * before) + 1364 := by
  unfold tickOf
  cases early
  · rw [Bool.toNat_false]
    omega
  · rw [Bool.toNat_true]
    omega

/-- While the PPU is on a line, the other buffer holds the line before, entry by entry the
`color_idx` of its dot. -/
theorem videoRun_stored (rest : start.AtReset) (released : ∀ i, (io i).pins.reset = false)
    (tick time before : ℕ) (edges : ppuEdges early tick = time + 1)
    (current : time / 341 = before + 1) (drawn : before % 262 < 240) (column : Fin 256) :
    (videoRun early io start tick).nes.ppu.lines.linebuffer
        (videoRun early io start tick).vgaLinebuffer column =
      colorIdx (io (tickOf early (341 * before) + 2 * column.val))
        (videoRun early io start (tickOf early (341 * before) + 2 * column.val)) := by
  have filling := videoRun_filling rest released tick time edges
  have inside := column.isLt
  have position := onDot_time before column.val (by omega)
  have visibleLine : (Beam.after 0 (341 * before + column.val)).line < 240 := by
    show (0 + (341 * before + column.val) / 341) % 262 < 240
    rw [position.1]
    omega
  rw [filling.before (by omega) column, current, Nat.add_sub_cancel, written,
    if_pos visibleLine, tickOf_add]

/-- No edge writes the buffer that is shown. -/
theorem videoClock_shown (dot : Dot) (rises : Bool) (s : Screen) :
    (s.videoClock dot.pins dot.bus rises dot.cpuEdge).nes.ppu.lines.linebuffer s.vgaLinebuffer =
      s.nes.ppu.lines.linebuffer s.vgaLinebuffer := by
  have other : s.vgaLinebuffer ≠ s.nes.ppu.lines.ppuLinebuffer := Bool.not_ne_self _
  cases rises with
  | false => rfl
  | true =>
    show (s.nes.ppu.linesNext dot.pins.reset _).linebuffer s.vgaLinebuffer = _
    unfold Ppu.linesNext
    cases dot.pins.reset with
    | true => rfl
    | false =>
      funext column
      exact if_neg fun both => other both.1

/-- From reset, for both releases of it and runs of any length: while the controller shows a
pixel past the first of a visible line, it reads the buffer that the PPU last filled with the
complete line of half its number in the current frame, entry by entry the `color_idx` of the
dot, and the PPU writes only the other buffer. -/
theorem line_doubled (early : Bool) (io : ℕ → Dot) (start : Screen) (tick : ℕ)
    (rest : start.AtReset) (released : ∀ i, (io i).pins.reset = false)
    (visible : (videoRun early io start tick).vga.vcount.toNat < 480)
    (first : 1 ≤ (videoRun early io start tick).vga.hcount.toNat)
    (last : (videoRun early io start tick).vga.hcount.toNat ≤ 255) :
    let now := videoRun early io start tick
    let line := now.vga.vcount.toNat / 2
    ∃ origin, origin + 681 ≤ tick ∧ tick < origin + 1364 ∧
      now.nes.ppu.scanline.toNat = line + 1 ∧
      (∀ dot ≤ 340, ppuRises early (origin + 2 * dot) = true ∧
        (videoRun early io start (origin + 2 * dot)).nes.ppu.scanline.toNat = line ∧
        (videoRun early io start (origin + 2 * dot)).nes.ppu.engine.cycle.toNat = dot ∧
        (videoRun early io start (origin + 2 * dot)).nes.ppu.lines.ppuLinebuffer =
          now.vgaLinebuffer) ∧
      (∀ i, origin + 681 ≤ i → i ≤ tick →
        (videoRun early io start i).nes.ppu.lines.ppuLinebuffer ≠ now.vgaLinebuffer) ∧
      (∀ column : Fin 256, now.nes.ppu.lines.linebuffer now.vgaLinebuffer column =
        colorIdx (io (origin + 2 * column.val))
          (videoRun early io start (origin + 2 * column.val))) ∧
      now.pixelClrIdx = colorIdx (io (origin + 2 * now.vga.hcount.toNat))
        (videoRun early io start (origin + 2 * now.vga.hcount.toNat)) ∧
      (videoRun early io start (tick + 1)).nes.ppu.lines.linebuffer now.vgaLinebuffer =
        now.nes.ppu.lines.linebuffer now.vgaLinebuffer := by
  intro now line
  cases tick with
  | zero =>
    have top : start.vga.vcount = BitVec.ofNat 12 522 :=
      congrArg VgaCounters.vcount rest.counters
    have low : start.vga.vcount.toNat < 480 := visible
    rw [top] at low
    exact absurd low (by decide)
  | succ shown =>
    have counters : now.vga.toVgaCounters = countersOn shown :=
      videoRun_counters rest released shown
    have hcount : now.vga.hcount.toNat = shown % 341 := by
      rw [congrArg VgaCounters.hcount counters]
      exact (countersOn_toNat shown).1
    have vcount : now.vga.vcount.toNat = (522 + shown / 341) % 524 := by
      rw [congrArg VgaCounters.vcount counters]
      exact (countersOn_toNat shown).2
    rw [vcount] at visible
    rw [hcount] at first last ⊢
    have lines := line_shown shown visible
    obtain ⟨time, edges, current⟩ := line_phase early shown (by omega) first last
    have filling := videoRun_filling rest released (shown + 1) time edges
    obtain ⟨before, half⟩ : ∃ before, shown / 341 / 2 = before + 1 :=
      Nat.exists_eq_add_of_le' lines.1
    rw [half, Nat.add_sub_cancel] at lines
    have number : line = before % 262 := by
      show now.vga.vcount.toNat / 2 = _
      rw [vcount]
      exact lines.2.symm
    have buffer : now.vgaLinebuffer = (before % 2 == 1) := by
      rw [vgaLinebuffer, filling.buffer, current, half, parity_succ, Bool.not_not]
    have onNext := current.trans half
    have stored := videoRun_stored rest released (shown + 1) time before edges onNext (by omega)
    have bounds := tickOf_shown early shown before half first last
    refine ⟨tickOf early (341 * before), bounds.1, bounds.2, ?_, fun dot inside => ?_,
      fun i after order => ?_, stored, ?_,
      videoClock_shown (io (shown + 1)) (ppuRises early (shown + 1)) now⟩
    · rw [Ppu.scanline_on filling.engine]
      show (0 + time / 341) % 262 = line + 1
      omega
    · rw [number, buffer]
      exact videoRun_dot rest released before dot inside
    · rw [buffer, videoRun_swapped rest released before i (shown + 1) time after order edges
        onNext]
      exact Bool.not_ne_self _
    · have drawn : now.vga.drawX.toNat = shown % 341 := by
        rw [Vga.drawX, BitVec.toNat_setWidth, hcount]
        omega
      have inside : now.vga.drawX.toNat < 256 := by omega
      rw [pixelClrIdx, dif_pos inside, stored]
      show colorIdx (io (_ + 2 * now.vga.drawX.toNat)) (videoRun early io start
        (_ + 2 * now.vga.drawX.toNat)) = _
      rw [drawn]

/-- A console and its controller after power-up. -/
def powerUp (mem : Memories) : Screen where
  nes := .powerUp mem
  vga := { Vga.countersReset with hs := false, vs := false, blank := false }

/-- With reset released early, the tenth pixel of the first line is shown while the PPU is on
its second line. -/
theorem firstLine_doubled :
    let now := videoRun true Nes.quietDots (powerUp .blank) 693
    now.vga.vcount.toNat = 0 ∧ now.nes.ppu.scanline.toNat = 1 := by
  intro now
  have rest : (powerUp .blank).AtReset := ⟨rfl, rfl, rfl⟩
  have released (i : ℕ) : (Nes.quietDots i).pins.reset = false := rfl
  have counters : now.vga.toVgaCounters = countersOn 692 := videoRun_counters rest released 692
  have vcount : now.vga.vcount.toNat = 0 := by
    rw [congrArg VgaCounters.vcount counters]
    decide
  have hcount : now.vga.hcount.toNat = 10 := by
    rw [congrArg VgaCounters.hcount counters]
    decide
  obtain ⟨origin, -, -, line, -⟩ := line_doubled true Nes.quietDots (powerUp .blank) 693 rest
    released (by rw [vcount]; decide) (by rw [hcount]; decide) (by rw [hcount]; decide)
  refine ⟨vcount, line.trans ?_⟩
  show now.vga.vcount.toNat / 2 + 1 = 1
  rw [vcount]

end Screen

end FpgaNes
