import FpgaNes.Bus

/-!
# The beam

The cycle and scanline engine counts 341 dots to a line and 262 lines to a frame, the
last of them the pre-render line. Its registers are a function of the time since the
start of a line, and so are the signals that depend on nothing else.
-/

namespace FpgaNes

open Hdl

/-- A dot of a frame. -/
@[ext]
structure Beam where
  /-- The line, 261 for the pre-render line. -/
  line : ℕ
  /-- The dot of the line. -/
  dot : ℕ

namespace Beam

/-- The dot after this one. -/
def next (beam : Beam) : Beam :=
  if beam.dot = 340 then ⟨if beam.line = 261 then 0 else beam.line + 1, 0⟩
  else ⟨beam.line, beam.dot + 1⟩

/-- The dot some time after the start of a line. -/
def after (first time : ℕ) : Beam := ⟨(first + time / 341) % 262, time % 341⟩

/-- Time steps from each dot to the next. -/
theorem next_after (first time : ℕ) : (after first time).next = after first (time + 1) := by
  unfold next after
  by_cases last : time % 341 = 340
  · rw [if_pos last]
    by_cases frame : (first + time / 341) % 262 = 261
    · rw [if_pos frame]
      ext <;> dsimp only <;> omega
    · rw [if_neg frame]
      ext <;> dsimp only <;> omega
  · rw [if_neg last]
    ext <;> dsimp only <;> omega

/-- Every dot is inside a frame. -/
theorem after_bounds (first time : ℕ) :
    (after first time).line ≤ 261 ∧ (after first time).dot ≤ 340 := by
  unfold after
  constructor <;> dsimp only <;> omega

end Beam

/-- The registers of the engine on a dot. -/
def Engine.on (beam : Beam) : Engine where
  cycle := BitVec.ofNat 10 beam.dot
  scanline := BitVec.ofNat 10 beam.line
  nextCycle := BitVec.ofNat 10 beam.next.dot
  nextScanline := BitVec.ofNat 10 beam.next.line
  extraCycleLatch := false

/-- The line and the dot of a time. -/
theorem onDot_time (line dot : ℕ) (inside : dot < 341) :
    (341 * line + dot) / 341 = line ∧ (341 * line + dot) % 341 = dot := by
  rw [Nat.mul_add_div (by decide), Nat.mul_add_mod, Nat.div_eq_of_lt inside,
    Nat.mod_eq_of_lt inside]
  exact ⟨rfl, rfl⟩

/-- A dot of a line fits the ten bits of a counter. -/
theorem toNat_dot (n : ℕ) (small : n ≤ 340) : (BitVec.ofNat 10 n).toNat = n := by
  rw [BitVec.toNat_ofNat]
  exact Nat.mod_eq_of_lt (by omega)

namespace Ppu

/-- Each edge moves the engine to the next dot. -/
theorem engineNext_on (ppu : Ppu) (first time : ℕ)
    (here : ppu.engine = Engine.on (Beam.after first time)) :
    ppu.engineNext false = Engine.on (Beam.after first (time + 1)) := by
  obtain ⟨line, dot⟩ := Beam.after_bounds first (time + 1)
  have cycle : (BitVec.ofNat 10 (Beam.after first (time + 1)).dot).toNat =
      (Beam.after first (time + 1)).dot := toNat_dot _ dot
  have scanline : (BitVec.ofNat 10 (Beam.after first (time + 1)).line).toNat =
      (Beam.after first (time + 1)).line := toNat_dot _ (by omega)
  have extra : ppu.extraCycle = false := by rw [extraCycle, here]; rfl
  rw [engineNext, extra, here, Engine.on, Beam.next_after, Engine.on]
  generalize Beam.after first (time + 1) = beam at *
  unfold Beam.next
  simp only [cycle, scanline, cycleCount, scanlineCount, Bool.toNat_false, Nat.add_zero,
    Bool.false_eq_true, if_false, beq_iff_eq]
  by_cases last : beam.dot = 340
  · by_cases frame : beam.line = 261
    · simp [last, frame]
    · simp [last, frame, BitVec.ofNat_add]
  · simp [last, BitVec.ofNat_add]

/-- The first edge after power-up or reset starts the frame. -/
theorem engineNext_rest (ppu : Ppu) (rest : ppu.engine = ⟨0, 0, 0, 0, false⟩) :
    ppu.engineNext false = Engine.on (Beam.after 0 0) := by
  have extra : ppu.extraCycle = false := by rw [extraCycle, rest]; rfl
  rw [engineNext, extra, rest]
  rfl

/-- The dot of the line, in numbers. -/
theorem cycle_on {ppu : Ppu} {first time : ℕ}
    (here : ppu.engine = Engine.on (Beam.after first time)) :
    ppu.engine.cycle.toNat = (Beam.after first time).dot := by
  rw [here]
  exact toNat_dot _ (Beam.after_bounds first time).2

/-- The line of the frame, in numbers. -/
theorem scanline_on {ppu : Ppu} {first time : ℕ}
    (here : ppu.engine = Engine.on (Beam.after first time)) :
    ppu.scanline.toNat = (Beam.after first time).line := by
  rw [scanline, here]
  exact toNat_dot _ (Nat.le_trans (Beam.after_bounds first time).1 (by decide))

/-- The dot in a fetch group, from the dot of the line. -/
theorem counter_toNat (ppu : Ppu) :
    ppu.counter.toNat = (ppu.engine.cycle.toNat + 7) % 8 := by
  have bound := ppu.engine.cycle.isLt
  have one : (1 : BitVec 10).toNat = 1 := rfl
  rw [counter, BitVec.toNat_setWidth, BitVec.toNat_sub, one]
  omega

end Ppu

namespace Nes

/-- The engine at each time of a run that starts with a line. -/
theorem dotRun_engine (io : ℕ → Dot) (start : Nes) (first n : ℕ)
    (running : ∀ i < n, (io i).pins.Running)
    (here : start.ppu.engine = Engine.on (Beam.after first 0)) :
    (dotRun io start n).ppu.engine = Engine.on (Beam.after first n) := by
  apply trace_invariant
    (fun time (nes : Nes) => nes.ppu.engine = Engine.on (Beam.after first time)) here n
  intro i below before
  rw [trace_succ, ppuClock_engine, (running i below).reset]
  exact Ppu.engineNext_on _ first i before

/-- A run that starts with a line, out of reset, with rendering enabled and nothing
programming the game memory. -/
structure Drawing (io : ℕ → Dot) (start : Nes) (first n : ℕ) : Prop where
  /-- The console is in play. -/
  running : ∀ i < n, (io i).pins.Running
  /-- CHR ROM is not being programmed. -/
  unprogrammed : ∀ i < n, (io i).pins.chrRomPrgmrWren = false
  /-- The run starts on dot 0 of a line. -/
  engine : start.ppu.engine = Engine.on (Beam.after first 0)
  /-- Rendering stays enabled. -/
  enabled : ∀ i < n, (dotRun io start i).ppu.renderEnable = true

/-- The dot at each time of the run. -/
theorem Drawing.cycle {io : ℕ → Dot} {start : Nes} {first n : ℕ}
    (drawing : Drawing io start first n) (time : ℕ) (le : time ≤ n) :
    (dotRun io start time).ppu.engine.cycle.toNat = time % 341 := by
  have running : ∀ i < time, (io i).pins.Running :=
    fun i below => drawing.running i (Nat.lt_of_lt_of_le below le)
  exact Ppu.cycle_on (dotRun_engine io start first time running drawing.engine)

/-- The line at each time of the run. -/
theorem Drawing.scanline {io : ℕ → Dot} {start : Nes} {first n : ℕ}
    (drawing : Drawing io start first n) (time : ℕ) (le : time ≤ n) :
    (dotRun io start time).ppu.scanline.toNat = (first + time / 341) % 262 := by
  have running : ∀ i < time, (io i).pins.Running :=
    fun i below => drawing.running i (Nat.lt_of_lt_of_le below le)
  exact Ppu.scanline_on (dotRun_engine io start first time running drawing.engine)

/-- A visible line and the line before it are rendered lines. -/
theorem Drawing.renderLine_of_pair {io : ℕ → Dot} {start : Nes} {first n : ℕ}
    (drawing : Drawing io start first n) (lines : first = 261 ∨ first ≤ 238) (two : n ≤ 682)
    (time : ℕ) (below : time < n) : (dotRun io start time).ppu.renderLine = true := by
  have line := drawing.scanline time (Nat.le_of_lt below)
  rw [Ppu.renderLine, line, Bool.or_eq_true, decide_eq_true_eq, beq_iff_eq]
  omega

/-- A run in which neither the processor nor the DMA touches the PPU. -/
structure Untouched (io : ℕ → Dot) (start : Nes) (n : ℕ) : Prop where
  /-- No cycle is in the register range. -/
  outside : ∀ i < n, ppuRange (io i).bus.addr = false
  /-- No DMA runs. -/
  free : ∀ i < n, (dotRun io start i).dma.dmaActive = false

/-- Such a run keeps the CPU interface. -/
theorem Untouched.cpu {io : ℕ → Dot} {start : Nes} {n : ℕ} (untouched : Untouched io start n)
    (running : ∀ i < n, (io i).pins.Running) (time : ℕ) (le : time ≤ n) :
    (dotRun io start time).ppu.cpu = start.ppu.cpu := by
  apply trace_invariant (fun _ (nes : Nes) => nes.ppu.cpu = start.ppu.cpu) rfl time
  intro i below before
  have free : (dotRun io start i).dma.dmaActive = false := untouched.free i (by omega)
  have outside := untouched.outside i (by omega)
  have held := cpuNext_of_bus (io i).bus ((dotRun io start i).settle (io i).pins (io i).bus)
    (running i (by omega)) free
  rw [outside, if_neg Bool.false_ne_true] at held
  rw [trace_succ, ppuClock_cpu]
  cases (io i).cpuEdge with
  | false => exact before
  | true => exact held.trans before

/-- An environment that leaves the console alone: idle bus cycles of three dots. -/
def quietDots (time : ℕ) : Dot := ⟨.read 0x8000, time % 3 == 2⟩

/-- A run with no write of `$4014` keeps an idle DMA as it is. -/
theorem dotRun_dma (io : ℕ → Dot) (start : Nes) (n : ℕ) (free : start.dma.dmaActive = false)
    (other : ∀ i < n, (io i).bus.startsDma = false) : (dotRun io start n).dma = start.dma := by
  apply trace_invariant (fun _ (nes : Nes) => nes.dma = start.dma) rfl n
  intro i below before
  have active : (dotRun io start i).dma.dmaActive = false :=
    (congrArg Dma.dmaActive before).trans free
  rw [trace_succ, ppuClock_dma]
  cases (io i).cpuEdge with
  | false => exact before
  | true =>
    exact (dmaNext_of_free (io i).pins ((dotRun io start i).settle _ _) active
      (other i below)).trans before

/-- A console left alone is not touched. -/
theorem untouched_of_quiet (start : Nes) (n : ℕ) (free : start.dma.dmaActive = false) :
    Untouched quietDots start n := by
  refine ⟨fun _ _ => rfl, fun i _ => ?_⟩
  rw [dotRun_dma quietDots start i free fun _ _ => rfl]
  exact free

/-- A console left alone keeps its memories, unless a write was on its way. -/
theorem contents_of_quiet (start : Nes) (pulse : start.ppuWrite = false)
    (still : start.ppu.writePending = false) :
    (dotRun quietDots start 2).mem.contents = start.mem.contents := by
  have first := ppuClock_contents (quietDots 0).pins (quietDots 0).bus (quietDots 0).cpuEdge start
    rfl
  have second := ppuClock_contents (quietDots 1).pins (quietDots 1).bus (quietDots 1).cpuEdge
    (dotRun quietDots start 1) rfl
  have quiet : (dotRun quietDots start 1).ppuWrite = false := by
    have handles := start.ppu.accessNext_handles (start.cpuControl (quietDots 0).bus)
      (start.settledData (quietDots 0).pins (quietDots 0).bus)
    exact handles.1.trans still
  rw [stored, quiet] at second
  rw [stored, pulse] at first
  exact second.trans first

/-- A console on the first dot of a line, left alone with rendering enabled. -/
theorem drawing_of_quiet (start : Nes) (first n : ℕ) (free : start.dma.dmaActive = false)
    (enabled : start.ppu.renderEnable = true)
    (here : start.ppu.engine = Engine.on (Beam.after first 0)) :
    Drawing quietDots start first n := by
  have running : ∀ i < n, (quietDots i).pins.Running := fun _ _ => ⟨rfl, rfl⟩
  refine ⟨running, fun _ _ => rfl, here, fun i below => ?_⟩
  have held := (untouched_of_quiet start n free).cpu running i (Nat.le_of_lt below)
  rw [Ppu.renderEnable, held]
  exact enabled

/-- A console on the first dot of a line, with rendering enabled, as after power-up
otherwise. -/
def lineStart (mem : Memories) (line : ℕ) : Nes :=
  let nes := powerUp mem
  { nes with
    ppu :=
      { nes.ppu with
        engine := Engine.on ⟨line, 0⟩
        cpu :=
          { nes.ppu.cpu with
            backgroundRenderEnable := true
            spriteRenderEnable := true
            showEdgeBackground := true
            showEdgeSprites := true } } }

end Nes

end FpgaNes
