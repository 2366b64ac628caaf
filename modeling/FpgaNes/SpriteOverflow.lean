import FpgaNes.SpriteSelection

/-!
# The sprite overflow flag

The flag is set when the slot counter reaches eight. Evaluation goes around object memory three
times, so three entries in range fill the counter, and the pre-render line counts too: the flag
rises on the first line of the frame with three entries in range, whichever that is.
-/

namespace FpgaNes

open Hdl

namespace Ppu

/-- On a rendered line the flag latches a full counter; the second dot of the pre-render line
clears it. -/
theorem evalNext_overflow (ppu : Ppu) (enabled : ppu.renderEnable = true)
    (drawn : ppu.renderLine = true) :
    (ppu.evalNext false).spriteOverflow =
      if ppu.scanline.toNat = 261 ∧ ppu.engine.cycle.toNat = 1 then false
      else ppu.eval.spriteOverflow || ppu.eval.spriteCounter.toNat == 8 := by
  rw [evalNext, if_neg Bool.false_ne_true, enabled, drawn, Bool.and_self, if_pos rfl]
  dsimp only
  split
  · rfl
  · rfl

end Ppu

namespace Nes

/-- `sprite_overflow` some time into a run. -/
def overflow (io : ℕ → Dot) (start : Nes) (time : ℕ) : Bool :=
  (dotRun io start time).ppu.eval.spriteOverflow

/-- `sprite_counter` some time into a run. -/
def slotCount (io : ℕ → Dot) (start : Nes) (time : ℕ) : ℕ :=
  (dotRun io start time).ppu.eval.spriteCounter.toNat

section

variable {io : ℕ → Dot} {start : Nes} {first n : ℕ} {oam : BitVec 6 → OamEntry} {size : Bool}
  (line : ℕ)

/-- From the end of the evaluation of a line to the first dot of the next its counter holds. -/
theorem Rendered.slotCount_held (rendered : Rendered io start first n) (dot : ℕ)
    (late : 257 ≤ dot) (early : dot ≤ 341) (le : 341 * line + dot ≤ n) :
    slotCount io start (341 * line + dot) = slotCount io start (341 * line + 257) := by
  apply trace_held (fun nes : Nes => nes.ppu.eval.spriteCounter.toNat) (341 * line + 257)
    (341 * line + dot) (by omega)
  intro i after below
  obtain ⟨d, rfl⟩ := Nat.exists_eq_add_of_le (show 341 * line ≤ i by omega)
  have onDot := rendered.toDrawing.onDot line d (by omega) (by omega)
  obtain ⟨flag, step⟩ := rendered.eval_succ (341 * line + d) (by omega)
  rw [Ppu.evaluationDot, onDot, if_neg (by omega), if_neg (by omega), if_neg (by omega)] at step
  have same := congrArg (fun e : SpriteEvaluation => e.spriteCounter.toNat) step
  apply same.trans
  dsimp only
  split
  · rfl
  · rfl

/-- A counter that is full on some dot of a line is full at the end of its evaluation. -/
theorem Rendered.slotCount_full (rendered : Rendered io start first n)
    (le : 341 * line + 257 ≤ n) (dot : ℕ) (late : 1 ≤ dot) (early : dot ≤ 341)
    (le' : 341 * line + dot ≤ n) (full : slotCount io start (341 * line + dot) = 8) :
    slotCount io start (341 * line + 257) = 8 := by
  by_cases fetches : 257 ≤ dot
  · rw [← rendered.slotCount_held line dot fetches early le']
    exact full
  · by_cases clears : dot ≤ 65
    · obtain ⟨count, rfl⟩ := Nat.exists_eq_add_of_le late
      have cleared := rendered.clearing line count (by omega) le'
      rw [slotCount, cleared.empty] at full
      exact absurd full (by decide)
    · obtain ⟨count, rfl⟩ := Nat.exists_eq_add_of_le (show 65 ≤ dot by omega)
      have some := (rendered.filled line count (by omega) le').counter
      have all := (rendered.filled line 192 (by decide) le).counter
      have bound := length_collected_le 8 (inRange io start line) 192
      obtain ⟨more, split⟩ := Nat.exists_eq_add_of_le (show count ≤ 192 by omega)
      obtain ⟨rest, longer⟩ := collected_append 8 (inRange io start line) count more
      rw [← split] at longer
      have grows := congrArg List.length longer
      rw [List.length_append] at grows
      have seen : slotCount io start (341 * line + (65 + count)) =
          (collected 8 (inRange io start line) count).length := some
      have whole : slotCount io start (341 * line + 257) =
          (collected 8 (inRange io start line) 192).length := all
      omega

/-- The counter of a line is full when three entries are in range on it. -/
theorem Rendered.slotCount_iff (rendered : Rendered io start first n)
    (steady : Steady io start oam size line) (le : 341 * line + 257 ≤ n) :
    slotCount io start (341 * line + 257) = 8 ↔
      3 ≤ (entriesOn oam size ((first + line) % 262)).length := by
  have counter := rendered.spriteCounter line steady le
  rw [slotCount, counter]
  omega

/-- A frame from its pre-render line on, with object memory and the sprite size unchanged. -/
structure Frame (io : ℕ → Dot) (start : Nes) (oam : BitVec 6 → OamEntry) (size : Bool) : Prop
    extends Drawing io start 261 (341 * 241) where
  /-- Object memory and the sprite size stay as they are. -/
  steady : ∀ i < 341 * 241, (dotRun io start i).ppu.cpu.oam = oam ∧
    (dotRun io start i).ppu.cpu.spriteSize = size

/-- All its lines are rendered lines. -/
theorem Frame.rendered (frame : Frame io start oam size) :
    Rendered io start 261 (341 * 241) :=
  frame.toDrawing.rendered_frame

/-- The number of entries in range on a line of the frame, the pre-render line first. -/
def lineCount (oam : BitVec 6 → OamEntry) (size : Bool) (index : ℕ) : ℕ :=
  (entriesOn oam size ((261 + index) % 262)).length

/-- The lines after the pre-render line are the visible lines from the top. -/
theorem lineCount_succ (oam : BitVec 6 → OamEntry) (size : Bool) (y : ℕ) (visible : y ≤ 239) :
    lineCount oam size (y + 1) = (entriesOn oam size y).length := by
  have line : (261 + (y + 1)) % 262 = y := by omega
  rw [lineCount, line]

/-- Each line of the frame fills its counter when three entries are in range on it. -/
theorem Frame.full_iff (frame : Frame io start oam size) (index : ℕ) (inside : index ≤ 240) :
    slotCount io start (341 * index + 257) = 8 ↔ 3 ≤ lineCount oam size index :=
  frame.rendered.slotCount_iff index
    (fun dot _ early => frame.steady (341 * index + dot) (by omega)) (by omega)

/-- From the third dot of the frame on the flag says whether a counter has been full. -/
theorem Frame.overflow_iff (frame : Frame io start oam size) (time : ℕ) (late : 2 ≤ time)
    (le : time ≤ 341 * 241) :
    overflow io start time = true ↔
      ∃ i, 2 ≤ i ∧ i < time ∧ slotCount io start i = 8 := by
  have step (i : ℕ) (below : i < 341 * 241) :
      overflow io start (i + 1) =
        if (261 + i / 341) % 262 = 261 ∧ i % 341 = 1 then false
        else overflow io start i || slotCount io start i == 8 := by
    have edge := Ppu.evalNext_overflow _ (frame.enabled i below) (frame.rendered.drawn i below)
    rw [frame.scanline i (Nat.le_of_lt below), frame.cycle i (Nat.le_of_lt below)] at edge
    rw [overflow, dotRun_succ, ppuClock_eval, (frame.running i below).reset]
    exact edge
  have cleared : overflow io start 2 = false := step 1 (by decide)
  have latched := trace_latched (fun nes : Nes => nes.ppu.eval.spriteOverflow)
    (fun i => slotCount io start i == 8) 2 time late (fun i after below => by
      have edge := step i (by omega)
      rw [if_neg (by omega)] at edge
      exact edge)
  simp only [beq_iff_eq] at latched
  apply latched.trans
  constructor
  · rintro (already | later)
    · exact absurd (cleared.symm.trans already) Bool.false_ne_true
    · exact later
  · exact Or.inr

/-- By the end of the evaluation of a line the flag is set when a line so far had three entries
in range. -/
theorem Frame.overflow_of_count (frame : Frame io start oam size) (index : ℕ)
    (inside : index ≤ 240) (three : 3 ≤ lineCount oam size index) (time : ℕ)
    (late : 341 * index + 257 < time) (le : time ≤ 341 * 241) :
    overflow io start time = true :=
  (frame.overflow_iff time (by omega) le).mpr
    ⟨341 * index + 257, by omega, late, (frame.full_iff index inside).mpr three⟩

/-- The flag is set only after a line with three entries in range has begun. -/
theorem Frame.count_of_overflow (frame : Frame io start oam size) (index dot : ℕ)
    (inside : index ≤ 240) (place : dot ≤ 341) (late : 2 ≤ 341 * index + dot)
    (set : overflow io start (341 * index + dot) = true) :
    ∃ earlier, (earlier < index ∨ earlier = index ∧ 2 ≤ dot) ∧ 3 ≤ lineCount oam size earlier := by
  obtain ⟨i, after, before, full⟩ :=
    (frame.overflow_iff (341 * index + dot) late (by omega)).mp set
  -- a full counter at dot 0 is that of the line before
  obtain ⟨earlier, d, position, low, high⟩ :
      ∃ earlier d, i = 341 * earlier + d ∧ 1 ≤ d ∧ d ≤ 341 :=
    ⟨(i - 1) / 341, (i - 1) % 341 + 1, by omega, by omega, by omega⟩
  subst position
  refine ⟨earlier, by omega, (frame.full_iff earlier (by omega)).mp ?_⟩
  exact frame.rendered.slotCount_full earlier (by omega) d low high (by omega) full

/-- The flag rises during a visible line when three entries are in range on it, and fewer than
three on every line of the frame before it. -/
theorem Frame.rises_iff (frame : Frame io start oam size) (y : ℕ) (visible : y ≤ 239) :
    (∃ dot ≤ 340, overflow io start (341 * (y + 1) + dot) = false ∧
        overflow io start (341 * (y + 1) + dot + 1) = true) ↔
      3 ≤ lineCount oam size (y + 1) ∧ ∀ index ≤ y, lineCount oam size index < 3 := by
  constructor
  · rintro ⟨dot, place, clear, set⟩
    have quiet : ∀ index ≤ y, lineCount oam size index < 3 := by
      intro index before
      by_contra many
      have early := frame.overflow_of_count index (by omega) (by omega)
        (341 * (y + 1) + dot) (by omega) (by omega)
      exact Bool.false_ne_true (clear.symm.trans early)
    obtain ⟨earlier, here, three⟩ :=
      frame.count_of_overflow (y + 1) (dot + 1) (by omega) (by omega) (by omega) set
    refine ⟨?_, quiet⟩
    rcases here with before | ⟨same, -⟩
    · have few := quiet earlier (by omega)
      omega
    · rw [← same]
      exact three
  · rintro ⟨three, quiet⟩
    have clear : overflow io start (341 * (y + 1)) = false := by
      apply Bool.eq_false_iff.mpr
      intro set
      obtain ⟨earlier, here, many⟩ :=
        frame.count_of_overflow (y + 1) 0 (by omega) (by omega) (by omega) set
      have few := quiet earlier (by omega)
      omega
    have set := frame.overflow_of_count (y + 1) (by omega) three (341 * (y + 1) + 258) (by omega)
      (by omega)
    obtain ⟨i, after, before, unset, rises⟩ := trace_rises
      (fun nes : Nes => nes.ppu.eval.spriteOverflow) (341 * (y + 1)) (341 * (y + 1) + 258)
      (by omega) clear set
    obtain ⟨dot, rfl⟩ := Nat.exists_eq_add_of_le after
    exact ⟨dot, by omega, unset, rises⟩

/-- In every frame that leaves object memory and the sprite size alone: the flag rises on a
visible line only with more than eight entries in range on it, and is set by the end of each
line with more than eight, exactly when no visible line with three to eight is the first line
with three or more, counted from the pre-render line. -/
theorem spriteOverflow_iff (io : ℕ → Dot) (start : Nes) (oam : BitVec 6 → OamEntry)
    (size : Bool) (frame : Frame io start oam size) :
    (∀ y ≤ 239,
        ((∃ dot ≤ 340, overflow io start (341 * (y + 1) + dot) = false ∧
            overflow io start (341 * (y + 1) + dot + 1) = true) →
          8 < (entriesOn oam size y).length) ∧
        (8 < (entriesOn oam size y).length →
          overflow io start (341 * (y + 1) + 340) = true)) ↔
      ¬ ∃ y ≤ 239, 3 ≤ (entriesOn oam size y).length ∧ (entriesOn oam size y).length ≤ 8 ∧
        (entriesOn oam size 261).length < 3 ∧ ∀ z < y, (entriesOn oam size z).length < 3 := by
  -- the lines before a visible line are the pre-render line and the visible ones above it
  have before (y : ℕ) (visible : y ≤ 239) :
      (∀ index ≤ y, lineCount oam size index < 3) ↔
        (entriesOn oam size 261).length < 3 ∧ ∀ z < y, (entriesOn oam size z).length < 3 := by
    constructor
    · intro quiet
      refine ⟨quiet 0 (Nat.zero_le y), fun z above => ?_⟩
      have few := quiet (z + 1) above
      rw [lineCount_succ oam size z (by omega)] at few
      exact few
    · rintro ⟨preRender, quiet⟩ index early
      cases index with
      | zero => exact preRender
      | succ z =>
        rw [lineCount_succ oam size z (by omega)]
        exact quiet z early
  constructor
  · rintro right ⟨y, visible, three, eight, quiet⟩
    have rises := (frame.rises_iff y visible).mpr
      ⟨(lineCount_succ oam size y visible).symm ▸ three, (before y visible).mpr quiet⟩
    have many := (right y visible).1 rises
    omega
  · intro none y visible
    constructor
    · intro rises
      obtain ⟨three, quiet⟩ := (frame.rises_iff y visible).mp rises
      rw [lineCount_succ oam size y visible] at three
      by_contra few
      exact none ⟨y, visible, three, by omega, (before y visible).mp quiet⟩
    · intro many
      apply frame.overflow_of_count (y + 1) (by omega) ?_ _ (by omega) (by omega)
      rw [lineCount_succ oam size y visible]
      omega

end

/-- A frame with this object memory, left alone. -/
theorem frame_of_quiet (mem : Memories) (oam : BitVec 6 → OamEntry) :
    Frame quietDots (lineWith mem 261 oam) oam false :=
  ⟨drawing_of_quiet _ _ _ rfl rfl rfl, fun i _ => steady_of_quiet mem 261 oam i⟩

/-- Nine sprites on line 8 set the flag on that line. -/
theorem nineSprites_overflow :
    overflow quietDots (lineWith .blank 261 (rowOfSprites 9)) (341 * 9 + 340) = true := by
  have none : ¬ ∃ y ≤ 239, 3 ≤ (entriesOn (rowOfSprites 9) false y).length ∧
      (entriesOn (rowOfSprites 9) false y).length ≤ 8 ∧
      (entriesOn (rowOfSprites 9) false 261).length < 3 ∧
      ∀ z < y, (entriesOn (rowOfSprites 9) false z).length < 3 := by
    decide +kernel
  exact ((spriteOverflow_iff quietDots _ (rowOfSprites 9) false
    (frame_of_quiet .blank (rowOfSprites 9))).mpr none 8 (by decide)).2 (by decide +kernel)

/-- Three sprites on line 8 set the flag on that line. -/
theorem threeSprites_overflow :
    ¬ ∀ y ≤ 239,
      ((∃ dot ≤ 340,
          overflow quietDots (lineWith .blank 261 (rowOfSprites 3)) (341 * (y + 1) + dot) = false ∧
          overflow quietDots (lineWith .blank 261 (rowOfSprites 3)) (341 * (y + 1) + dot + 1) =
            true) →
        8 < (entriesOn (rowOfSprites 3) false y).length) ∧
      (8 < (entriesOn (rowOfSprites 3) false y).length →
        overflow quietDots (lineWith .blank 261 (rowOfSprites 3)) (341 * (y + 1) + 340) =
          true) := by
  intro right
  have counts : 3 ≤ lineCount (rowOfSprites 3) false (8 + 1) ∧
      ∀ index ≤ 8, lineCount (rowOfSprites 3) false index < 3 := by
    decide +kernel
  have rises := ((frame_of_quiet .blank (rowOfSprites 3)).rises_iff 8 (by decide)).mpr counts
  exact absurd ((right 8 (by decide)).1 rises) (by decide +kernel)

end Nes

end FpgaNes
