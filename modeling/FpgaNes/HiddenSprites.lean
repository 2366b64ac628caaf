import FpgaNes.SpriteWidth
import FpgaNes.SpriteOverflow

/-!
# Sprites below the screen

A sprite is put out of sight with a Y coordinate past the last line. The range check of the
pre-render line is made with its number, 261, and an entry in range there is shown on line 0.
The entry with Y coordinate 239 is in range on line 239 and its unit is loaded while the beam is
still on that line.
-/

namespace FpgaNes

open Hdl

/-- The Y coordinate is below the screen. -/
def parked (entry : OamEntry) : Prop := 239 ≤ (entry 0).toNat

instance (entry : OamEntry) : Decidable (parked entry) :=
  inferInstanceAs (Decidable (_ ≤ _))

/-- An entry below the screen is in range on the pre-render line when its Y coordinate is at
least 254, or 246 for sprites of two tiles. -/
theorem covers_preRender (entry : OamEntry) (size : Bool) :
    covers entry size 261 ↔ 254 ≤ (entry 0).toNat + 8 * size.toNat := by
  have bound := (entry 0).isLt
  rw [covers]
  omega

/-- An entry below the screen is in range on no visible line but the last. -/
theorem last_of_covers {entry : OamEntry} {size : Bool} {line : ℕ} (visible : line ≤ 239)
    (hidden : parked entry) (inside : covers entry size line) :
    line = 239 ∧ (entry 0).toNat = 239 := by
  have top := inside.1
  unfold parked at hidden
  omega

namespace Nes

/-- The entry of object memory in a slot after the evaluation of a line. -/
def slotEntry (io : ℕ → Dot) (start : Nes) (line : ℕ) (slot : Fin 8) : Option OamEntry :=
  (found io start line 192)[slot.val]?.map (examined io start line)

/-- The entry a unit is loaded with on a dot of a line: that of the line before until its fetch
begins, that of the line itself once its fetch is over, and none between. -/
def unitEntry (io : ℕ → Dot) (start : Nes) (line dot : ℕ) (slot : Fin 8) : Option OamEntry :=
  if dot ≤ 257 + 8 * slot.val then slotEntry io start (line - 1) slot
  else if 264 + 8 * slot.val ≤ dot then slotEntry io start line slot
  else none

/-- A unit puts a sprite pixel that is not zero into the composition. -/
def contributes (io : ℕ → Dot) (start : Nes) (line dot : ℕ) (slot : Fin 8) : Prop :=
  let ppu := (dotRun io start (341 * line + dot)).ppu
  ppu.cpu.spriteRenderEnable = true ∧ ppu.presented slot ≠ 0

section

variable {io : ℕ → Dot} {start : Nes} {first n : ℕ} (line : ℕ)

/-- A filled slot holds its entry, which is in range on the line. -/
theorem Rendered.slotEntry_covers (rendered : Rendered io start first n)
    (le : 341 * line + 257 ≤ n) (slot : Fin 8) {entry : OamEntry}
    (filled : slotEntry io start line slot = some entry) :
    secondary io start line slot = entry ∧ ∃ size, covers entry size ((first + line) % 262) := by
  rw [slotEntry, Option.map_eq_some_iff] at filled
  obtain ⟨position, place, rfl⟩ := filled
  obtain ⟨inside, here⟩ := List.getElem?_eq_some_iff.mp place
  obtain ⟨few, passes⟩ := mem_collected (List.mem_of_getElem? place)
  refine ⟨?_, (dotRun io start (examineTime line position)).ppu.cpu.spriteSize, ?_⟩
  · rw [← here]
    exact (rendered.filled line 192 (by decide) le).filled slot inside
  · have scanline := rendered.toDrawing.scanline (examineTime line position)
      (by unfold examineTime; omega)
    rw [examineTime, (onDot_time line (65 + position) (by omega)).1] at scanline
    rw [Nes.inRange, Ppu.spriteInRange_eq, decide_eq_true_eq, examineTime, scanline] at passes
    exact passes

/-- A dot of the sprite fetches outside those of a slot changes nothing its unit presents. -/
theorem Rendered.presented_held (rendered : Rendered io start first n) (slot : Fin 8)
    (before after : ℕ) (late : 257 ≤ before) (order : before ≤ after) (early : after ≤ 321)
    (outside : after ≤ 257 + 8 * slot.val ∨ 264 + 8 * slot.val ≤ before)
    (le : 341 * line + after ≤ n) :
    (dotRun io start (341 * line + after)).ppu.presented slot =
      (dotRun io start (341 * line + before)).ppu.presented slot := by
  apply trace_held (fun nes : Nes => nes.ppu.presented slot) (341 * line + before)
    (341 * line + after) (by omega)
  intro i above below
  obtain ⟨d, rfl⟩ := Nat.exists_eq_add_of_le (show 341 * line ≤ i by omega)
  obtain ⟨-, position, -, shifters⟩ :=
    rendered.units_fetch line d (by omega) (by omega) (by omega) slot
  have low := shifters 0
  have high := shifters 1
  rw [if_neg (by omega)] at position
  rw [if_neg (by omega)] at low
  rw [if_neg (by omega)] at high
  change (dotRun io start (341 * line + (d + 1))).ppu.presented slot =
    (dotRun io start (341 * line + d)).ppu.presented slot
  rw [Ppu.presented, Ppu.presented, Ppu.unitPixel, Ppu.unitPixel, position, high, low]

/-- Until its fetch begins a unit goes on presenting what it did on dot 257. -/
theorem Rendered.presented_before (rendered : Rendered io start first n) (slot : Fin 8)
    (dot : ℕ) (early : dot ≤ 257 + 8 * slot.val) (le : 341 * (line + 1) + 340 ≤ n) :
    (dotRun io start (341 * (line + 1) + dot)).ppu.presented slot =
      if (secondary io start line slot 3).toNat ≤ min dot 257 - 2 then
        slotPixel io start line slot (min dot 257 - 2 - (secondary io start line slot 3).toNat)
      else 0 := by
  have bound := slot.isLt
  by_cases shown : dot ≤ 257
  · rw [Nat.min_eq_left shown]
    exact rendered.presented line dot shown (by omega) slot
  · rw [Nat.min_eq_right (by omega), rendered.presented_held (line + 1) slot 257 dot
      (Nat.le_refl _) (by omega) (by omega) (Or.inl early) (by omega)]
    exact rendered.presented line 257 (by omega) (by omega) slot

/-- Once its fetch is over a unit presents its first column when its X coordinate is zero. -/
theorem Rendered.presented_after (rendered : Rendered io start first n) (slot : Fin 8)
    (dot : ℕ) (late : 264 + 8 * slot.val ≤ dot) (early : dot ≤ 340)
    (le : 341 * line + 340 ≤ n) :
    (dotRun io start (341 * line + dot)).ppu.presented slot =
      if (secondary io start line slot 3).toNat = 0 then slotPixel io start line slot 0
      else 0 := by
  have bound := slot.isLt
  obtain ⟨-, position, shifters⟩ := rendered.units_loaded line (by omega) slot
  have loaded : (dotRun io start (341 * line + dot)).ppu.presented slot =
      (dotRun io start (341 * line + 321)).ppu.presented slot := by
    by_cases fetches : dot ≤ 321
    · exact (rendered.presented_held line slot dot 321 (by omega) fetches (Nat.le_refl _)
        (Or.inr late) (by omega)).symm
    · have units := rendered.units_held line (341 * line + dot) (by omega) (by omega) (by omega)
      rw [Ppu.presented, Ppu.presented, Ppu.unitPixel, Ppu.unitPixel, units]
  have zero : secondary io start line slot 3 = 0 ↔ (secondary io start line slot 3).toNat = 0 :=
    BitVec.toNat_eq
  have pixel (plane : Fin 2) : (slotPattern io start line slot plane).getLsbD 7 =
      (slotPattern io start line slot plane).getMsbD 0 := by
    rw [BitVec.getMsbD_eq_getLsbD]
    rfl
  rw [loaded, Ppu.presented, Ppu.unitPixel, position, shifters, shifters, pixel, pixel]
  exact if_congr zero rfl rfl

/-- Nothing the pre-render line selects shows on line 0: wherever its unit stands on an opaque
column, sprites are disabled. -/
def PreRenderBlank (io : ℕ → Dot) (start : Nes) : Prop :=
  ∀ (slot : Fin 8) (entry : OamEntry), slotEntry io start 0 slot = some entry →
    ∀ dot ≤ 257 + 8 * slot.val, ∀ column, (entry 3).toNat + column = min dot 257 - 2 →
      slotPixel io start 0 slot column ≠ 0 →
        (dotRun io start (341 + dot)).ppu.cpu.spriteRenderEnable = false

/-- Nothing line 239 selects in its own last row shows on the line itself: a unit with X
coordinate zero and an opaque first column is loaded with sprites disabled. -/
def LastLineBlank (io : ℕ → Dot) (start : Nes) : Prop :=
  ∀ (slot : Fin 8) (entry : OamEntry), slotEntry io start 240 slot = some entry →
    (entry 0).toNat = 239 → (entry 3).toNat = 0 → slotPixel io start 240 slot 0 ≠ 0 →
      ∀ dot, 264 + 8 * slot.val ≤ dot → dot ≤ 340 →
        (dotRun io start (341 * 240 + dot)).ppu.cpu.spriteRenderEnable = false

/-- In every frame, for every object memory and pattern and both sizes: an entry below the
screen contributes no pixel on any dot of a visible line exactly when none shows on line 0 that
the pre-render line has selected, and none on line 239 that this line has. -/
theorem hidden_iff (io : ℕ → Dot) (start : Nes)
    (drawing : Drawing io start 261 (341 * 241)) :
    (∀ y ≤ 239, ∀ dot ≤ 340, ∀ (slot : Fin 8) (entry : OamEntry),
        unitEntry io start (y + 1) dot slot = some entry → parked entry →
          ¬ contributes io start (y + 1) dot slot) ↔
      PreRenderBlank io start ∧ LastLineBlank io start := by
  have rendered := drawing.rendered_frame
  constructor
  · intro hides
    constructor
    · intro slot entry filled dot early column place visible
      have bound := slot.isLt
      obtain ⟨held, size, covered⟩ := rendered.slotEntry_covers 0 (by decide) slot filled
      have low := (covers_preRender entry size).mp covered
      have flag := Bool.toNat_le size
      have below : parked entry := by
        unfold parked
        omega
      have shown := rendered.presented_before 0 slot dot early (by decide)
      rw [held, if_pos (by omega), ← place, Nat.add_sub_cancel_left] at shown
      have loaded : unitEntry io start (0 + 1) dot slot = some entry := (if_pos early).trans filled
      apply Bool.eq_false_iff.mpr
      intro enabled
      exact hides 0 (by decide) dot (by omega) slot entry loaded below
        ⟨enabled, fun clear => visible (shown.symm.trans clear)⟩
    · intro slot entry filled last zero visible dot late early
      have bound := slot.isLt
      obtain ⟨held, -⟩ := rendered.slotEntry_covers 240 (by decide) slot filled
      have shown := rendered.presented_after 240 slot dot late early (by decide)
      rw [held, if_pos zero] at shown
      have loaded : unitEntry io start (239 + 1) dot slot = some entry := by
        rw [unitEntry, if_neg (by omega), if_pos late]
        exact filled
      apply Bool.eq_false_iff.mpr
      intro enabled
      exact hides 239 (by decide) dot early slot entry loaded (Nat.le_of_eq last.symm)
        ⟨enabled, fun clear => visible (shown.symm.trans clear)⟩
  · rintro ⟨preRender, lastLine⟩ y visible dot inside slot entry loaded below
    have bound := slot.isLt
    rintro ⟨enabled, shows⟩
    rw [unitEntry] at loaded
    by_cases early : dot ≤ 257 + 8 * slot.val
    · rw [if_pos early, Nat.add_sub_cancel] at loaded
      obtain ⟨held, size, covered⟩ := rendered.slotEntry_covers y (by omega) slot loaded
      have shown := rendered.presented_before y slot dot early (by omega)
      rw [shown, held] at shows
      cases y with
      | zero =>
        by_cases active : (entry 3).toNat ≤ min dot 257 - 2
        · rw [if_pos active] at shows
          have disabled := preRender slot entry loaded dot early _
            (Nat.add_sub_of_le active) shows
          exact Bool.false_ne_true (disabled.symm.trans enabled)
        · rw [if_neg active] at shows
          exact shows rfl
      | succ z =>
        have line : (261 + (z + 1)) % 262 = z := by omega
        rw [line] at covered
        have last := last_of_covers (by omega) below covered
        omega
    · rw [if_neg early] at loaded
      by_cases late : 264 + 8 * slot.val ≤ dot
      · rw [if_pos late] at loaded
        obtain ⟨held, size, covered⟩ := rendered.slotEntry_covers (y + 1) (by omega) slot loaded
        have line : (261 + (y + 1)) % 262 = y := by omega
        rw [line] at covered
        obtain ⟨rfl, last⟩ := last_of_covers visible below covered
        have shown := rendered.presented_after 240 slot dot late inside (by decide)
        rw [shown, held] at shows
        by_cases zero : (entry 3).toNat = 0
        · rw [if_pos zero] at shows
          have disabled := lastLine slot entry loaded last zero shows dot late inside
          exact Bool.false_ne_true (disabled.symm.trans enabled)
        · rw [if_neg zero] at shows
          exact shows rfl
      · rw [if_neg late] at loaded
        cases loaded

/-- A line with no entry in range fills no slot. -/
theorem Drawing.slotEntry_none (drawing : Drawing io start first n) {oam : BitVec 6 → OamEntry}
    {size : Bool} (steady : Steady io start oam size line) (le : 341 * line + 257 ≤ n)
    (outside : (entriesOn oam size ((first + line) % 262)).length = 0) (slot : Fin 8) :
    slotEntry io start line slot = none := by
  have length := drawing.length_found line steady le
  rw [outside, Nat.mul_zero, Nat.min_eq_right (Nat.zero_le _)] at length
  rw [slotEntry, List.length_eq_zero_iff.mp length]
  rfl

end

/-- Sprites with Y coordinate 240 stay out of sight for a whole frame. -/
theorem rowOfSprites_hidden :
    parked (rowOfSprites 0 0) ∧
      ¬ ∃ y ≤ 239, ∃ dot ≤ 340, ∃ (slot : Fin 8) (entry : OamEntry),
        unitEntry quietDots (lineWith .blank 261 (rowOfSprites 0)) (y + 1) dot slot =
            some entry ∧
          parked entry ∧
            contributes quietDots (lineWith .blank 261 (rowOfSprites 0)) (y + 1) dot slot := by
  have frame := frame_of_quiet .blank (rowOfSprites 0)
  have empty (index : ℕ) (inside : index ≤ 240)
      (outside : (entriesOn (rowOfSprites 0) false ((261 + index) % 262)).length = 0)
      (slot : Fin 8) : slotEntry quietDots (lineWith .blank 261 (rowOfSprites 0)) index slot =
        none :=
    frame.toDrawing.slotEntry_none index
      (fun dot _ early => frame.steady (341 * index + dot) (by omega)) (by omega) outside slot
  have preRender : PreRenderBlank quietDots (lineWith .blank 261 (rowOfSprites 0)) := by
    intro slot entry filled
    rw [empty 0 (by decide) (by decide) slot] at filled
    cases filled
  have lastLine : LastLineBlank quietDots (lineWith .blank 261 (rowOfSprites 0)) := by
    intro slot entry filled
    rw [empty 240 (by decide) (by decide) slot] at filled
    cases filled
  have hidden := (hidden_iff quietDots _ frame.toDrawing).mpr ⟨preRender, lastLine⟩
  refine ⟨by decide, ?_⟩
  rintro ⟨y, row, dot, column, slot, entry, filled, below, shown⟩
  exact hidden y row dot column slot entry filled below shown

/-- A tile with one pixel in its seventh row. -/
def seventhRow : Memories :=
  { Memories.blank with chrRom := ⟨fun cell => if cell = 0x16 then 0x80 else 0, 0⟩ }

/-- Object memory with one sprite, at Y coordinate 255. -/
def belowScreen : BitVec 6 → OamEntry :=
  Function.update (fun _ => spriteEntry 0xF0 0 0 0) 5 (spriteEntry 0xFF 1 0 10)

/-- A frame with this sprite. -/
def belowFrame : Nes := lineWith seventhRow 261 belowScreen

/-- The sprite is drawn at the top of the screen. -/
theorem belowScreen_shown :
    ¬ ∀ y ≤ 239, ∀ dot ≤ 340, ∀ (slot : Fin 8) (entry : OamEntry),
      unitEntry quietDots belowFrame (y + 1) dot slot = some entry →
        parked entry →
          ¬ contributes quietDots belowFrame (y + 1) dot slot := by
  intro hides
  have drawing : Drawing quietDots belowFrame 261 682 :=
    drawing_of_quiet _ _ _ rfl rfl rfl
  have untouched := untouched_of_quiet belowFrame 682 rfl
  have held (time : ℕ) (le : time ≤ 682) := untouched.cpu drawing.running time le
  have scanning : Scanning quietDots belowFrame ⟨false, true⟩ 261 682 :=
    ⟨drawing, fun _ _ => rfl, untouched.leaves,
      drawing.renderLine_of_pair (Or.inl rfl) (by decide)⟩
  have steady : Steady quietDots belowFrame belowScreen false 0 :=
    fun dot _ _ => steady_of_quiet _ _ _ _
  have one : entriesOn belowScreen false ((261 + 0) % 262) = [5] := by decide
  have slot := scanning.rendered.secondary_steady 0 steady (by decide) 0 (by rw [one]; decide)
  simp only [one] at slot
  have entry : secondary quietDots belowFrame 0 0 =
      spriteEntry 0xFF 1 0 10 := slot
  have filled : slotEntry quietDots belowFrame 0 0 =
      some (spriteEntry 0xFF 1 0 10) := by
    have place : (found quietDots belowFrame 0 192)[0]? = some 5 := by
      rw [drawing.found_steady 0 steady (by decide)]
      decide
    show (found quietDots belowFrame 0 192)[0]?.map _ = _
    rw [place, Option.map_some, steady.examined 0 5 (by decide)]
    rfl
  have pixel := scanning.slotPixel 0 6 0 (by decide)
    (fun i below => by rw [held i (Nat.le_of_lt below)]) (by rw [entry]; rfl) (by decide)
    (by decide)
  rw [entry, contents_of_quiet _ rfl rfl] at pixel
  have shown := scanning.rendered.presented_before 0 0 12 (by decide) (by decide)
  rw [entry] at shown
  have visible : (dotRun quietDots belowFrame (341 * 1 + 12)).ppu.presented
      0 = 1 := by
    apply shown.trans
    apply pixel.trans
    decide +kernel
  have enabled : (dotRun quietDots belowFrame
      (341 * 1 + 12)).ppu.cpu.spriteRenderEnable = true := by
    rw [held _ (by decide)]
    rfl
  exact hides 0 (by decide) 12 (by decide) 0 _ filled (by decide)
    ⟨enabled, by rw [visible]; decide⟩

end Nes

end FpgaNes
