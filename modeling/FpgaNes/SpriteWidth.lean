import FpgaNes.Composition
import FpgaNes.SpriteSelection

/-!
# The width of a sprite

A unit counts down and shifts from the second dot of a line on, while the composition looks at
it from the first. A unit whose X coordinate is zero therefore shows its first column twice, and
every other unit each of its columns once.
-/

namespace FpgaNes

open Hdl

namespace Ppu

/-- What a unit presents to the composition: nothing before its counter is zero. -/
def presented (ppu : Ppu) (i : Fin 8) : BitVec 2 :=
  if ppu.units.spriteXPosition i = 0 then ppu.unitPixel i else 0

end Ppu

namespace Nes

section

variable {io : ℕ → Dot} {start : Nes} {header : Header} {first n : ℕ} (line : ℕ)

/-- A unit presents the column of its slot under the beam; the dots before the second show
what the second does. -/
theorem Rendered.presented (rendered : Rendered io start first n) (dot : ℕ) (early : dot ≤ 257)
    (le : 341 * (line + 1) + max 2 dot ≤ n) (slot : Fin 8) :
    let x := (secondary io start line slot 3).toNat
    (dotRun io start (341 * (line + 1) + dot)).ppu.presented slot =
      if x ≤ dot - 2 then slotPixel io start line slot (dot - 2 - x) else 0 := by
  intro x
  -- on dots 0 and 1 the units still wait for the second dot
  have units : (dotRun io start (341 * (line + 1) + dot)).ppu.units =
      (dotRun io start (341 * (line + 1) + max 2 dot)).ppu.units := by
    by_cases late : 2 ≤ dot
    · rw [Nat.max_eq_right late]
    · have waits := rendered.units_held line (341 * (line + 1) + dot) (by omega) (by omega)
        (by omega)
      have ready := rendered.units_held line (341 * (line + 1) + max 2 dot) (by omega) (by omega)
        le
      exact waits.trans ready.symm
  have offset : max 2 dot - 2 = dot - 2 := by omega
  obtain ⟨counted, pixel⟩ := rendered.unitPixel line (max 2 dot) (by omega) (by omega) le slot
  rw [offset] at counted pixel
  rw [Ppu.presented, Ppu.unitPixel, units, ← Ppu.unitPixel]
  by_cases active : x ≤ dot - 2
  · rw [if_pos (counted.mpr active), if_pos active]
    exact pixel active
  · rw [if_neg (fun zero => active (counted.mp zero)), if_neg active]

/-- For every slot, X coordinate and pattern, on every visible line of which the line before is
drawn too: over dots 1 to 256 a sprite is exactly eight pixels wide, from the dot two past its
X coordinate, exactly when that is not zero or its first column is transparent. -/
theorem spriteWidth_iff (io : ℕ → Dot) (start : Nes) (first : ℕ) (slot : Fin 8)
    (drawing : Drawing io start first (341 + 256)) (lines : first = 261 ∨ first ≤ 238) :
    let x := (secondary io start 0 slot 3).toNat
    (∀ dot, 1 ≤ dot → dot ≤ 256 →
      (dotRun io start (341 + dot)).ppu.presented slot =
        if x + 2 ≤ dot ∧ dot < x + 10 then slotPixel io start 0 slot (dot - 2 - x) else 0) ↔
      x ≠ 0 ∨ slotPixel io start 0 slot 0 = 0 := by
  intro x
  have rendered : Rendered io start first (341 + 256) :=
    ⟨drawing, drawing.renderLine_of_pair lines (by decide)⟩
  have shown (dot : ℕ) (early : dot ≤ 256) :=
    rendered.presented 0 dot (by omega) (by omega) slot
  constructor
  · intro eight
    by_contra wide
    rw [not_or, Classical.not_not] at wide
    have twice := (shown 1 (by decide)).symm.trans (eight 1 (by decide) (by decide))
    rw [if_pos (Nat.le_of_eq wide.1), if_neg (by omega)] at twice
    rw [Nat.zero_sub] at twice
    exact wide.2 twice
  · intro narrow dot late early
    apply (shown dot early).trans
    by_cases started : x + 2 ≤ dot
    · rw [if_pos (show x ≤ dot - 2 by omega)]
      by_cases inside : dot < x + 10
      · rw [if_pos ⟨started, inside⟩]
      · have past : ¬ (x + 2 ≤ dot ∧ dot < x + 10) := fun both => inside both.2
        rw [if_neg past]
        exact slotPixel_past slot 0 _ (by omega)
    · have before : ¬ (x + 2 ≤ dot ∧ dot < x + 10) := fun both => started both.1
      rw [if_neg before]
      by_cases active : x ≤ dot - 2
      · -- only the first dot with X zero is left
        have zero : x = 0 := by omega
        have none : dot - 2 - x = 0 := by omega
        rw [if_pos active, none]
        exact narrow.resolve_left (fun other => other zero)
      · rw [if_neg active]

end

/-- A console left alone draws two lines of 8x8 sprites. -/
theorem sprites_of_quiet (mem : Memories) (line n : ℕ) (oam : BitVec 6 → OamEntry)
    (visible : line ≤ 238) (two : n ≤ 682) :
    Sprites quietDots (lineWith mem line oam) ⟨false, true⟩ line n := by
  have here : Beam.after line 0 = ⟨line, 0⟩ := by
    ext
    · exact Nat.mod_eq_of_lt (by omega)
    · rfl
  have drawing : Drawing quietDots (lineWith mem line oam) line n :=
    drawing_of_quiet _ _ _ rfl rfl (by rw [here]; rfl)
  have untouched := untouched_of_quiet (lineWith mem line oam) n rfl
  exact ⟨⟨drawing, fun _ _ => rfl, untouched.leaves,
    drawing.renderLine_of_pair (Or.inr visible) two⟩, untouched, visible, rfl⟩

/-- The pattern table with one pixel, in the first column of a flipped tile. -/
def onePixel : Memories :=
  { Memories.blank with chrRom := ⟨fun cell => if cell = 0x14 then 0x01 else 0, 0⟩ }

/-- Object memory with one sprite on line 8, flipped, at an X coordinate. -/
def spriteAt (x : Byte) : BitVec 6 → OamEntry :=
  Function.update (fun _ => spriteEntry 0 0 0 0) 5 (spriteEntry 4 1 0x41 x)

/-- Two lines with this sprite. -/
theorem spriteAt_sprites (x : Byte) :
    Sprites quietDots (lineWith onePixel 8 (spriteAt x)) ⟨false, true⟩ 8 (341 + 256) :=
  sprites_of_quiet onePixel 8 (341 + 256) (spriteAt x) (by decide) (by decide)

/-- The sprite is in the first slot. -/
theorem spriteAt_slot (x : Byte) :
    secondary quietDots (lineWith onePixel 8 (spriteAt x)) 0 0 = spriteEntry 4 1 0x41 x := by
  have one : entriesOn (spriteAt x) false ((8 + 0) % 262) = [5] := rfl
  have slot := (spriteAt_sprites x).rendered.secondary_steady 0
    (fun dot _ _ => steady_of_quiet onePixel 8 (spriteAt x) (341 * 0 + dot)) (by decide) 0
    (by rw [one]; decide)
  simp only [one] at slot
  exact slot

/-- Its pixel is in the first column. -/
theorem spriteAt_pixel :
    slotPixel quietDots (lineWith onePixel 8 (spriteAt 0)) 0 0 0 = 1 := by
  have pixel := (spriteAt_sprites 0).slotPixel 0 4 0 (by decide) (spriteAt_sprites 0).half
    (by rw [spriteAt_slot]; rfl) (by decide) (by decide)
  rw [spriteAt_slot, contents_of_quiet _ rfl rfl] at pixel
  rw [pixel]
  decide +kernel

/-- At X coordinate 10 the sprite is eight pixels wide. -/
theorem spriteAt_ten :
    (dotRun quietDots (lineWith onePixel 8 (spriteAt 10)) (341 + 12)).ppu.presented 0 =
      slotPixel quietDots (lineWith onePixel 8 (spriteAt 10)) 0 0 0 := by
  have drawing := (spriteAt_sprites 10).toDrawing
  have x : (secondary quietDots (lineWith onePixel 8 (spriteAt 10)) 0 0 3).toNat = 10 := by
    rw [spriteAt_slot]
    rfl
  have wide := (spriteWidth_iff quietDots (lineWith onePixel 8 (spriteAt 10)) 8 0 drawing
    (Or.inr (by decide))).mpr (Or.inl (by rw [x]; decide)) 12 (by decide) (by decide)
  rw [x, if_pos (by decide)] at wide
  exact wide

/-- At X coordinate 0 the sprite is one pixel too wide. -/
theorem spriteAt_zero :
    let start := lineWith onePixel 8 (spriteAt 0)
    let x := (secondary quietDots start 0 0 3).toNat
    ¬ ∀ dot, 1 ≤ dot → dot ≤ 256 →
      (dotRun quietDots start (341 + dot)).ppu.presented 0 =
        if x + 2 ≤ dot ∧ dot < x + 10 then slotPixel quietDots start 0 0 (dot - 2 - x)
        else 0 := by
  intro start x eight
  have zero : x = 0 := by
    show (secondary quietDots start 0 0 3).toNat = 0
    rw [spriteAt_slot]
    rfl
  have shown := (spriteAt_sprites 0).rendered.presented 0 1 (by decide) (by decide) 0
  have column : slotPixel quietDots start 0 0 0 = 1 := spriteAt_pixel
  have first := eight 1 (by decide) (by decide)
  rw [zero, if_neg (by decide)] at first
  change (dotRun quietDots start (341 + 1)).ppu.presented 0 =
    if x ≤ 1 - 2 then slotPixel quietDots start 0 0 (1 - 2 - x) else 0 at shown
  rw [zero, if_pos (by decide), column] at shown
  exact absurd (shown.symm.trans first) (by decide)

end Nes

end FpgaNes
