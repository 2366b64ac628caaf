import FpgaNes.Composition
import FpgaNes.Pixels

/-!
# The sprite 0 hit

The hit is raised where an opaque pixel of output unit 0 meets an opaque background pixel,
while a flag of the evaluation running for the next line says that it has found entry 0.
The unit holds entry 0 when that was in range one line earlier. So the hit can be raised by
another sprite on the line above entry 0, and it is missed on the last row of entry 0 and
on the dots before evaluation has found it.
-/

namespace FpgaNes

open Hdl

/-- The background pixels that are not transparent, leftmost first. -/
def Background.opaquePixels (bg : Background) : BitVec 16 := bg.ptableData 0 ||| bg.ptableData 1

namespace Ppu

variable (ppu : Ppu)

/-- The background index is transparent where no pixel is opaque. -/
theorem transparent_backgroundIdx :
    transparent ppu.backgroundIdx =
      !ppu.bg.opaquePixels.getLsbD (15 - ppu.cpu.fineX.toNat) := by
  rw [backgroundIdx, Background.opaquePixels, BitVec.getLsbD_or]
  cases (ppu.bg.ptableData 1).getLsbD (15 - ppu.cpu.fineX.toNat) <;>
    cases (ppu.bg.ptableData 0).getLsbD (15 - ppu.cpu.fineX.toNat) <;>
    cases (ppu.bg.paletteData 1).getLsbD (15 - ppu.cpu.fineX.toNat) <;>
    cases (ppu.bg.paletteData 0).getLsbD (15 - ppu.cpu.fineX.toNat) <;> rfl

/-- An opaque pixel of unit 0 meets an opaque background pixel, on a dot and under enables
with which the composition looks for the hit. -/
def overlap : Bool :=
  !transparent ppu.backgroundIdx && ppu.opaqueUnit 0 &&
    (ppu.cpu.backgroundRenderEnable && ppu.cpu.spriteRenderEnable) && ppu.hitDot

/-- The hit is raised on an overlap while evaluation has found entry 0. -/
theorem setSprite0Hit_eq :
    ppu.setSprite0Hit = (ppu.overlap && ppu.eval.sprite0HitPossible) := by
  cases enabled : ppu.cpu.spriteRenderEnable with
  | false => simp [setSprite0Hit, overlap, enabled]
  | true =>
    have pixel := ppu.spritePixel_eq enabled
    have slots : List.finRange 8 = 0 :: (List.finRange 8).tail := by decide
    cases shown : ppu.opaqueUnit 0 with
    | true =>
      have visible : transparent (1#1 ++ (ppu.units.spriteAttributes 0).extractLsb' 0 2 ++
          ppu.unitPixel 0) = false := by
        rw [transparent_unit, beq_eq_false_iff_ne]
        exact (of_decide_eq_true shown).2
      rw [slots, List.find?_cons, shown] at pixel
      rw [setSprite0Hit, overlap, pixel, visible, shown, enabled]
      cases transparent ppu.backgroundIdx <;> cases ppu.eval.sprite0HitPossible <;>
        cases ppu.cpu.backgroundRenderEnable <;> cases ppu.hitDot <;> rfl
    | false =>
      have quiet : ppu.spritePixel.sprite0HitRendering = false := by
        rw [pixel, shown]
        cases (List.finRange 8).find? ppu.opaqueUnit <;> rfl
      rw [setSprite0Hit, overlap, quiet, shown]
      simp only [Bool.false_and, Bool.and_false]

/-- An overlap is on a dot at which the composition looks for the hit. -/
theorem cycle_of_overlap (overlaps : ppu.overlap = true) :
    1 ≤ ppu.engine.cycle.toNat ∧ ppu.engine.cycle.toNat ≤ 257 := by
  rw [overlap, Bool.and_eq_true, hitDot] at overlaps
  have dots := overlaps.2
  split at dots
  · rw [Bool.and_eq_true, decide_eq_true_eq, decide_eq_true_eq] at dots
    omega
  · rw [Bool.and_eq_true, decide_eq_true_eq, decide_eq_true_eq] at dots
    omega

/-- An overlap is a pixel of unit 0. -/
theorem opaqueUnit_of_overlap (overlaps : ppu.overlap = true) : ppu.opaqueUnit 0 = true := by
  rw [overlap, Bool.and_eq_true, Bool.and_eq_true, Bool.and_eq_true] at overlaps
  exact overlaps.1.1.2

end Ppu

namespace Nes

/-- The pixel of entry 0 on a dot of a line, from the pattern bytes fetched for slot 0. -/
def zeroPixel (io : ℕ → Dot) (start : Nes) (dot : ℕ) : BitVec 2 :=
  if (entry 3).toNat ≤ dot - 2 then
    BitVec.ofBool ((pattern 1).getMsbD column) ++ BitVec.ofBool ((pattern 0).getMsbD column)
  else 0
where
  /-- Entry 0 of object memory. -/
  entry : OamEntry := start.ppu.cpu.oam 0
  /-- The column of the sprite under the beam. -/
  column : ℕ := dot - 2 - (entry 3).toNat
  /-- The byte of a plane, under the horizontal flip. -/
  pattern (plane : Fin 2) : Byte :=
    Ppu.flipped ((entry 2).getLsbD 6) (patternByte io start 0 0 plane)

/-- Two visible lines drawn with rendering enabled, over which object memory stays as it is. -/
structure LinePair (io : ℕ → Dot) (start : Nes) (first : ℕ) : Prop
    extends Drawing io start first 682 where
  /-- Both lines are visible. -/
  visible : first ≤ 238
  /-- Object memory stays as it is. -/
  kept : ∀ i < 682, (dotRun io start i).ppu.cpu.oam = start.ppu.cpu.oam

section

variable {io : ℕ → Dot} {start : Nes} {first : ℕ}

/-- The lines are rendered. -/
theorem LinePair.rendered (pair : LinePair io start first) : Rendered io start first 682 :=
  ⟨pair.toDrawing, pair.toDrawing.renderLine_of_pair (Or.inr pair.visible) (Nat.le_refl 682)⟩

/-- The hit is set by an overlap while evaluation has found entry 0; nothing clears it. -/
theorem LinePair.hit_succ (pair : LinePair io start first) (time : ℕ) (below : time < 682) :
    (dotRun io start (time + 1)).ppu.sprite0Hit =
      ((dotRun io start time).ppu.sprite0Hit ||
        ((dotRun io start time).ppu.overlap &&
          (dotRun io start time).ppu.eval.sprite0HitPossible)) := by
  have visible := pair.visible
  have line := pair.toDrawing.scanline time (Nat.le_of_lt below)
  rw [dotRun_succ, ppuClock_sprite0Hit, (pair.running time below).reset, Ppu.sprite0HitNext,
    if_neg Bool.false_ne_true, if_neg (by omega), Ppu.setSprite0Hit_eq]
  cases (dotRun io start time).ppu.overlap &&
    (dotRun io start time).ppu.eval.sprite0HitPossible with
  | true => rw [if_pos rfl, Bool.or_true]
  | false => rw [if_neg Bool.false_ne_true, Bool.or_false]

/-- What sets the hit on a dot of the second line. -/
theorem LinePair.sets_iff (pair : LinePair io start first) (dot : ℕ) (inside : dot < 341) :
    let ppu := (dotRun io start (341 + dot)).ppu
    (ppu.overlap && ppu.eval.sprite0HitPossible) = true ↔
      ppu.overlap = true ∧ zeroFound io start 1 dot = true := by
  intro ppu
  have cycle : ppu.engine.cycle.toNat = dot := pair.toDrawing.onDot 1 dot inside (by omega)
  rw [Bool.and_eq_true]
  constructor
  · rintro ⟨overlaps, possible⟩
    have dots := ppu.cycle_of_overlap overlaps
    have armed := pair.rendered.armed 1 dot (by omega) (by omega) (by omega)
    exact ⟨overlaps, armed.symm.trans possible⟩
  · rintro ⟨overlaps, found⟩
    have dots := ppu.cycle_of_overlap overlaps
    have armed := pair.rendered.armed 1 dot (by omega) (by omega) (by omega)
    exact ⟨overlaps, armed.trans found⟩

/-- The hit after a number of dots of the second line. -/
theorem LinePair.hit_iff (pair : LinePair io start first) (dots : ℕ) (inside : dots ≤ 341) :
    (dotRun io start (341 + dots)).ppu.sprite0Hit = true ↔
      (dotRun io start 341).ppu.sprite0Hit = true ∨
        ∃ dot < dots, (dotRun io start (341 + dot)).ppu.overlap = true ∧
          zeroFound io start 1 dot = true := by
  have latched := trace_latched (fun nes : Nes => nes.ppu.sprite0Hit)
    (fun i => (dotRun io start i).ppu.overlap &&
      (dotRun io start i).ppu.eval.sprite0HitPossible) 341 (341 + dots) (by omega)
    fun i after below => pair.hit_succ i (by omega)
  refine latched.trans (or_congr_right ?_)
  constructor
  · rintro ⟨i, after, below, sets⟩
    obtain ⟨dot, rfl⟩ := Nat.exists_eq_add_of_le after
    exact ⟨dot, by omega, (pair.sets_iff dot (by omega)).mp sets⟩
  · rintro ⟨dot, below, both⟩
    exact ⟨341 + dot, by omega, by omega, (pair.sets_iff dot (by omega)).mpr both⟩

/-- Evaluation examines the entries of object memory as it is. -/
theorem LinePair.examined (pair : LinePair io start first) (line position : ℕ)
    (below : examineTime line position < 682) :
    examined io start line position = start.ppu.cpu.oam (BitVec.ofNat 6 position) :=
  congrFun (pair.kept _ below) _

/-- Evaluation of the first line finds entry 0 exactly when that covers the line. -/
theorem LinePair.inRange (pair : LinePair io start first) :
    inRange io start 0 0 =
      decide (covers (start.ppu.cpu.oam 0) (dotRun io start 65).ppu.cpu.spriteSize first) := by
  have visible := pair.visible
  rw [pair.toDrawing.inRange 0 0 (by decide) (by decide) (by omega),
    pair.examined 0 0 (by decide)]
  rfl

/-- With one sprite size, evaluation of the second line has found entry 0 from dot 66 on,
when that covers the line. -/
theorem LinePair.zeroFound_iff (pair : LinePair io start first) (size : Bool)
    (steady : ∀ i < 682, (dotRun io start i).ppu.cpu.spriteSize = size) (dot : ℕ)
    (early : dot ≤ 257) :
    zeroFound io start 1 dot = true ↔
      66 ≤ dot ∧ covers (start.ppu.cpu.oam 0) size (first + 1) := by
  have visible := pair.visible
  have test (position : ℕ) (few : position < 192) : Nes.inRange io start 1 position =
      decide (covers (start.ppu.cpu.oam (BitVec.ofNat 6 position)) size (first + 1)) := by
    have time : examineTime 1 position < 682 := by
      unfold examineTime
      omega
    rw [pair.toDrawing.inRange 1 position few (Nat.le_of_lt time) (by omega),
      pair.examined 1 position time, steady _ time]
  constructor
  · intro seen
    refine ⟨zeroFound_late 1 dot seen, ?_⟩
    rw [zeroFound, List.any_eq_true] at seen
    obtain ⟨position, kept, zero⟩ := seen
    obtain ⟨visited, passes⟩ := mem_collected kept
    have entry : BitVec.ofNat 6 position = 0 := by
      apply BitVec.eq_of_toNat_eq
      rw [BitVec.toNat_ofNat]
      exact eq_of_beq zero
    rw [test position (by omega), entry] at passes
    exact of_decide_eq_true passes
  · rintro ⟨late, covered⟩
    have passes : Nes.inRange io start 1 0 = true :=
      (test 0 (by decide)).trans (decide_eq_true covered)
    have head := head?_collected (dot - 65) (by decide : 0 < 8) (by omega) passes
    rw [zeroFound, List.any_eq_true]
    exact ⟨0, List.mem_of_mem_head? head, rfl⟩

/-- Unit 0 then holds entry 0. -/
theorem LinePair.secondary_zero (pair : LinePair io start first)
    (inRange : covers (start.ppu.cpu.oam 0) (dotRun io start 65).ppu.cpu.spriteSize first) :
    secondary io start 0 0 = start.ppu.cpu.oam 0 := by
  have passes := pair.inRange.trans (decide_eq_true inRange)
  have head := head?_collected 192 (by decide : 0 < 8) (by decide) passes
  have filled := pair.rendered.filled 0 192 (by decide) (by decide)
  have some : 0 < (found io start 0 192).length := by
    rw [List.length_pos_iff_ne_nil]
    intro empty
    rw [found] at empty
    rw [empty] at head
    exact Option.some_ne_none _ head.symm
  have first' : (found io start 0 192)[0] = 0 := by
    have same : (found io start 0 192).head? = _ := List.head?_eq_getElem?
    rw [List.getElem?_eq_getElem some] at same
    exact Option.some.inj (same.symm.trans head)
  have slot := filled.filled 0 some
  refine Eq.trans slot ?_
  show Nes.examined io start 0 (found io start 0 192)[0] = _
  rw [first']
  exact pair.examined 0 0 (by decide)

/-- With entry 0 in slot 0, its pixels are those of the slot. -/
theorem zeroPixel_eq (entry : secondary io start 0 0 = start.ppu.cpu.oam 0) (dot : ℕ) :
    zeroPixel io start dot =
      if (start.ppu.cpu.oam 0 3).toNat ≤ dot - 2 then
        slotPixel io start 0 0 (dot - 2 - (start.ppu.cpu.oam 0 3).toNat)
      else 0 := by
  rw [slotPixel, slotPattern, slotPattern, entry]
  rfl

/-- Unit 0 then shows the pixels of entry 0. -/
theorem LinePair.unit_zero (pair : LinePair io start first)
    (inRange : covers (start.ppu.cpu.oam 0) (dotRun io start 65).ppu.cpu.spriteSize first)
    (dot : ℕ) (late : 2 ≤ dot) (early : dot ≤ 257) :
    let ppu := (dotRun io start (341 + dot)).ppu
    (ppu.opaqueUnit 0 = true ↔ zeroPixel io start dot ≠ 0) ∧
      (ppu.opaqueUnit 0 = true → ppu.unitPixel 0 = zeroPixel io start dot) := by
  intro ppu
  have entry := pair.secondary_zero inRange
  obtain ⟨counted, pixel⟩ := pair.rendered.unitPixel 0 dot late early (by omega) 0
  rw [entry] at counted pixel
  rw [zeroPixel_eq entry, Ppu.opaqueUnit, decide_eq_true_eq]
  by_cases active : (start.ppu.cpu.oam 0 3).toNat ≤ dot - 2
  · rw [if_pos active, ← pixel active]
    exact ⟨⟨fun both => both.2, fun seen => ⟨counted.mpr active, seen⟩⟩, fun _ => rfl⟩
  · rw [if_neg active]
    exact ⟨⟨fun both => absurd (counted.mp both.1) active, fun seen => absurd rfl seen⟩,
      fun both => absurd (counted.mp both.1) active⟩

/-- A clear hit stays clear up to the left edge of entry 0. -/
theorem LinePair.unset_left (pair : LinePair io start first)
    (inRange : covers (start.ppu.cpu.oam 0) (dotRun io start 65).ppu.cpu.spriteSize first)
    (clear : (dotRun io start 341).ppu.sprite0Hit = false) (dot : ℕ) (early : dot ≤ 258)
    (left : dot ≤ (start.ppu.cpu.oam 0 3).toNat + 2) :
    (dotRun io start (341 + dot)).ppu.sprite0Hit = false := by
  by_contra set
  rcases (pair.hit_iff dot (by omega)).mp (Bool.eq_true_of_not_eq_false set) with
    already | ⟨before, below, overlaps, found⟩
  · exact Bool.false_ne_true (clear.symm.trans already)
  · have late := zeroFound_late 1 before found
    have shown := Ppu.opaqueUnit_of_overlap _ overlaps
    have pixel := (pair.unit_zero inRange before (by omega) (by omega)).1.mp shown
    have outside : ¬ (start.ppu.cpu.oam 0 3).toNat ≤ before - 2 := by omega
    have none : zeroPixel io start before = 0 := if_neg outside
    exact pixel none

/-- When nothing touches the PPU this is the pixel of the 8x8 sprite in the pattern tables. -/
theorem Sprites.zeroPixel_eq {header : Header} (sprites : Sprites io start header first 682)
    (covered : covers (start.ppu.cpu.oam 0) false first) (dot : ℕ)
    (active : (start.ppu.cpu.oam 0 3).toNat ≤ dot - 2)
    (near : dot - 2 < (start.ppu.cpu.oam 0 3).toNat + 8) :
    zeroPixel io start dot =
      (dotRun io start 2).mem.contents.spritePixel header start.ppu.cpu.spritePtableAddr
        (start.ppu.cpu.oam 0) (first - (start.ppu.cpu.oam 0 0).toNat)
        (dot - 2 - (start.ppu.cpu.oam 0 3).toNat) := by
  have visible := sprites.visible
  have kept (i : ℕ) (below : i < 682) := congrArg CpuInterface.oam (sprites.cpu i (by omega))
  have pair : LinePair io start first := ⟨sprites.toDrawing, visible, kept⟩
  have entry := pair.secondary_zero (by rw [sprites.size 65 (by decide)]; exact covered)
  obtain ⟨top, bottom⟩ := covered
  have tall : 8 * false.toNat = 0 := rfl
  have pixel := sprites.slotPixel 0 (first - (start.ppu.cpu.oam 0 0).toNat)
    (dot - 2 - (start.ppu.cpu.oam 0 3).toNat) (by decide) sprites.half (by rw [entry]; omega)
    (by omega) (by omega)
  rw [Nes.zeroPixel_eq entry, if_pos active, pixel, entry]

/-- Units with blank shifters stay blank until the sprite fetches. -/
theorem Rendered.units_blank {n : ℕ} (rendered : Rendered io start first n)
    (blank : ∀ slot plane, start.ppu.units.spriteShifters slot plane = 0) (dot : ℕ)
    (early : dot ≤ 257) (le : dot ≤ n) (slot : Fin 8) (plane : Fin 2) :
    (dotRun io start dot).ppu.units.spriteShifters slot plane = 0 := by
  induction dot with
  | zero => exact blank slot plane
  | succ dot ih =>
    have before := ih (by omega) (by omega)
    have cycle := rendered.toDrawing.cycle dot (by omega)
    have quiet : (dotRun io start dot).ppu.spriteFetchDot = false := by
      rw [Ppu.spriteFetchDot, cycle, Bool.and_eq_false_iff, decide_eq_false_iff_not]
      omega
    have step := rendered.toDrawing.units_succ dot (by omega)
    rw [Ppu.unitsNext, if_neg Bool.false_ne_true, rendered.enabled dot (by omega),
      rendered.drawn dot (by omega), Bool.and_self, if_pos rfl, quiet,
      if_neg Bool.false_ne_true] at step
    rw [step]
    split
    · show (if _ then _ else _) = _
      rw [before]
      split <;> rfl
    · exact before

/-- With blank units the first line leaves the hit as it is. -/
theorem LinePair.hit_blank (pair : LinePair io start first)
    (blank : ∀ slot plane, start.ppu.units.spriteShifters slot plane = 0) :
    (dotRun io start 341).ppu.sprite0Hit = start.ppu.sprite0Hit := by
  apply trace_held (fun nes : Nes => nes.ppu.sprite0Hit) 0 341 (by decide)
  intro time _ below
  have quiet : (dotRun io start time).ppu.overlap = false := by
    by_contra overlaps
    have seen := Bool.eq_true_of_not_eq_false overlaps
    have dots := Ppu.cycle_of_overlap _ seen
    have cycle := pair.toDrawing.cycle time (by omega)
    have units := pair.rendered.units_blank blank time (by omega) (by omega) 0
    have shown := of_decide_eq_true (Ppu.opaqueUnit_of_overlap _ seen)
    rw [Ppu.unitPixel, units 0, units 1] at shown
    exact shown.2 rfl
  have step := pair.hit_succ time (by omega)
  rw [quiet, Bool.false_and, Bool.or_false] at step
  exact step

/-! ## A solid picture -/

/-- A run of 8x8 sprites in which every pixel of every tile is set. -/
structure Solid (io : ℕ → Dot) (start : Nes) (first n : ℕ) : Prop
    extends Sprites io start ⟨false, true⟩ first n where
  /-- Every byte of the pattern tables is `$FF`. -/
  solid : ∀ addr < 0x2000, (dotRun io start 2).mem.contents.read ⟨false, true⟩ addr = 0xFF

/-- A background pixel with a bit of its first plane set is opaque. -/
theorem transparent_pixel (tile : Tile) (column : ℕ)
    (set : (tile.pattern 0).getMsbD column = true) :
    Ppu.transparent (tile.pixel column) = false := by
  rw [Tile.pixel, set]
  cases tile.palette 1 <;> cases tile.palette 0 <;>
    cases (tile.pattern 1).getMsbD column <;> rfl

/-- Each of the eight columns of a full byte is set. -/
theorem getMsbD_full (column : ℕ) (inside : column < 8) :
    (0xFF : Byte).getMsbD column = true := by
  revert column
  decide

/-- Memories in which every pixel of every tile is set. -/
def solidMemories : Memories :=
  { Memories.blank with chrRom := ⟨fun _ => 0xFF, 0⟩ }

/-- Every background pixel of the second line is opaque. -/
theorem Solid.background {n : ℕ} (solid : Solid io start first n) (dot : ℕ) (later : 1 ≤ dot)
    (early : dot ≤ 257) (inside : 341 + dot ≤ n) :
    Ppu.transparent (dotRun io start (341 + dot)).ppu.backgroundIdx = false := by
  rw [solid.backgroundIdx dot later early inside]
  apply transparent_pixel
  have full (name : Byte) (half : Bool) (fine : BitVec 3) :
      (dotRun io start 2).mem.contents.read ⟨false, true⟩
        (0x1000 * half.toNat + 16 * name.toNat + 8 * 0 + fine.toNat) = 0xFF := by
    have flag := Bool.toNat_le half
    have tile := name.isLt
    have row := fine.isLt
    exact solid.solid _ (by omega)
  rw [lineTile, PpuMemory.tileUnder, PpuMemory.tile]
  apply (congrArg (fun byte : Byte => byte.getMsbD _) (full _ _ _)).trans
  exact getMsbD_full _ (Nat.mod_lt _ (by decide))

/-- Every pixel of a slot in range is set. -/
theorem Solid.slotPixel {n : ℕ} (solid : Solid io start first n) (slot : Fin 8) (column : ℕ)
    (le : 321 ≤ n) (covered : covers (secondary io start 0 slot) false first)
    (inside : column < 8) : slotPixel io start 0 slot column = 3 := by
  have visible := solid.visible
  obtain ⟨top, bottom⟩ := covered
  have size : 8 * false.toNat = 0 := rfl
  rw [solid.toScanning.slotPixel slot (first - (secondary io start 0 slot 0).toNat) column le
    solid.half (by omega) (by omega) inside]
  generalize secondary io start 0 slot = entry at *
  have flag := Bool.toNat_le start.ppu.cpu.spritePtableAddr
  have tile := (entry 1).isLt
  have byte (plane : ℕ) (few : plane < 2) :
      PpuMemory.spritePixel.byte (dotRun io start 2).mem.contents ⟨false, true⟩
        start.ppu.cpu.spritePtableAddr entry (first - (entry 0).toNat) plane = 0xFF := by
    apply solid.solid
    rw [PpuMemory.spritePixel.down]
    split <;> omega
  have across : PpuMemory.spritePixel.across entry column < 8 := by
    rw [PpuMemory.spritePixel.across]
    split <;> omega
  rw [PpuMemory.spritePixel, byte 0 (by decide), byte 1 (by decide), getMsbD_full _ across]
  rfl

/-- Slot 0 in range shows an opaque pixel on each of its columns. -/
theorem Solid.opaqueUnit {n : ℕ} (solid : Solid io start first n) (dot : ℕ) (late : 2 ≤ dot)
    (early : dot ≤ 257) (inside : 341 + dot ≤ n)
    (covered : covers (secondary io start 0 0) false first)
    (active : (secondary io start 0 0 3).toNat ≤ dot - 2)
    (near : dot - 2 < (secondary io start 0 0 3).toNat + 8) :
    (dotRun io start (341 + dot)).ppu.opaqueUnit 0 = true := by
  obtain ⟨counted, pixel⟩ := solid.rendered.unitPixel 0 dot late early inside 0
  apply decide_eq_true
  refine ⟨counted.mpr active, ?_⟩
  rw [pixel active, solid.slotPixel 0 _ (by omega) covered (by omega)]
  decide

/-- Slot 0 in range overlaps the background on each of its columns. -/
theorem Solid.overlap {n : ℕ} (solid : Solid io start first n) (dot : ℕ) (late : 2 ≤ dot)
    (early : dot ≤ 257) (inside : 341 + dot ≤ n)
    (layers : start.ppu.cpu.backgroundRenderEnable = true ∧
      start.ppu.cpu.spriteRenderEnable = true)
    (edge : start.ppu.cpu.showEdgeBackground = true)
    (covered : covers (secondary io start 0 0) false first)
    (active : (secondary io start 0 0 3).toNat ≤ dot - 2)
    (near : dot - 2 < (secondary io start 0 0 3).toNat + 8) :
    (dotRun io start (341 + dot)).ppu.overlap = true := by
  have cpu := solid.cpu (341 + dot) inside
  have cycle := solid.toDrawing.onDot 1 dot (by omega) inside
  have shown := solid.opaqueUnit dot late early inside covered active near
  have window : (dotRun io start (341 + dot)).ppu.hitDot = true := by
    rw [Ppu.hitDot, cpu, edge, Bool.or_true, Bool.not_true, if_neg Bool.false_ne_true, cycle,
      decide_eq_true (by omega), decide_eq_true (by omega), Bool.and_self]
  rw [Ppu.overlap, solid.background dot (by omega) early inside, shown, cpu, layers.1, layers.2,
    window]
  rfl

/-- Such a run is a pair of lines. -/
theorem Solid.pair (solid : Solid io start first 682) : LinePair io start first :=
  ⟨solid.toDrawing, solid.visible, fun i below => by rw [solid.cpu i (Nat.le_of_lt below)]⟩

/-- Entry 0 in range is opaque on each of its columns. -/
theorem Solid.zeroPixel (solid : Solid io start first 682) (dot : ℕ) (late : 2 ≤ dot)
    (early : dot ≤ 257) (covered : covers (start.ppu.cpu.oam 0) false first)
    (active : (start.ppu.cpu.oam 0 3).toNat ≤ dot - 2)
    (near : dot - 2 < (start.ppu.cpu.oam 0 3).toNat + 8) : zeroPixel io start dot ≠ 0 := by
  have covered' : covers (start.ppu.cpu.oam 0) (dotRun io start 65).ppu.cpu.spriteSize first := by
    rw [solid.size 65 (by decide)]
    exact covered
  have slot := solid.pair.secondary_zero covered'
  apply (solid.pair.unit_zero covered' dot late early).1.mp
  apply solid.opaqueUnit dot late early (by omega)
  · rw [slot]
    exact covered
  · rw [slot]
    exact active
  · rw [slot]
    exact near

/-- An overlap sets the hit once entry 0 is found again. -/
theorem Solid.hit_of_overlap (solid : Solid io start first 682) (dot : ℕ) (late : 66 ≤ dot)
    (early : dot ≤ 257) (covered : covers (start.ppu.cpu.oam 0) false (first + 1))
    (overlaps : (dotRun io start (341 + dot)).ppu.overlap = true) :
    (dotRun io start (341 + (dot + 1))).ppu.sprite0Hit = true := by
  have found := (solid.pair.zeroFound_iff false
    (fun i below => solid.size i (Nat.le_of_lt below)) dot early).mpr ⟨late, covered⟩
  apply (solid.pair.hit_iff (dot + 1) (by omega)).mpr
  exact Or.inr ⟨dot, Nat.lt_succ_self dot, overlaps, found⟩

/-- A console on the first dot of a visible line, left alone with a solid picture. -/
theorem solid_of_quiet (start : Nes) (line : ℕ) (visible : line ≤ 238)
    (free : start.dma.dmaActive = false) (enabled : start.ppu.renderEnable = true)
    (engine : start.ppu.engine = Engine.on (Beam.after line 0))
    (eight : start.ppu.cpu.spriteSize = false) (pulse : start.ppuWrite = false)
    (still : start.ppu.writePending = false)
    (contents : start.mem.contents = solidMemories.contents) :
    Solid quietDots start line 682 := by
  have drawing := drawing_of_quiet start line 682 free enabled engine
  have untouched := untouched_of_quiet start 682 free
  refine ⟨⟨⟨drawing, fun _ _ => rfl, untouched.leaves,
    drawing.renderLine_of_pair (Or.inr visible) (Nat.le_refl 682)⟩, untouched, visible, eight⟩,
    fun addr pattern => ?_⟩
  rw [contents_of_quiet start pulse still, contents, PpuMemory.read, if_pos pattern]
  rfl

/-- A line of a solid picture, left alone with any object memory. -/
theorem solid_lineWith (line : ℕ) (visible : line ≤ 238) (oam : BitVec 6 → OamEntry) :
    Solid quietDots (lineWith solidMemories line oam) line 682 := by
  have here : Beam.after line 0 = ⟨line, 0⟩ :=
    Beam.ext (show (line + 0 / 341) % 262 = line by omega) rfl
  have engine : (lineWith solidMemories line oam).ppu.engine = Engine.on (Beam.after line 0) := by
    rw [here]
    rfl
  exact solid_of_quiet _ line visible rfl rfl engine rfl rfl rfl rfl

/-! ## Soundness of the hit -/

/-- Over every visible line drawn after another with rendering enabled and object memory
unchanged: each rise of the hit is an opaque pixel of entry 0, in range one line earlier,
exactly when the hit was set before, or entry 0 was in range, or the pixels of the sprite
that has its place meet no background while evaluation has found entry 0. -/
theorem hit_of_zero_iff (io : ℕ → Dot) (start : Nes) (first : ℕ)
    (drawing : Drawing io start first 682) (visible : first ≤ 238)
    (kept : ∀ i < 682, (dotRun io start i).ppu.cpu.oam = start.ppu.cpu.oam) :
    let inRange := covers (start.ppu.cpu.oam 0) (dotRun io start 65).ppu.cpu.spriteSize first
    (∀ dot < 341, (dotRun io start (341 + dot)).ppu.sprite0Hit = false →
        (dotRun io start (341 + (dot + 1))).ppu.sprite0Hit = true →
          inRange ∧ (dotRun io start (341 + dot)).ppu.opaqueUnit 0 = true ∧
            (dotRun io start (341 + dot)).ppu.unitPixel 0 = zeroPixel io start dot ∧
            zeroPixel io start dot ≠ 0) ↔
      (dotRun io start 341).ppu.sprite0Hit = true ∨ inRange ∨
        ∀ dot ≤ 257, zeroFound io start 1 dot = true →
          (dotRun io start (341 + dot)).ppu.overlap = false := by
  intro inRange
  have pair : LinePair io start first := ⟨drawing, visible, kept⟩
  constructor
  · intro sound
    by_cases already : (dotRun io start 341).ppu.sprite0Hit = true
    · exact Or.inl already
    · refine Or.inr (Classical.or_iff_not_imp_right.mpr fun raised => ?_)
      obtain ⟨dot, early, found, overlaps⟩ : ∃ dot ≤ 257, zeroFound io start 1 dot = true ∧
          (dotRun io start (341 + dot)).ppu.overlap = true := by
        by_contra none
        apply raised
        intro dot early found
        by_contra overlaps
        exact none ⟨dot, early, found, Bool.eq_true_of_not_eq_false overlaps⟩
      have set := (pair.hit_iff (dot + 1) (by omega)).mpr
        (Or.inr ⟨dot, Nat.lt_succ_self dot, overlaps, found⟩)
      obtain ⟨time, after, below, clear, rises⟩ := trace_rises
        (fun nes : Nes => nes.ppu.sprite0Hit) 341 (341 + (dot + 1)) (by omega)
        (Bool.eq_false_of_not_eq_true already) set
      obtain ⟨risen, rfl⟩ := Nat.exists_eq_add_of_le after
      exact (sound risen (by omega) clear rises).1
  · intro condition dot inside clear rises
    have unset : ¬ (dotRun io start (341 + dot)).ppu.sprite0Hit = true :=
      Bool.eq_false_iff.mp clear
    have step := pair.hit_succ (341 + dot) (by omega)
    rw [clear, Bool.false_or] at step
    obtain ⟨overlaps, found⟩ := (pair.sets_iff dot inside).mp (step.symm.trans rises)
    have dots := Ppu.cycle_of_overlap _ overlaps
    have cycle : (dotRun io start (341 + dot)).ppu.engine.cycle.toNat = dot :=
      drawing.onDot 1 dot inside (by omega)
    have late := zeroFound_late 1 dot found
    have covered : inRange := by
      rcases condition with already | covered | none
      · exact absurd ((pair.hit_iff dot (by omega)).mpr (Or.inl already)) unset
      · exact covered
      · rw [none dot (by omega) found] at overlaps
        exact absurd overlaps Bool.false_ne_true
    have shown := Ppu.opaqueUnit_of_overlap _ overlaps
    obtain ⟨seen, pixel⟩ := pair.unit_zero covered dot (by omega) (by omega)
    exact ⟨covered, shown, pixel shown, seen.mp shown⟩

/-- A solid picture with entry 0 starting on line 10 and entry 1 on line 9. -/
def neighbours : Nes :=
  lineWith solidMemories 9
    (Function.update (Function.update (fun _ => spriteEntry 0 0 0 0) 1 (spriteEntry 9 0 0 100)) 0
      (spriteEntry 10 0 0 0))

/-- On line 10 entry 1 raises the hit: its place is slot 0, and evaluation has found entry 0. -/
theorem neighbours_hit :
    ¬ ∀ dot < 341, (dotRun quietDots neighbours (341 + dot)).ppu.sprite0Hit = false →
        (dotRun quietDots neighbours (341 + (dot + 1))).ppu.sprite0Hit = true →
          covers (neighbours.ppu.cpu.oam 0) (dotRun quietDots neighbours 65).ppu.cpu.spriteSize 9 ∧
            (dotRun quietDots neighbours (341 + dot)).ppu.opaqueUnit 0 = true ∧
            (dotRun quietDots neighbours (341 + dot)).ppu.unitPixel 0 =
              zeroPixel quietDots neighbours dot ∧
            zeroPixel quietDots neighbours dot ≠ 0 := by
  have solid : Solid quietDots neighbours 9 682 := solid_lineWith 9 (by decide) _
  have passes : inRange quietDots neighbours 0 1 = true := by
    rw [solid.inRange 1 (by decide) (by decide)]
    decide
  have inside : 0 < (found quietDots neighbours 0 192).length :=
    length_collected_pos (by decide) (by decide) passes
  obtain ⟨slot, top, bottom⟩ := solid.slot (by decide) 0 inside
  have only : ∀ k : BitVec 6, (neighbours.ppu.cpu.oam k 0).toNat ≤ 9 →
      9 < (neighbours.ppu.cpu.oam k 0).toNat + 8 → k = 1 := by
    decide
  rw [only _ top bottom] at slot
  have overlaps : (dotRun quietDots neighbours (341 + 102)).ppu.overlap = true := by
    apply solid.overlap 102 (by decide) (by decide) (by decide) ⟨rfl, rfl⟩ rfl
    · rw [slot]
      decide
    · rw [slot]
      decide
    · rw [slot]
      decide
  have set := solid.hit_of_overlap 102 (by decide) (by decide) (by decide) overlaps
  have clear := solid.pair.hit_blank fun _ _ => rfl
  intro sound
  obtain ⟨time, after, below, unset, rises⟩ := trace_rises
    (fun nes : Nes => nes.ppu.sprite0Hit) 341 (341 + 103) (by decide) clear set
  obtain ⟨dot, rfl⟩ := Nat.exists_eq_add_of_le after
  have covered := (sound dot (by omega) unset rises).1
  rw [solid.size 65 (by decide)] at covered
  exact absurd covered (by decide)

/-- A solid picture with entry 0 in the middle of line 0. -/
def centred : Nes :=
  lineWith solidMemories 0
    (Function.update (fun _ => spriteEntry 0 0 0 0) 0 (spriteEntry 0 0 0 100))

/-- On dot 65 of line 0 entry 0 covers the line. -/
theorem centred_covers : covers (centred.ppu.cpu.oam 0)
    (dotRun quietDots centred 65).ppu.cpu.spriteSize 0 := by
  have solid : Solid quietDots centred 0 682 := solid_lineWith 0 (by decide) _
  rw [solid.size 65 (by decide)]
  decide

/-- On dot 102 of line 1 entry 0 raises the hit. -/
theorem centred_hit_of_zero :
    (dotRun quietDots centred (341 + 102)).ppu.sprite0Hit = false ∧
      (dotRun quietDots centred (341 + 103)).ppu.sprite0Hit = true ∧
      (dotRun quietDots centred (341 + 102)).ppu.unitPixel 0 = zeroPixel quietDots centred 102 ∧
      zeroPixel quietDots centred 102 ≠ 0 := by
  have solid : Solid quietDots centred 0 682 := solid_lineWith 0 (by decide) _
  have covered := centred_covers
  have slot := solid.pair.secondary_zero covered
  have sound := (hit_of_zero_iff quietDots centred 0 solid.toDrawing (by decide)
    solid.pair.kept).mpr (Or.inr (Or.inl covered))
  have clear := solid.pair.unset_left covered (solid.pair.hit_blank fun _ _ => rfl) 102
    (by decide) (by decide)
  have overlaps : (dotRun quietDots centred (341 + 102)).ppu.overlap = true := by
    apply solid.overlap 102 (by decide) (by decide) (by decide) ⟨rfl, rfl⟩ rfl
    all_goals
      rw [slot]
      decide
  have set := solid.hit_of_overlap 102 (by decide) (by decide) (by decide) overlaps
  exact ⟨clear, set, (sound 102 (by decide) clear set).2.2⟩

/-! ## Completeness of the hit -/

/-- Over every visible line drawn after another with both layers and both edges enabled and
object memory unchanged, when entry 0 was in range one line earlier: each dot on which an
opaque pixel of entry 0 meets an opaque background pixel leaves the hit set, exactly when the
hit was set before, or evaluation has found entry 0 again before each of these dots. -/
theorem hit_at_overlaps_iff (io : ℕ → Dot) (start : Nes) (first : ℕ)
    (drawing : Drawing io start first 682) (visible : first ≤ 238)
    (kept : ∀ i < 682, (dotRun io start i).ppu.cpu.oam = start.ppu.cpu.oam)
    (layers : ∀ i < 682, (dotRun io start i).ppu.cpu.backgroundRenderEnable = true ∧
      (dotRun io start i).ppu.cpu.spriteRenderEnable = true)
    (edges : ∀ i < 682, (dotRun io start i).ppu.cpu.showEdgeBackground = true ∧
      (dotRun io start i).ppu.cpu.showEdgeSprites = true)
    (inRange : covers (start.ppu.cpu.oam 0) (dotRun io start 65).ppu.cpu.spriteSize first) :
    let meets (dot : ℕ) : Prop := zeroPixel io start dot ≠ 0 ∧
      Ppu.transparent (dotRun io start (341 + dot)).ppu.backgroundIdx = false
    (∀ dot, 2 ≤ dot → dot ≤ 256 → meets dot →
        (dotRun io start (341 + (dot + 1))).ppu.sprite0Hit = true) ↔
      (dotRun io start 341).ppu.sprite0Hit = true ∨
        ∀ dot, 2 ≤ dot → dot ≤ 256 → meets dot → zeroFound io start 1 dot = true := by
  intro meets
  have pair : LinePair io start first := ⟨drawing, visible, kept⟩
  have overlap_of_meets (dot : ℕ) (late : 2 ≤ dot) (early : dot ≤ 256) (here : meets dot) :
      (dotRun io start (341 + dot)).ppu.overlap = true := by
    have cycle : (dotRun io start (341 + dot)).ppu.engine.cycle.toNat = dot :=
      drawing.onDot 1 dot (by omega) (by omega)
    obtain ⟨background, sprites⟩ := layers (341 + dot) (by omega)
    obtain ⟨left, -⟩ := edges (341 + dot) (by omega)
    have window : (dotRun io start (341 + dot)).ppu.hitDot = true := by
      rw [Ppu.hitDot, left, Bool.or_true, Bool.not_true, if_neg Bool.false_ne_true, cycle,
        decide_eq_true (by omega), decide_eq_true (by omega), Bool.and_self]
    have shown := (pair.unit_zero inRange dot late (by omega)).1.mpr here.1
    rw [Ppu.overlap, here.2, shown, background, sprites, window]
    rfl
  constructor
  · intro complete
    by_cases already : (dotRun io start 341).ppu.sprite0Hit = true
    · exact Or.inl already
    · apply Or.inr
      intro dot late early here
      have set := (pair.hit_iff (dot + 1) (by omega)).mp (complete dot late early here)
      obtain ⟨before, below, -, found⟩ := set.resolve_left already
      exact zeroFound_mono 1 before dot (by omega) found
  · intro condition dot late early here
    apply (pair.hit_iff (dot + 1) (by omega)).mpr
    rcases condition with already | found
    · exact Or.inl already
    · exact Or.inr ⟨dot, Nat.lt_succ_self dot, overlap_of_meets dot late early here,
        found dot late early here⟩

/-- A solid picture with every entry in the top left corner. -/
def corner : Nes := lineWith solidMemories 0 fun _ => spriteEntry 0 0 0 0

/-- On line 1 the overlaps are at the left of the screen, where evaluation has not found
entry 0 yet, and the hit is missed. -/
theorem corner_not_hit :
    ¬ ∀ dot, 2 ≤ dot → dot ≤ 256 → zeroPixel quietDots corner dot ≠ 0 ∧
        Ppu.transparent (dotRun quietDots corner (341 + dot)).ppu.backgroundIdx = false →
      (dotRun quietDots corner (341 + (dot + 1))).ppu.sprite0Hit = true := by
  have solid : Solid quietDots corner 0 682 := solid_lineWith 0 (by decide) _
  have pixel := solid.zeroPixel 2 (by decide) (by decide) (by decide) (by decide) (by decide)
  intro complete
  have set := complete 2 (by decide) (by decide)
    ⟨pixel, solid.background 2 (by decide) (by decide) (by decide)⟩
  rcases (solid.pair.hit_iff 3 (by decide)).mp set with already | ⟨dot, below, -, zero⟩
  · have clear := solid.pair.hit_blank fun _ _ => rfl
    exact Bool.false_ne_true (clear.symm.trans already)
  · have late := zeroFound_late 1 dot zero
    omega

/-- In the middle of the line the hit is there after the first column of the sprite. -/
theorem centred_hit : (dotRun quietDots centred (341 + 103)).ppu.sprite0Hit = true := by
  have solid : Solid quietDots centred 0 682 := solid_lineWith 0 (by decide) _
  have layers (i : ℕ) (below : i < 682) :
      (dotRun quietDots centred i).ppu.cpu.backgroundRenderEnable = true ∧
        (dotRun quietDots centred i).ppu.cpu.spriteRenderEnable = true := by
    rw [solid.cpu i (Nat.le_of_lt below)]
    exact ⟨rfl, rfl⟩
  have edges (i : ℕ) (below : i < 682) :
      (dotRun quietDots centred i).ppu.cpu.showEdgeBackground = true ∧
        (dotRun quietDots centred i).ppu.cpu.showEdgeSprites = true := by
    rw [solid.cpu i (Nat.le_of_lt below)]
    exact ⟨rfl, rfl⟩
  have covered := centred_covers
  have complete := (hit_at_overlaps_iff quietDots centred 0 solid.toDrawing (by decide)
    solid.pair.kept layers edges covered).mpr
  have pixel := solid.zeroPixel 102 (by decide) (by decide) (by decide) (by decide) (by decide)
  refine complete (Or.inr fun dot late early meets => ?_) 102 (by decide) (by decide)
    ⟨pixel, solid.background 102 (by decide) (by decide) (by decide)⟩
  have right : 100 ≤ dot - 2 := by
    by_contra left
    have none : zeroPixel quietDots centred dot = 0 := if_neg left
    exact meets.1 none
  have steady (i : ℕ) (below : i < 682) := solid.size i (Nat.le_of_lt below)
  exact (solid.pair.zeroFound_iff false steady dot (by omega)).mpr ⟨by omega, by decide⟩

end

end Nes

end FpgaNes
