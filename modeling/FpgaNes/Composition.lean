import FpgaNes.Fetch
import FpgaNes.SpriteUnits

/-!
# Sprite and background composition

The composition loop picks the first unit on show with an opaque pixel, over the slots in
order. For 8x8 sprites that is the first of the eight entries in range on the line before
that has an opaque pixel under the beam, wherever evaluation has gone around object memory.
-/

namespace FpgaNes

open Hdl

namespace Ppu

variable (ppu : Ppu)

/-- A unit on show with a pixel that is not transparent. -/
def opaqueUnit (i : Fin 8) : Bool :=
  decide (ppu.units.spriteXPosition i = 0 ∧ ppu.unitPixel i ≠ 0)

/-- The choice of the composition loop: the last unit assigned is the first in order. -/
theorem foldl_composeUnit (slots : List (Fin 8)) :
    slots.reverse.foldl ppu.composeUnit ⟨0, false, false⟩ =
      match slots.find? ppu.opaqueUnit with
      | none => ⟨0, false, false⟩
      | some i =>
        { spriteIdx := 1#1 ++ (ppu.units.spriteAttributes i).extractLsb' 0 2 ++ ppu.unitPixel i
          spritePriority := (ppu.units.spriteAttributes i).getLsbD 5
          sprite0HitRendering := slots.any fun j => ppu.opaqueUnit j && j == 0 } := by
  induction slots with
  | nil => rfl
  | cons i slots ih =>
    rw [List.reverse_cons, List.foldl_append, ih, List.foldl_cons, List.foldl_nil,
      List.find?_cons, composeUnit]
    by_cases shows : ppu.units.spriteXPosition i = 0 ∧ ppu.unitPixel i ≠ 0
    · have chosen : ppu.opaqueUnit i = true := decide_eq_true shows
      rw [if_pos shows, chosen]
      dsimp only
      rw [List.any_cons, chosen, Bool.true_and]
      cases found : slots.find? ppu.opaqueUnit with
      | some j => rw [Bool.or_comm]
      | none =>
        have quiet : (slots.any fun j => ppu.opaqueUnit j && j == 0) = false := by
          rw [List.any_eq_false]
          intro j member both
          exact List.find?_eq_none.mp found j member (Bool.and_eq_true_iff.mp both).1
        rw [quiet, Bool.or_false, Bool.false_or]
    · have skipped : ppu.opaqueUnit i = false := decide_eq_false shows
      rw [if_neg shows, skipped]
      dsimp only
      rw [List.any_cons, skipped, Bool.false_and, Bool.false_or]

/-- The sprite pixel is that of the first opaque unit; the hit asks for unit 0. -/
theorem spritePixel_eq (enabled : ppu.cpu.spriteRenderEnable = true) :
    ppu.spritePixel =
      match (List.finRange 8).find? ppu.opaqueUnit with
      | none => ⟨0, false, false⟩
      | some i =>
        { spriteIdx := 1#1 ++ (ppu.units.spriteAttributes i).extractLsb' 0 2 ++ ppu.unitPixel i
          spritePriority := (ppu.units.spriteAttributes i).getLsbD 5
          sprite0HitRendering := ppu.opaqueUnit 0 } := by
  have order : ([7, 6, 5, 4, 3, 2, 1, 0] : List (Fin 8)) = (List.finRange 8).reverse := by decide
  have first : ((List.finRange 8).any fun j => ppu.opaqueUnit j && j == 0) = ppu.opaqueUnit 0 := by
    have slots : List.finRange 8 = 0 :: (List.finRange 8).tail := by decide
    rw [slots, List.any_cons, beq_self_eq_true, Bool.and_true]
    have others : ((List.finRange 8).tail.any fun j => ppu.opaqueUnit j && j == 0) = false := by
      rw [List.any_eq_false]
      intro j member both
      have zero : j = 0 := eq_of_beq (Bool.and_eq_true_iff.mp both).2
      subst zero
      revert member
      decide
    rw [others, Bool.or_false]
  rw [spritePixel, if_pos enabled, order, foldl_composeUnit, first]

/-- The palette index of an opaque unit has its pixel in the low bits. -/
theorem transparent_unit (palette : BitVec 2) (pixel : BitVec 2) :
    transparent (1#1 ++ palette ++ pixel) = (pixel == 0) := by
  revert palette pixel
  decide

/-- The palette index of a background pixel and the attributes and pixel of the sprite chosen
over it, if there is one. -/
def composed (background : BitVec 5) : Option (Byte × BitVec 2) → BitVec 5
  | none => if transparent background then 0 else background
  | some (attributes, pixel) =>
    if transparent background || !attributes.getLsbD 5 then
      1#1 ++ attributes.extractLsb' 0 2 ++ pixel
    else background

/-- A sprite in front hides the background. -/
theorem composed_front (background : BitVec 5) (attributes : Byte) (pixel : BitVec 2)
    (front : attributes.getLsbD 5 = false) :
    composed background (some (attributes, pixel)) =
      1#1 ++ attributes.extractLsb' 0 2 ++ pixel := by
  rw [composed, front, Bool.not_false, Bool.or_true, if_pos rfl]

/-- The palette index is composed of the background pixel and the first opaque unit. -/
theorem paletteIdx_eq (enabled : ppu.cpu.spriteRenderEnable = true) :
    ppu.paletteIdx = composed ppu.backgroundIdx
      (((List.finRange 8).find? ppu.opaqueUnit).map fun i =>
        (ppu.units.spriteAttributes i, ppu.unitPixel i)) := by
  have pixel := ppu.spritePixel_eq enabled
  have nothing : transparent 0 = true := rfl
  cases found : (List.finRange 8).find? ppu.opaqueUnit with
  | none =>
    rw [found] at pixel
    rw [paletteIdx, pixel, nothing, Option.map_none, composed]
    cases transparent ppu.backgroundIdx <;> rfl
  | some i =>
    have shows : ppu.opaqueUnit i = true := List.find?_some found
    have visible : transparent (1#1 ++ (ppu.units.spriteAttributes i).extractLsb' 0 2 ++
        ppu.unitPixel i) = false := by
      rw [transparent_unit, beq_eq_false_iff_ne]
      exact (of_decide_eq_true shows).2
    rw [found] at pixel
    -- over an opaque sprite pixel the four branches come down to two
    have choice (under behind : Bool) (background sprite : BitVec 5) :
        (if (under && false) = true then 0
          else if under = true then sprite
          else if false = true then background
          else if behind = true then background
          else sprite) = if (under || !behind) = true then sprite else background := by
      cases under <;> cases behind <;> rfl
    rw [paletteIdx, pixel, visible, Option.map_some, composed]
    exact choice _ _ _ _

/-- The row of the sprite being fetched, for a line inside the sprite. -/
theorem spriteFineY_toNat (row : ℕ) (line : ppu.scanline.toNat = ppu.fetchedYPosition.toNat + row)
    (inside : row < 8) :
    (ppu.spriteFineY.setWidth 3).toNat =
      if (ppu.fetchedSprite 2).getLsbD 7 then 7 - row else row := by
  have bound := ppu.fetchedYPosition.isLt
  have diff : (ppu.scanline.setWidth 8 - ppu.fetchedYPosition).toNat = row := by
    rw [BitVec.toNat_sub, BitVec.toNat_setWidth, line]
    omega
  rw [spriteFineY]
  cases (ppu.fetchedSprite 2).getLsbD 7 with
  | true =>
    have seven : (7 : Byte).toNat = 7 := rfl
    rw [if_pos rfl, if_pos rfl, BitVec.toNat_setWidth, BitVec.toNat_sub, diff, seven]
    omega
  | false =>
    rw [if_neg Bool.false_ne_true, if_neg Bool.false_ne_true, BitVec.toNat_setWidth, diff]
    omega

/-- The PPU address on a dot of the sprite fetches. -/
theorem ppuAddr_sprite (enabled : ppu.renderEnable = true) (drawn : ppu.renderLine = true)
    (fetches : ppu.spriteFetchDot = true) :
    ppu.ppuAddr =
      ptableFetchAddr ppu.cpu.spritePtableAddr (ppu.fetchedSprite 1) (4 ≤ ppu.counter.toNat)
        (ppu.spriteFineY.setWidth 3) := by
  rw [ppuAddr, enabled, drawn, fetches]
  rfl

/-- A flipped byte read from the left is the byte read from the right. -/
theorem getMsbD_flipped (horizontally : Bool) (byte : Byte) (column : ℕ) (inside : column < 8) :
    (flipped horizontally byte).getMsbD column =
      byte.getMsbD (if horizontally then 7 - column else column) := by
  cases horizontally with
  | false => rfl
  | true =>
    have last : 8 - 1 - (7 - column) = column := by omega
    rw [flipped, if_pos rfl, if_pos rfl, BitVec.getMsbD_reverse, BitVec.getMsbD_eq_getLsbD, last,
      decide_eq_true (by omega), Bool.true_and]

end Ppu

/-- The pixel of an 8x8 sprite in a row and a column of the screen, counted from its corner. -/
def PpuMemory.spritePixel (m : PpuMemory) (header : Header) (half : Bool) (entry : OamEntry)
    (row column : ℕ) : BitVec 2 :=
  BitVec.ofBool ((byte 1).getMsbD across) ++ BitVec.ofBool ((byte 0).getMsbD across)
where
  /-- The row of the pattern, under the vertical flip. -/
  down : ℕ := if (entry 2).getLsbD 7 then 7 - row else row
  /-- The column of the pattern, under the horizontal flip. -/
  across : ℕ := if (entry 2).getLsbD 6 then 7 - column else column
  /-- The byte of a plane. -/
  byte (plane : ℕ) : Byte :=
    m.read header (0x1000 * half.toNat + 16 * (entry 1).toNat + 8 * plane + down)

namespace Nes

/-- The first eight entries of object memory in range on a line, for 8x8 sprites. -/
def spritesOn (oam : BitVec 6 → OamEntry) (line : ℕ) : List ℕ :=
  ((List.range 64).filter fun k =>
    decide ((oam (BitVec.ofNat 6 k) 0).toNat ≤ line ∧
      line < (oam (BitVec.ofNat 6 k) 0).toNat + 8)).take 8

section

variable {io : ℕ → Dot} {start : Nes} {header : Header} {first n : ℕ}

/-- A run that scans rendered lines draws them. -/
theorem Scanning.rendered (scanning : Scanning io start header first n) :
    Rendered io start first n :=
  ⟨scanning.toDrawing, scanning.drawn⟩

/-- What the fetch address of a pattern byte is made of. -/
theorem Rendered.fetched (rendered : Rendered io start first n) (line : ℕ) (slot : Fin 8)
    (plane : Fin 2) (le : patternTime line slot plane < n) :
    let ppu := (dotRun io start (patternTime line slot plane)).ppu
    ppu.spriteFetchDot = true ∧ ppu.fetchedSprite = secondary io start line slot ∧
      ppu.fetchedYPosition = secondary io start line slot 0 ∧
      ppu.counter.toNat = 2 + 4 * plane.val := by
  intro ppu
  have bound := slot.isLt
  have few := plane.isLt
  rw [patternTime] at le
  have dot : ppu.engine.cycle.toNat = 259 + 8 * slot.val + 4 * plane.val :=
    rendered.toDrawing.onDot line _ (by omega) (by omega)
  have count := ppu.counter_toNat
  obtain ⟨sprites, index⟩ := rendered.fetching line (259 + 8 * slot.val + 4 * plane.val)
    (by omega) (by omega) (by omega)
  have row := rendered.yPosition_loaded line slot (259 + 8 * slot.val + 4 * plane.val)
    (by omega) (by omega) (by omega)
  have index' : ppu.eval.spriteFetchIdx.toNat = slot.val := by
    apply index.trans
    omega
  have here (inside : ppu.eval.spriteFetchIdx.toNat < 8) :
      (⟨ppu.eval.spriteFetchIdx.toNat, inside⟩ : Fin 8) = slot := Fin.ext index'
  refine ⟨?_, ?_, ?_, by omega⟩
  · rw [Ppu.spriteFetchDot, dot, decide_eq_true (by omega), decide_eq_true (by omega)]
    rfl
  · rw [Ppu.fetchedSprite, dif_pos (by omega), here]
    exact congrFun sprites slot
  · rw [Ppu.fetchedYPosition, dif_pos (by omega), here]
    exact row

/-- The address bit that selects a plane. -/
theorem plane_toNat (plane : Fin 2) : (decide (plane.val = 1)).toNat = plane.val := by
  revert plane
  decide

/-- The pattern byte of a slot is that of its sprite, in the row under the beam. -/
theorem Scanning.patternByte (scanning : Scanning io start header first n) (slot : Fin 8)
    (plane : Fin 2) (row : ℕ) (le : patternTime 0 slot plane < n)
    (half : (dotRun io start (patternTime 0 slot plane)).ppu.cpu.spritePtableAddr =
      start.ppu.cpu.spritePtableAddr)
    (covers : first % 262 = (secondary io start 0 slot 0).toNat + row) (inside : row < 8) :
    patternByte io start 0 slot plane =
      PpuMemory.spritePixel.byte (dotRun io start 2).mem.contents header
        start.ppu.cpu.spritePtableAddr (secondary io start 0 slot) row plane.val := by
  have bound := slot.isLt
  have few := plane.isLt
  obtain ⟨time, later⟩ : ∃ time, patternTime 0 slot plane = time + 1 :=
    ⟨258 + 8 * slot.val + 4 * plane.val, by unfold patternTime; omega⟩
  have before : time = 341 * 0 + (258 + 8 * slot.val + 4 * plane.val) := by
    unfold patternTime at later
    omega
  have dot := scanning.toDrawing.onDot 0 (258 + 8 * slot.val + 4 * plane.val) (by omega)
    (by omega)
  rw [← before] at dot
  have request : (dotRun io start time).ppu.ppuReadRequest = true := by
    have fetches : (dotRun io start time).ppu.spriteFetchDot = true := by
      rw [Ppu.spriteFetchDot, dot, decide_eq_true (by omega), decide_eq_true (by omega)]
      rfl
    rw [Ppu.ppuReadRequest, scanning.enabled time (by omega), scanning.drawn time (by omega),
      fetches, Bool.or_true]
    rfl
  have data := scanning.data time (by omega) (by omega) request
  have line := scanning.toDrawing.scanline (patternTime 0 slot plane) (Nat.le_of_lt le)
  have contents := scanning.contents 2 (patternTime 0 slot plane) (by decide) (by omega)
    (Nat.le_of_lt le)
  obtain ⟨fetches, sprite, y, count⟩ := scanning.rendered.fetched 0 slot plane le
  have drawn := scanning.drawn (patternTime 0 slot plane) le
  have enabled := scanning.enabled (patternTime 0 slot plane) le
  have frame : (first + patternTime 0 slot plane / 341) % 262 = first % 262 := by
    have same : patternTime 0 slot plane / 341 = 0 := by omega
    rw [same, Nat.add_zero]
  have high : decide (4 ≤ 2 + 4 * plane.val) = decide (plane.val = 1) := by
    rw [decide_eq_decide]
    omega
  rw [Nes.patternByte, later, data, ← later, contents, Ppu.ppuAddr_sprite _ enabled drawn fetches,
    Ppu.ptableFetchAddr_toNat, half, sprite, count, high, plane_toNat,
    Ppu.spriteFineY_toNat _ row (by rw [line, y, frame, covers]) inside, sprite]
  rfl

/-- The pixels of a slot are those of its sprite. -/
theorem Scanning.slotPixel (scanning : Scanning io start header first n) (slot : Fin 8)
    (row column : ℕ) (le : 321 ≤ n)
    (half : ∀ i < n, (dotRun io start i).ppu.cpu.spritePtableAddr =
      start.ppu.cpu.spritePtableAddr)
    (covers : first % 262 = (secondary io start 0 slot 0).toNat + row) (inside : row < 8)
    (across : column < 8) :
    slotPixel io start 0 slot column =
      (dotRun io start 2).mem.contents.spritePixel header start.ppu.cpu.spritePtableAddr
        (secondary io start 0 slot) row column := by
  have bound := slot.isLt
  have time (plane : Fin 2) : patternTime 0 slot plane < n := by
    have few := plane.isLt
    unfold patternTime
    omega
  have byte (plane : Fin 2) := scanning.patternByte slot plane row (time plane)
    (half _ (time plane)) covers inside
  rw [Nes.slotPixel, slotPattern, slotPattern, Ppu.getMsbD_flipped _ _ column across,
    Ppu.getMsbD_flipped _ _ column across, byte 0, byte 1]
  rfl

/-- A slot shows nothing past its eight columns. -/
theorem slotPixel_past (slot : Fin 8) (line column : ℕ) (past : 8 ≤ column) :
    slotPixel io start line slot column = 0 := by
  rw [Nes.slotPixel, BitVec.getMsbD_of_ge _ _ past, BitVec.getMsbD_of_ge _ _ past]
  rfl

/-- A run that keeps away from the PPU leaves the scroll registers alone. -/
theorem Untouched.leaves (untouched : Untouched io start n) (i : ℕ) (below : i < n) :
    (io i).bus.leavesScroll = true := by
  rw [CpuBus.leavesScroll]
  simp only [CpuBus.accesses, untouched.outside i below, Bool.false_and, Bool.or_self,
    Bool.not_false]

/-- The sprite of an entry has an opaque pixel on a dot of the line after the one given. -/
def shows (m : PpuMemory) (header : Header) (half : Bool) (oam : BitVec 6 → OamEntry)
    (line dot k : ℕ) : Bool :=
  let entry := oam (BitVec.ofNat 6 k)
  decide ((entry 3).toNat ≤ dot - 2 ∧ dot - 2 < (entry 3).toNat + 8) &&
    m.spritePixel header half entry (line - (entry 0).toNat) (dot - 2 - (entry 3).toNat) != 0

/-- A run of 8x8 sprites over two visible lines that nothing touches. -/
structure Sprites (io : ℕ → Dot) (start : Nes) (header : Header) (first n : ℕ) : Prop
    extends Scanning io start header first n where
  /-- The processor leaves the PPU alone. -/
  untouched : Untouched io start n
  /-- The second line is visible too. -/
  visible : first ≤ 238
  /-- Sprites are of one tile. -/
  eight : start.ppu.cpu.spriteSize = false

/-- Such a run keeps the CPU interface. -/
theorem Sprites.cpu (sprites : Sprites io start header first n) (time : ℕ) (le : time ≤ n) :
    (dotRun io start time).ppu.cpu = start.ppu.cpu :=
  sprites.untouched.cpu sprites.running time le

/-- Its sprites stay 8x8. -/
theorem Sprites.size (sprites : Sprites io start header first n) (time : ℕ) (le : time ≤ n) :
    (dotRun io start time).ppu.cpu.spriteSize = false := by
  rw [sprites.cpu time le]
  exact sprites.eight

/-- Its sprites stay in one half of the pattern tables. -/
theorem Sprites.half (sprites : Sprites io start header first n) (time : ℕ) (below : time < n) :
    (dotRun io start time).ppu.cpu.spritePtableAddr = start.ppu.cpu.spritePtableAddr := by
  rw [sprites.cpu time (Nat.le_of_lt below)]

/-- Evaluation examines the entries of object memory in turn, around it three times. -/
theorem Sprites.examined (sprites : Sprites io start header first n) (position : ℕ)
    (le : examineTime 0 position ≤ n) :
    examined io start 0 position = start.ppu.cpu.oam (BitVec.ofNat 6 position) := by
  rw [Nes.examined, sprites.cpu _ le]

/-- The evaluation of the first line tests for the rows of 8x8 sprites. -/
theorem Sprites.inRange (sprites : Sprites io start header first n) (position : ℕ)
    (few : position < 192) (le : examineTime 0 position ≤ n) :
    inRange io start 0 position =
      decide ((start.ppu.cpu.oam (BitVec.ofNat 6 position) 0).toNat ≤ first ∧
        first < (start.ppu.cpu.oam (BitVec.ofNat 6 position) 0).toNat + 8) := by
  have visible := sprites.visible
  rw [sprites.toDrawing.inRange 0 position few le (by omega), sprites.examined position le,
    sprites.cpu _ le, sprites.eight]
  rfl

/-- A search of what evaluation has found is a search of the first eight entries in range. -/
theorem Sprites.find?_found (sprites : Sprites io start header first n) (le : 257 ≤ n)
    {search : ℕ → Bool} (searches : Function.Periodic search 64) :
    (found io start 0 192).find? search =
      (spritesOn start.ppu.cpu.oam first).find? search := by
  let test (k : ℕ) : Bool := decide ((start.ppu.cpu.oam (BitVec.ofNat 6 k) 0).toNat ≤ first ∧
    first < (start.ppu.cpu.oam (BitVec.ofNat 6 k) 0).toNat + 8)
  have tests : Function.Periodic test 64 := by
    intro k
    show decide _ = decide _
    rw [ofNat_around]
  have same : found io start 0 192 = collected 8 test 192 := by
    apply collected_congr
    intro k few
    exact sprites.inRange k few (by unfold examineTime; omega)
  rw [same]
  exact find?_collected_around 128 (by decide) tests searches

/-- A slot that evaluation has filled holds an entry in range on the line. -/
theorem Sprites.slot (sprites : Sprites io start header first n) (le : 257 ≤ n) (slot : Fin 8)
    (inside : slot.val < (found io start 0 192).length) :
    let entry := start.ppu.cpu.oam (BitVec.ofNat 6 (found io start 0 192)[slot.val])
    secondary io start 0 slot = entry ∧ (entry 0).toNat ≤ first ∧
      first < (entry 0).toNat + 8 := by
  have filled := sprites.rendered.filled 0 192 (by decide) (by unfold examineTime; omega)
  obtain ⟨visited, passes⟩ := mem_collected (List.getElem_mem inside)
  have time : examineTime 0 (found io start 0 192)[slot.val] ≤ n := by
    unfold examineTime
    omega
  have passes' := (sprites.inRange _ visited time).symm.trans passes
  exact ⟨(filled.filled slot inside).trans (sprites.examined _ time), of_decide_eq_true passes'⟩

/-- The pixel of a filled slot is that of its entry, under the beam. -/
theorem Sprites.unitPixel (sprites : Sprites io start header first n) (dot : ℕ)
    (late : 2 ≤ dot) (early : dot ≤ 256) (le : 341 + dot ≤ n) (slot : Fin 8)
    (inside : slot.val < (found io start 0 192).length)
    (active : (secondary io start 0 slot 3).toNat ≤ dot - 2)
    (near : dot - 2 < (secondary io start 0 slot 3).toNat + 8) :
    let entry := secondary io start 0 slot
    (dotRun io start (341 + dot)).ppu.unitPixel slot =
      (dotRun io start 2).mem.contents.spritePixel header start.ppu.cpu.spritePtableAddr entry
        (first - (entry 0).toNat) (dot - 2 - (entry 3).toNat) := by
  have visible := sprites.visible
  obtain ⟨held, top, bottom⟩ := sprites.slot (by omega) slot inside
  have pixel := (sprites.rendered.unitPixel 0 dot late (by omega) le slot).2 active
  rw [← held] at top bottom
  exact pixel.trans
    (sprites.slotPixel slot _ _ (by omega) sprites.half (by omega) (by omega) (by omega))

/-- A filled slot shows an opaque pixel where its entry does. -/
theorem Sprites.opaqueUnit_filled (sprites : Sprites io start header first n) (dot : ℕ)
    (late : 2 ≤ dot) (early : dot ≤ 256) (le : 341 + dot ≤ n) (slot : Fin 8)
    (inside : slot.val < (found io start 0 192).length) :
    (dotRun io start (341 + dot)).ppu.opaqueUnit slot =
      shows (dotRun io start 2).mem.contents header start.ppu.cpu.spritePtableAddr
        start.ppu.cpu.oam first dot (found io start 0 192)[slot.val] := by
  obtain ⟨held, -⟩ := sprites.slot (by omega) slot inside
  obtain ⟨counted, pixel⟩ := sprites.rendered.unitPixel 0 dot late (by omega) le slot
  have shown := sprites.unitPixel dot late early le slot inside
  rw [Ppu.opaqueUnit, shows, ← held, Bool.eq_iff_iff, decide_eq_true_eq, Bool.and_eq_true,
    decide_eq_true_eq, bne_iff_ne]
  by_cases active : (secondary io start 0 slot 3).toNat ≤ dot - 2
  · by_cases near : dot - 2 < (secondary io start 0 slot 3).toNat + 8
    · rw [← shown active near]
      exact ⟨fun both => ⟨⟨active, near⟩, both.2⟩, fun both => ⟨counted.mpr active, both.2⟩⟩
    · have past : (dotRun io start (341 + dot)).ppu.unitPixel slot = 0 :=
        (pixel active).trans (slotPixel_past slot 0 _ (by omega))
      exact ⟨fun both => absurd past both.2, fun both => absurd both.1.2 near⟩
  · exact ⟨fun both => absurd (counted.mp both.1) active, fun both => absurd both.1.1 active⟩

/-- A slot that evaluation has not filled shows nothing up to dot 256. -/
theorem Sprites.opaqueUnit_blank (sprites : Sprites io start header first n) (dot : ℕ)
    (late : 2 ≤ dot) (early : dot ≤ 256) (le : 341 + dot ≤ n) (slot : Fin 8)
    (past : (found io start 0 192).length ≤ slot.val) :
    (dotRun io start (341 + dot)).ppu.opaqueUnit slot = false := by
  have filled := sprites.rendered.filled 0 192 (by decide) (by unfold examineTime; omega)
  have counted := (sprites.rendered.unitPixel 0 dot late (by omega) le slot).1
  have blank : secondary io start 0 slot 3 = 0xFF := filled.blank slot past 3 (by decide)
  rw [blank] at counted
  rw [Ppu.opaqueUnit, decide_eq_false_iff_not]
  rintro ⟨zero, -⟩
  have short : (0xFF : Byte).toNat ≤ dot - 2 := counted.mp zero
  have wide : (0xFF : Byte).toNat = 255 := rfl
  omega

/-- On every dot of a visible line the palette index is composed of the background pixel and
of the first of the eight entries in range on the line before that has an opaque pixel there,
when both lines are drawn with 8x8 sprites and no access of the PPU. The memories are as a
write before the lines has left them on the second dot. -/
theorem sprite_composed (io : ℕ → Dot) (start : Nes) (header : Header) (first n dot : ℕ)
    (drawing : Drawing io start first n) (visible : first ≤ 238) (two : n ≤ 682)
    (untouched : Untouched io start n) (game : ∀ i < n, (io i).pins.header = header)
    (enabled : start.ppu.cpu.spriteRenderEnable = true)
    (eight : start.ppu.cpu.spriteSize = false) (late : 2 ≤ dot) (early : dot ≤ 256)
    (inside : 341 + dot ≤ n) :
    let nes := dotRun io start (341 + dot)
    let oam := start.ppu.cpu.oam
    let half := start.ppu.cpu.spritePtableAddr
    let chr := (dotRun io start 2).mem.contents
    let chosen := (spritesOn oam first).find? (shows chr header half oam first dot)
    nes.ppu.paletteIdx = Ppu.composed nes.ppu.backgroundIdx (chosen.map fun k =>
      let entry := oam (BitVec.ofNat 6 k)
      (entry 2, chr.spritePixel header half entry (first - (entry 0).toNat)
        (dot - 2 - (entry 3).toNat))) := by
  intro nes oam half chr chosen
  have sprites : Sprites io start header first n :=
    ⟨⟨drawing, game, untouched.leaves, drawing.renderLine_of_pair (Or.inr visible) two⟩,
      untouched, visible, eight⟩
  have cpu := sprites.cpu (341 + dot) inside
  have fits : (found io start 0 192).length ≤ 8 := length_collected_le _ _ _
  have searches : Function.Periodic (shows chr header half oam first dot) 64 := by
    intro k
    rw [shows, shows, ofNat_around]
  have search := find?_slots (found io start 0 192) 8 fits
    (shows chr header half oam first dot) nes.ppu.opaqueUnit
    (fun slot filled => sprites.opaqueUnit_filled dot late early inside slot filled)
    (fun slot past => sprites.opaqueUnit_blank dot late early inside slot past)
  rw [sprites.find?_found (by omega) searches] at search
  have enabled' : nes.ppu.cpu.spriteRenderEnable = true := by rw [cpu, enabled]
  rw [Ppu.paletteIdx_eq nes.ppu enabled']
  congr 1
  cases shown : (List.finRange 8).find? nes.ppu.opaqueUnit with
  | none =>
    have nothing : chosen = none := by
      rw [shown] at search
      exact search.symm
    rw [nothing]
    rfl
  | some slot =>
    have seen : nes.ppu.opaqueUnit slot = true := List.find?_some shown
    have filled : slot.val < (found io start 0 192).length := by
      by_contra past
      have blank := sprites.opaqueUnit_blank dot late early inside slot (by omega)
      exact Bool.false_ne_true (blank.symm.trans seen)
    have first' : chosen = some (found io start 0 192)[slot.val] := by
      rw [shown] at search
      exact search.symm.trans (List.getElem?_eq_getElem filled)
    have covers := (sprites.opaqueUnit_filled dot late early inside slot filled).symm.trans
      seen
    rw [shows, Bool.and_eq_true, decide_eq_true_eq] at covers
    obtain ⟨held, -⟩ := sprites.slot (by omega) slot filled
    rw [← held] at covers
    have pixel := sprites.unitPixel dot late early inside slot filled covers.1.1 covers.1.2
    have attributes := (sprites.rendered.units_shown 0 dot late (by omega) inside slot).1
    have entry : oam (BitVec.ofNat 6 (found io start 0 192)[slot.val]) =
        secondary io start 0 slot := held.symm
    rw [first', Option.map_some, Option.map_some]
    dsimp only
    rw [entry]
    exact congrArg some (Prod.ext attributes pixel)

/-- Line 8 with one sprite, entry 5, flipped and with one pixel set in its fifth row. -/
def flippedSprite : Nes :=
  lineWith
    { Memories.blank with chrRom := ⟨fun cell => if cell = 0x14 then 0x01 else 0, 0⟩ } 8
    (Function.update (fun _ => spriteEntry 0 0 0 0) 5 (spriteEntry 4 1 0x41 10))

/-- The pixel comes out in the first column of the sprite, with its palette. -/
theorem flippedSprite_composed :
    (dotRun quietDots flippedSprite (341 + 12)).ppu.paletteIdx = 0b10101 := by
  have composed := sprite_composed quietDots flippedSprite ⟨false, true⟩ 8 353 12
    (drawing_of_quiet _ _ _ rfl rfl rfl) (by decide) (by decide)
    (untouched_of_quiet _ _ rfl) (fun _ _ => rfl) rfl rfl (by decide) (by decide) (by decide)
  have chosen : (spritesOn flippedSprite.ppu.cpu.oam 8).find?
      (shows (dotRun quietDots flippedSprite 2).mem.contents ⟨false, true⟩
        flippedSprite.ppu.cpu.spritePtableAddr flippedSprite.ppu.cpu.oam 8 12) = some 5 := by
    decide +kernel
  dsimp only at composed
  rw [chosen, Option.map_some] at composed
  rw [composed, Ppu.composed_front _ _ _ (by decide +kernel)]
  decide +kernel

end

end Nes

end FpgaNes
