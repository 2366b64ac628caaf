import FpgaNes.Ppu.State

/-!
# Combinational signals of the PPU

The `assign` statements and `always_comb` blocks of `PPU.sv`. Every signal is a
function of the registers and, where the source reads one, of an input pin. A
comparison of the source between a register and a number is made on the register's
unsigned value.
-/

namespace FpgaNes.Ppu

/-- `render_enable`. -/
def renderEnable (ppu : Ppu) : Bool :=
  ppu.cpu.backgroundRenderEnable || ppu.cpu.spriteRenderEnable

/-- `extra_cycle`. -/
def extraCycle (ppu : Ppu) : Bool := ppu.engine.extraCycleLatch && ppu.renderEnable

/-- `scanline`, the buffered `scanline_intermediate`. -/
def scanline (ppu : Ppu) : BitVec 10 := ppu.engine.scanline

/-- `counter`, the dot inside a fetch group of eight. -/
def counter (ppu : Ppu) : BitVec 3 := (ppu.engine.cycle - 1).setWidth 3

/-- Lines on which the rendering blocks are active: 0 to 239 and the pre-render line. -/
def renderLine (ppu : Ppu) : Bool :=
  ppu.scanline.toNat ≤ 239 || ppu.scanline.toNat == 261

/-- Dots of the background fetches: 1 to 256 and 321 to 337. -/
def fetchDot (ppu : Ppu) : Bool :=
  (1 ≤ ppu.engine.cycle.toNat && ppu.engine.cycle.toNat ≤ 256) ||
    (321 ≤ ppu.engine.cycle.toNat && ppu.engine.cycle.toNat < 338)

/-- Dots of the sprite fetches: 257 to 320. -/
def spriteFetchDot (ppu : Ppu) : Bool :=
  257 ≤ ppu.engine.cycle.toNat && ppu.engine.cycle.toNat ≤ 320

/-! ## Vertical blank requests -/

/-- `ppu_nmi_set_request`. -/
def ppuNmiSetRequest (ppu : Ppu) : Bool :=
  ppu.scanline.toNat == 241 && ppu.engine.cycle.toNat == 1

/-- `ppu_nmi_clear_request`. -/
def ppuNmiClearRequest (ppu : Ppu) : Bool :=
  ppu.scanline.toNat == 261 && ppu.engine.cycle.toNat == 1

/-! ## Pixel composition -/

/-- The sprite selected by the six bits of `sprite_fetch_idx`; an index past the
eight entries reads as zero. -/
def fetchedSprite (ppu : Ppu) : OamEntry :=
  if inside : ppu.eval.spriteFetchIdx.toNat < 8 then
    ppu.eval.sprites ⟨ppu.eval.spriteFetchIdx.toNat, inside⟩
  else fun _ => 0

/-- `sprite_y_position[sprite_fetch_idx]`, zero past the eight units. -/
def fetchedYPosition (ppu : Ppu) : Byte :=
  if inside : ppu.eval.spriteFetchIdx.toNat < 8 then
    ppu.units.spriteYPosition ⟨ppu.eval.spriteFetchIdx.toNat, inside⟩
  else 0

/-- `sprite_fine_y`, the row of the sprite being fetched. -/
def spriteFineY (ppu : Ppu) : Byte :=
  if (ppu.fetchedSprite 2).getLsbD 7 then
    7 - (ppu.scanline.setWidth 8 - ppu.fetchedYPosition)
  else ppu.scanline.setWidth 8 - ppu.fetchedYPosition

/-- The two leftmost pattern bits of a sprite unit, high plane first. -/
def unitPixel (ppu : Ppu) (i : Fin 8) : BitVec 2 :=
  BitVec.ofBool ((ppu.units.spriteShifters i 1).getLsbD 7) ++
    BitVec.ofBool ((ppu.units.spriteShifters i 0).getLsbD 7)

/-- The variables the composition loop assigns. -/
structure SpritePixel where
  /-- `sprite_idx`. -/
  spriteIdx : BitVec 5
  /-- `sprite_priority`. -/
  spritePriority : Bool
  /-- `sprite0_hit_rendering`. -/
  sprite0HitRendering : Bool
  deriving DecidableEq

/-- One pass of the composition loop: a unit whose counter is zero and whose pixel is
not transparent replaces the pixel chosen so far. -/
def composeUnit (ppu : Ppu) (pixel : SpritePixel) (i : Fin 8) : SpritePixel :=
  if ppu.units.spriteXPosition i = 0 ∧ ppu.unitPixel i ≠ 0 then
    { spriteIdx := 1#1 ++ (ppu.units.spriteAttributes i).extractLsb' 0 2 ++ ppu.unitPixel i
      spritePriority := (ppu.units.spriteAttributes i).getLsbD 5
      sprite0HitRendering := pixel.sprite0HitRendering || i == 0 }
  else pixel

/-- The loop `for (int i = 7; i >= 0; i--)` over the sprite units. -/
def spritePixel (ppu : Ppu) : SpritePixel :=
  if ppu.cpu.spriteRenderEnable then
    [7, 6, 5, 4, 3, 2, 1, 0].foldl ppu.composeUnit ⟨0, false, false⟩
  else ⟨0, false, false⟩

/-- `background_idx`. -/
def backgroundIdx (ppu : Ppu) : BitVec 5 :=
  0#1 ++ BitVec.ofBool ((ppu.bg.paletteData 1).getLsbD (15 - ppu.cpu.fineX.toNat)) ++
    BitVec.ofBool ((ppu.bg.paletteData 0).getLsbD (15 - ppu.cpu.fineX.toNat)) ++
    BitVec.ofBool ((ppu.bg.ptableData 1).getLsbD (15 - ppu.cpu.fineX.toNat)) ++
    BitVec.ofBool ((ppu.bg.ptableData 0).getLsbD (15 - ppu.cpu.fineX.toNat))

/-- Low two bits of a palette index: zero is transparent. -/
def transparent (idx : BitVec 5) : Bool := idx.extractLsb' 0 2 == 0

/-- `palette_idx`. -/
def paletteIdx (ppu : Ppu) : BitVec 5 :=
  if transparent ppu.backgroundIdx && transparent ppu.spritePixel.spriteIdx then 0
  else if transparent ppu.backgroundIdx then ppu.spritePixel.spriteIdx
  else if transparent ppu.spritePixel.spriteIdx then ppu.backgroundIdx
  else if ppu.spritePixel.spritePriority then ppu.backgroundIdx
  else ppu.spritePixel.spriteIdx

/-- The dots at which the composition may raise the sprite 0 hit. -/
def hitDot (ppu : Ppu) : Bool :=
  if !(ppu.cpu.showEdgeSprites || ppu.cpu.showEdgeBackground) then
    9 ≤ ppu.engine.cycle.toNat && ppu.engine.cycle.toNat < 258
  else 1 ≤ ppu.engine.cycle.toNat && ppu.engine.cycle.toNat < 258

/-- `set_sprite0_hit`. -/
def setSprite0Hit (ppu : Ppu) : Bool :=
  !transparent ppu.backgroundIdx && !transparent ppu.spritePixel.spriteIdx &&
    (ppu.spritePixel.sprite0HitRendering && ppu.eval.sprite0HitPossible) &&
    (ppu.cpu.backgroundRenderEnable && ppu.cpu.spriteRenderEnable) && ppu.hitDot

/-! ## Fetch addresses and requests -/

/-- Address of the nametable byte under the VRAM address. -/
def ntableFetchAddr (v : LoopyReg) : BitVec 14 := 0b10#2 ++ v.bits.extractLsb' 0 12

/-- Address of the attribute byte under the VRAM address. -/
def atableFetchAddr (v : LoopyReg) : BitVec 14 :=
  0b10#2 ++ v.bits.extractLsb' 10 2 ++ 0b1111#4 ++ v.bits.extractLsb' 7 3 ++
    v.bits.extractLsb' 2 3

/-- Address of one pattern byte: table half, tile, bit plane, row. -/
def ptableFetchAddr (half : Bool) (tile : Byte) (plane : Bool) (row : BitVec 3) : BitVec 14 :=
  0#1 ++ BitVec.ofBool half ++ tile ++ BitVec.ofBool plane ++ row

/-- `PPU_ADDR`. -/
def ppuAddr (ppu : Ppu) : BitVec 14 :=
  let v := ppu.vram.activeVramAddress
  if !ppu.renderEnable then v.bits.setWidth 14
  else if !ppu.renderLine then v.bits.setWidth 14
  else if ppu.spriteFetchDot then
    ptableFetchAddr ppu.cpu.spritePtableAddr (ppu.fetchedSprite 1)
      (4 ≤ ppu.counter.toNat) (ppu.spriteFineY.setWidth 3)
  else if ppu.fetchDot then
    match ppu.counter.toNat with
    | 0 | 1 => ntableFetchAddr v
    | 2 | 3 => atableFetchAddr v
    | 4 | 5 => ptableFetchAddr ppu.cpu.backgroundPtableAddr ppu.bg.ntableByte false v.fineY
    | _ => ptableFetchAddr ppu.cpu.backgroundPtableAddr ppu.bg.ntableByte true v.fineY
  else v.bits.setWidth 14

/-- `ppu_read_request`: every background and sprite fetch dot. -/
def ppuReadRequest (ppu : Ppu) : Bool :=
  ppu.renderEnable && ppu.renderLine && (ppu.fetchDot || ppu.spriteFetchDot)

/-- `FRAME_PALETTE_RENDER_READ`. -/
def framePaletteRenderRead (ppu : Ppu) : Bool :=
  ppu.renderEnable && ppu.renderLine && ppu.fetchDot

/-- `ppu_hinc_vram_request`: the last dot of a background fetch group, and dot 256. -/
def ppuHincVramRequest (ppu : Ppu) : Bool :=
  ppu.renderEnable && ppu.renderLine && ppu.fetchDot &&
    (ppu.counter.toNat == 7 || ppu.engine.cycle.toNat == 256)

/-- `ppu_vinc_vram_request`. -/
def ppuVincVramRequest (ppu : Ppu) : Bool :=
  ppu.renderEnable && ppu.renderLine && ppu.fetchDot && ppu.engine.cycle.toNat == 256

/-- `ppu_hcopy_vram_request`. -/
def ppuHcopyVramRequest (ppu : Ppu) : Bool :=
  ppu.renderEnable && ppu.renderLine && ppu.engine.cycle.toNat == 257

/-- `ppu_vcopy_vram_request`: dots 280 to 304 of the pre-render line. -/
def ppuVcopyVramRequest (ppu : Ppu) : Bool :=
  ppu.scanline.toNat == 261 && (280 ≤ ppu.engine.cycle.toNat && ppu.engine.cycle.toNat ≤ 304) &&
    ppu.renderEnable

end FpgaNes.Ppu
