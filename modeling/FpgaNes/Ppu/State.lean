import Mathlib.Data.Nat.Notation
import Mathlib.Logic.Function.Basic

/-!
# Registers of the PPU

The registers of `PPU.sv`, one structure for each `always_ff` block that drives
them, so that no register has two drivers. The first structure is clocked by
`CPU_CLK`; the others are clocked by the PPU's own `CLK`. Arrays of the source are
functions of their index.
-/

namespace FpgaNes

/-- A byte of the two buses. -/
abbrev Byte := BitVec 8

/-- `loopy_reg`, the scroll and address register, with the fields of the packed struct. -/
@[ext]
structure LoopyReg where
  /-- Pixel row inside a tile. -/
  fineY : BitVec 3
  /-- Vertical nametable selector. -/
  nametableY : Bool
  /-- Horizontal nametable selector. -/
  nametableX : Bool
  /-- Tile row. -/
  coarseY : BitVec 5
  /-- Tile column. -/
  coarseX : BitVec 5
  deriving DecidableEq, Repr

namespace LoopyReg

/-- The packed struct as its fifteen bits, first field highest. -/
def bits (reg : LoopyReg) : BitVec 15 :=
  reg.fineY ++ BitVec.ofBool reg.nametableY ++ BitVec.ofBool reg.nametableX ++
    reg.coarseY ++ reg.coarseX

/-- Fifteen bits assigned to the packed struct. -/
def ofBits (word : BitVec 15) : LoopyReg where
  fineY := word.extractLsb' 12 3
  nametableY := word.getLsbD 11
  nametableX := word.getLsbD 10
  coarseY := word.extractLsb' 5 5
  coarseX := word.extractLsb' 0 5

end LoopyReg

/-- There are two planes. The sizes of the register arrays are named once, so that a numeral that
indexes an array is the same term wherever it stands. -/
@[instance]
theorem neZeroPlanes : @NeZero ℕ Zero.ofOfNat0 2 := Nat.instNeZeroSucc

/-- There are eight sprite units. -/
@[instance]
theorem neZeroUnits : @NeZero ℕ Zero.ofOfNat0 8 := Nat.instNeZeroSucc

/-- One entry of object memory, `logic [3:0][7:0]`: Y, tile, attributes, X. -/
abbrev OamEntry := BitVec 2 → Byte

/-- Registers driven on `CPU_CLK` by the CPU interface. -/
structure CpuInterface where
  /-- Toggled by a write of `$2007`. -/
  cpuWriteRequest : Bool
  /-- Toggled by a read of `$2007`. -/
  cpuReadRequest : Bool
  /-- Toggled by the second write of `$2006`. -/
  cpuLoadVramRequest : Bool
  /-- Toggled by every access of `$2007`. -/
  cpuIncVramRequest : Bool
  /-- Toggled by a read of `$2002`. -/
  cpuNmiClearRequest : Bool
  /-- First or second write of `$2005` and `$2006`. -/
  ppuLatch : Bool
  /-- `fine_x`. -/
  fineX : BitVec 3
  /-- `temp_vram_address`, the register `t`. -/
  tempVramAddress : LoopyReg
  /-- `ppu_write_buffer`. -/
  ppuWriteBuffer : Byte
  /-- `nmi_generate`, bit 7 of `$2000`. -/
  nmiGenerate : Bool
  /-- `sprite_size`, bit 5 of `$2000`. -/
  spriteSize : Bool
  /-- `background_ptable_addr`, bit 4 of `$2000`. -/
  backgroundPtableAddr : Bool
  /-- `sprite_ptable_addr`, bit 3 of `$2000`. -/
  spritePtableAddr : Bool
  /-- Step of the VRAM address: low is 1, high is 32. -/
  addrIncrement : Bool
  /-- `bgr_color_emphasis`, bits 7 to 5 of `$2001`. -/
  bgrColorEmphasis : BitVec 3
  /-- `sprite_render_enable`, bit 4 of `$2001`. -/
  spriteRenderEnable : Bool
  /-- `background_render_enable`, bit 3 of `$2001`. -/
  backgroundRenderEnable : Bool
  /-- `show_edge_sprites`, bit 2 of `$2001`. -/
  showEdgeSprites : Bool
  /-- `show_edge_background`, bit 1 of `$2001`. -/
  showEdgeBackground : Bool
  /-- `greyscale_enable`, bit 0 of `$2001`. -/
  greyscaleEnable : Bool
  /-- `oam_address`. -/
  oamAddress : Byte
  /-- `OAM`. -/
  oam : BitVec 6 → OamEntry

/-- Registers of the cycle and scanline engine. -/
structure Engine where
  /-- `cycle`, the dot of the line. -/
  cycle : BitVec 10
  /-- `scanline_intermediate`. -/
  scanline : BitVec 10
  /-- The dot that comes next. -/
  nextCycle : BitVec 10
  /-- The line that comes next. -/
  nextScanline : BitVec 10
  /-- Cleared by reset and assigned nowhere else. -/
  extraCycleLatch : Bool
  deriving DecidableEq

/-- Background registers of the rendering block; pairs are indexed by the bit plane. -/
structure Background where
  /-- `ptable_data`, the pattern shifters. -/
  ptableData : Fin 2 → BitVec 16
  /-- `palette_data`, the palette shifters. -/
  paletteData : Fin 2 → BitVec 16
  /-- The pattern bytes that are loaded next. -/
  ptableDataTemp : Fin 2 → Byte
  /-- The palette bits that are loaded next. -/
  atableBits : Fin 2 → Bool
  /-- `atable_byte`. -/
  atableByte : Byte
  /-- `ntable_byte`. -/
  ntableByte : Byte

/-- The eight sprite output units of the rendering block. -/
structure SpriteUnits where
  /-- `sprite_shifters`, two planes for each unit. -/
  spriteShifters : Fin 8 → Fin 2 → Byte
  /-- `sprite_attributes`. -/
  spriteAttributes : Fin 8 → Byte
  /-- `sprite_x_position`, the counter of each unit. -/
  spriteXPosition : Fin 8 → Byte
  /-- `sprite_y_position`. -/
  spriteYPosition : Fin 8 → Byte

/-- Secondary object memory and the counters of sprite evaluation and fetch. -/
structure SpriteEvaluation where
  /-- `sprites`, secondary object memory. -/
  sprites : Fin 8 → OamEntry
  /-- `oam_clear_counter`. -/
  oamClearCounter : BitVec 6
  /-- `sprite_oam_idx`, the entry that is examined next. -/
  spriteOamIdx : BitVec 6
  /-- `sprite_byte_idx`. -/
  spriteByteIdx : BitVec 2
  /-- `sprite_counter`, the slots that are filled. -/
  spriteCounter : BitVec 4
  /-- `sprite_fetch_idx`, the slot that is fetched. -/
  spriteFetchIdx : BitVec 6
  /-- `sprite0_hit_possible`: entry 0 has been found. -/
  sprite0HitPossible : Bool
  /-- `sprite_overflow`. -/
  spriteOverflow : Bool

/-- Registers of the VRAM address handler. -/
structure VramHandler where
  /-- `active_vram_address`, the register `v`. -/
  activeVramAddress : LoopyReg
  /-- `ppu_load_vram_handle`. -/
  ppuLoadVramHandle : Bool
  /-- `ppu_inc_vram_handle`. -/
  ppuIncVramHandle : Bool

/-- Registers of the read and write handler. -/
structure AccessHandler where
  /-- `PPU_READ`. -/
  ppuRead : Bool
  /-- `PPU_WRITE`. -/
  ppuWrite : Bool
  /-- `ppu_write_handle`. -/
  ppuWriteHandle : Bool
  /-- `ppu_read_handle`. -/
  ppuReadHandle : Bool
  /-- `one_after_read`: the data bus is captured on the next edge. -/
  oneAfterRead : Bool
  /-- `ppu_read_buffer`. -/
  ppuReadBuffer : Byte

/-- Registers of the vertical blank handler. -/
structure NmiHandler where
  /-- `nmi_occured`. -/
  nmiOccured : Bool
  /-- `ppu_nmi_clear_handle`. -/
  ppuNmiClearHandle : Bool

/-- The two line buffers and the selector of the one being filled. -/
structure Linebuffers where
  /-- Which of the buffers the PPU writes. -/
  ppuLinebuffer : Bool
  /-- Both buffers. -/
  linebuffer : Bool → Fin 256 → BitVec 6

/-- All registers of the PPU. -/
structure Ppu where
  /-- The registers of the CPU interface. -/
  cpu : CpuInterface
  /-- The engine. -/
  engine : Engine
  /-- The background registers. -/
  bg : Background
  /-- The sprite units. -/
  units : SpriteUnits
  /-- The evaluation. -/
  eval : SpriteEvaluation
  /-- The handler of the VRAM address. -/
  vram : VramHandler
  /-- The handler of reads and writes. -/
  access : AccessHandler
  /-- The handler of vertical blank. -/
  nmi : NmiHandler
  /-- `sprite0_hit`. -/
  sprite0Hit : Bool
  /-- The line buffers. -/
  lines : Linebuffers

end FpgaNes
