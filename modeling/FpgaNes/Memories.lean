import FpgaNes.Ppu.State

/-!
# Memories on the two buses

The synchronous memories of the console, clocked by `MCLK`: `VRAM.sv`, `CHR_ROM.sv`,
`CHR_RAM.sv`, `FRAME_PALETTE.sv`, `SYS_RAM.sv` and `PRG_ROM.sv`. Each edge stores
when its write enable is high and registers the addressed cell when its read enable
is high; the cell read is the one before the store.
-/

namespace FpgaNes

/-- A byte memory with an `a`-bit address. -/
abbrev Cells (a : Nat) := BitVec a → Byte

/-- A synchronous memory with a registered output. -/
structure SyncMemory (a : Nat) where
  /-- The cells. -/
  mem : Cells a
  /-- The output register. -/
  dataOut : Byte

namespace SyncMemory

variable {a : Nat}

/-- One edge of a memory whose write and read ports share an address. -/
def clock (m : SyncMemory a) (addr : BitVec a) (wren rden : Bool) (dataIn : Byte) :
    SyncMemory a where
  mem := if wren then Function.update m.mem addr dataIn else m.mem
  dataOut := if rden then m.mem addr else m.dataOut

end SyncMemory

namespace Vram

/-- `addr_mirrored`: vertical mirroring ignores bit 11, horizontal ignores bit 10. -/
def addrMirrored (mirroring : Bool) (addr : BitVec 12) : BitVec 11 :=
  if mirroring then addr.extractLsb' 0 11
  else addr.extractLsb' 11 1 ++ addr.extractLsb' 0 10

/-- One edge of `VRAM`. -/
def clock (m : SyncMemory 11) (mirroring : Bool) (addr : BitVec 12) (wren rden : Bool)
    (dataIn : Byte) : SyncMemory 11 :=
  m.clock (addrMirrored mirroring addr) wren rden dataIn

end Vram

namespace Chr

/-- The cell selected by a 16-bit address, when it is one of the 8192. -/
def cell (m : Cells 13) (addr : BitVec 16) : Byte :=
  if addr.toNat < 8192 then m (addr.setWidth 13) else 0

/-- Store at a 16-bit address; an address past the memory writes nothing. -/
def store (m : Cells 13) (addr : BitVec 16) (data : Byte) : Cells 13 :=
  if addr.toNat < 8192 then Function.update m (addr.setWidth 13) data else m

/-- One edge of `CHR_ROM`: read from the console, written by the programmer. -/
def romClock (m : SyncMemory 13) (nesAddr prgmrAddr : BitVec 16) (nesRden prgmrWren : Bool)
    (prgmrData : Byte) : SyncMemory 13 where
  mem := if prgmrWren then store m.mem prgmrAddr prgmrData else m.mem
  dataOut := if nesRden then cell m.mem nesAddr else m.dataOut

/-- One edge of `CHR_RAM`. -/
def ramClock (m : SyncMemory 13) (nesAddr : BitVec 16) (nesWren nesRden : Bool)
    (nesData : Byte) : SyncMemory 13 where
  mem := if nesWren then store m.mem nesAddr nesData else m.mem
  dataOut := if nesRden then cell m.mem nesAddr else m.dataOut

end Chr

/-- Registers of `FRAME_PALETTE`: one memory with a second, read-only port. -/
structure FramePalette where
  /-- The cells. -/
  memory : Cells 5
  /-- The output register of the PPU bus. -/
  dataOut : Byte
  /-- The output register of the composition. -/
  renderData : Byte

namespace FramePalette

/-- `addr_mirrored`: the backdrop of a sprite palette is that of the background one. -/
def addrMirrored (addr : BitVec 5) : BitVec 5 :=
  match addr.toNat with
  | 0x10 => 0x00
  | 0x14 => 0x04
  | 0x18 => 0x08
  | 0x1C => 0x0C
  | _ => addr

/-- One edge of `FRAME_PALETTE`. -/
def clock (m : FramePalette) (addr renderAddr : BitVec 5) (wren rden renderRden : Bool)
    (dataIn : Byte) : FramePalette where
  memory := if wren then Function.update m.memory (addrMirrored addr) dataIn else m.memory
  dataOut := if rden then m.memory (addrMirrored addr) else m.dataOut
  renderData := if renderRden then m.memory (addrMirrored renderAddr) else m.renderData

end FramePalette

/-- One edge of `PRG_ROM`, addressed by fifteen bits from either side. -/
def prgRomClock (m : SyncMemory 15) (nesAddr prgmrAddr : BitVec 16) (nesRden prgmrWren : Bool)
    (prgmrData : Byte) : SyncMemory 15 where
  mem :=
    if prgmrWren then Function.update m.mem (prgmrAddr.setWidth 15) prgmrData else m.mem
  dataOut := if nesRden then m.mem (nesAddr.setWidth 15) else m.dataOut

/-- Every memory clocked by `MCLK`. -/
structure Memories where
  /-- The nametables. -/
  vram : SyncMemory 11
  /-- CHR ROM. -/
  chrRom : SyncMemory 13
  /-- CHR RAM. -/
  chrRam : SyncMemory 13
  /-- The palette. -/
  framePalette : FramePalette
  /-- System RAM. -/
  sysRam : SyncMemory 11
  /-- PRG ROM. -/
  prgRom : SyncMemory 15

/-- Memories that hold zero everywhere. -/
def Memories.blank : Memories where
  vram := ⟨fun _ => 0, 0⟩
  chrRom := ⟨fun _ => 0, 0⟩
  chrRam := ⟨fun _ => 0, 0⟩
  framePalette := ⟨fun _ => 0, 0, 0⟩
  sysRam := ⟨fun _ => 0, 0⟩
  prgRom := ⟨fun _ => 0, 0⟩

end FpgaNes
