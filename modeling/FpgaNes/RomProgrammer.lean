import FpgaNes.Nes

/-!
# The ROM programmer

`ROM_PRGMR.sv`, the driver words of `rom_programmer.h`, and the writes of `main` that load a
game. The programmer is a slave of the Avalon bus: its strobes are registered on `CLK`, its
address and data are the wires of the bus. The ROMs see both on the edges of `MCLK`, a clock
of no fixed relation to `CLK`.
-/

namespace FpgaNes

/-- The wires of the Avalon slave that the programmer reads. -/
structure AvalonPort where
  /-- `AVL_CS`. -/
  cs : Bool
  /-- `AVL_WRITE`. -/
  write : Bool
  /-- `AVL_WRITEDATA`. -/
  writedata : BitVec 32
  deriving DecidableEq

/-- Registers of `ROM_PRGMR`. -/
structure RomPrgmr where
  /-- `CHR_ROM_Write`. -/
  chrRomWrite : Bool
  /-- `PRG_ROM_Write`. -/
  prgRomWrite : Bool
  /-- `mirroring_mode`. -/
  mirroringMode : Bool
  /-- `is_chr_ram`. -/
  isChrRam : Bool
  deriving DecidableEq

namespace RomPrgmr

/-- `ROM_ADDR`. -/
def romAddr (port : AvalonPort) : BitVec 16 := port.writedata.extractLsb' 0 16

/-- `ROM_DATA`. -/
def romData (port : AvalonPort) : Byte := port.writedata.extractLsb' 16 8

/-- The programmer on `posedge CLK`. The strobe of the ROM that is not addressed holds while the
chip is selected. -/
def clock (port : AvalonPort) (r : RomPrgmr) : RomPrgmr :=
  if port.cs then
    { prgRomWrite := if port.writedata.getLsbD 31 then port.write else r.prgRomWrite
      chrRomWrite := if port.writedata.getLsbD 31 then r.chrRomWrite else port.write
      mirroringMode :=
        if port.writedata.getLsbD 30 then port.writedata.getLsbD 29 else r.mirroringMode
      isChrRam := if port.writedata.getLsbD 28 then port.writedata.getLsbD 27 else r.isChrRam }
  else { r with prgRomWrite := false, chrRomWrite := false }

/-- The pins of the console that the programmer drives, over those it does not. -/
def drive (r : RomPrgmr) (port : AvalonPort) (pins : Pins) : Pins :=
  { pins with
    header := ⟨r.isChrRam, r.mirroringMode⟩
    prgRomPrgmrWren := r.prgRomWrite
    chrRomPrgmrWren := r.chrRomWrite
    romPrgmrAddr := romAddr port
    romPrgmrData := romData port }

end RomPrgmr

/-! ## The driver -/

/-- The value `(address) | (data << (16))`. -/
def romWord (address : BitVec 16) (data : Byte) : BitVec 32 :=
  address.setWidth 32 ||| data.setWidth 32 <<< 16

/-- The word stored by `write_prg_rom`. -/
def writePrgRom (address : BitVec 16) (data : Byte) : BitVec 32 :=
  0x80000000 ||| romWord address data

/-- The word stored by `write_chr_rom`. -/
def writeChrRom (address : BitVec 16) (data : Byte) : BitVec 32 :=
  0x00000000 ||| romWord address data

/-- The word stored by `write_header_info`. -/
def writeHeaderInfo (isVertical isChrRam : BitVec 32) : BitVec 32 :=
  let vertical : BitVec 32 := if isVertical ≠ 0 then 0x00000000 ||| 0x20000000 else 0x00000000
  let pringle := if isChrRam ≠ 0 then vertical ||| 0x08000000 else vertical
  0x50000000 ||| pringle ||| 0x80000000

/-- The words of one round of the loop over the program ROM. -/
def prgWrites (prg : List Byte) (i : ℕ) : List (BitVec 32) :=
  let bytes := prg.getD i 0
  (if prg.length = 16384 then [writePrgRom (0xC000 + BitVec.ofNat 16 i) bytes] else []) ++
    [writePrgRom (0x8000 + BitVec.ofNat 16 i) bytes]

/-- The word of one round of the loop over the character ROM. -/
def chrWrites (chr : List Byte) (i : ℕ) : List (BitVec 32) :=
  [writeChrRom (0x0000 + BitVec.ofNat 16 i) (chr.getD i 0)]

/-- The words `main` stores to load a game. -/
def programWrites (isVertical isChrRam : BitVec 32) (prg chr : List Byte) : List (BitVec 32) :=
  writeHeaderInfo isVertical isChrRam ::
    ((List.range prg.length).flatMap (prgWrites prg) ++
      (List.range chr.length).flatMap (chrWrites chr))

/-! ## Two clocks -/

/-- What the console meets on an edge of `MCLK`: its other pins, its bus cycle, and which of the
slower clocks rise. -/
structure MclkEdge where
  /-- The pins. -/
  pins : Pins
  /-- What the processor presents. -/
  bus : CpuBus
  /-- `PPU_CLK` rises with this edge. -/
  ppuRises : Bool
  /-- `CPU_CLK` rises with this edge. -/
  cpuEdge : Bool

/-- A period of `CLK`: what the bus presents, the edges of `MCLK` before the edge of `CLK` that
ends it, and the one that falls on that edge. -/
structure Period where
  /-- What the bus presents. -/
  port : AvalonPort
  /-- The edges of `MCLK` within the period. -/
  inside : List MclkEdge
  /-- The edge of `MCLK` that ends it, where one does. -/
  atEnd : Option MclkEdge

/-- The edges of `MCLK` that see the registers of this period. -/
def Period.edges (p : Period) : List MclkEdge := p.inside ++ p.atEnd.toList

/-- The console with its programmer. -/
structure Loader where
  /-- The programmer. -/
  prgmr : RomPrgmr
  /-- The console. -/
  nes : Nes

namespace Loader

/-- One edge of `MCLK`. -/
def mclk (port : AvalonPort) (prgmr : RomPrgmr) (nes : Nes) (edge : MclkEdge) : Nes :=
  let pins := prgmr.drive port edge.pins
  if edge.ppuRises then nes.ppuEdge pins edge.bus edge.cpuEdge else nes.mclkEdge pins edge.bus

/-- One period of `CLK`. The edges of `MCLK` in it see the strobes registered at its start. -/
def period (l : Loader) (p : Period) : Loader where
  prgmr := l.prgmr.clock p.port
  nes := p.edges.foldl (mclk p.port l.prgmr) l.nes

/-- The loader after some periods. -/
def run (start : Loader) (periods : List Period) : Loader := periods.foldl period start

/-- The programmer as the device powers up, over any console. -/
def powerUp (nes : Nes) : Loader := ⟨⟨false, false, false, false⟩, nes⟩

end Loader

/-- How the bus presents a list of words: it is idle with the chip not selected, or it presents a
word with the write line low for at least one cycle, high for at least four, and low again
for at least one. -/
inductive Presents : List (BitVec 32) → List AvalonPort → Prop where
  | done : Presents [] []
  | idle {words : List (BitVec 32)} {ports : List AvalonPort} (write : Bool) (data : BitVec 32) :
      Presents words ports → Presents words (⟨false, write, data⟩ :: ports)
  | word {words : List (BitVec 32)} {ports : List AvalonPort} (data : BitVec 32)
      (setup strobe hold : ℕ) (settles : 1 ≤ setup) (lasts : 4 ≤ strobe) (holds : 1 ≤ hold) :
      Presents words ports →
      Presents (data :: words)
        (List.replicate setup ⟨true, false, data⟩ ++ List.replicate strobe ⟨true, true, data⟩ ++
          List.replicate hold ⟨true, false, data⟩ ++ ports)

/-- Every three consecutive periods of `CLK`, both ends included, hold an edge of `MCLK`. -/
def Ticking (periods : List Period) : Prop :=
  ∀ (front back : List Period) (before first second third : Period),
    periods = front ++ before :: first :: second :: third :: back →
      before.atEnd.isSome = true ∨ first.edges ≠ [] ∨ second.edges ≠ [] ∨ third.edges ≠ []

end FpgaNes
