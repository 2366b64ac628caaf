import FpgaNes.Ppu.Blocks
import FpgaNes.Memories

/-!
# The console

`NES_ARCHITECTURE.sv`: the DMA state machine, the selection logic of the CPU bus and
of the PPU bus, and the wiring of the PPU and the memories. The state is every
register of these modules; the processor is the environment, and presents one bus
cycle at a time. The clocks are those of `nes_clkgen`: `PPU_CLK` is `MCLK` divided
by four and `CPU_CLK` is `MCLK` divided by twelve, both in phase.
-/

namespace FpgaNes

/-- The header signals of the loaded game. -/
structure Header where
  /-- CHR memory is RAM. -/
  isChrRam : Bool
  /-- High is vertical, low is horizontal. -/
  mirroringMode : Bool
  deriving DecidableEq

/-- Pins of the console and outputs of the devices that are not part of this model. -/
structure Pins where
  /-- `RESET`. -/
  reset : Bool
  /-- `ENABLE`. -/
  enable : Bool
  /-- What the game says of its mirroring and CHR memory. -/
  header : Header
  /-- The programmer writes PRG ROM. -/
  prgRomPrgmrWren : Bool
  /-- The programmer writes CHR ROM. -/
  chrRomPrgmrWren : Bool
  /-- The address of the programmer. -/
  romPrgmrAddr : BitVec 16
  /-- The byte of the programmer. -/
  romPrgmrData : Byte
  /-- What the APU drives. -/
  apuDataOut : Byte
  /-- What the first controller drives. -/
  controllerOneDataOut : Byte
  /-- What the second controller drives. -/
  controllerTwoDataOut : Byte
  deriving DecidableEq

/-- The bus cycle the processor presents: `CPU_ADDR`, `CPU_DATA_OUT` and `CPU_RW_n`. -/
structure CpuBus where
  /-- The address. -/
  addr : BitVec 16
  /-- The byte that the processor drives. -/
  dataOut : Byte
  /-- Read is high, write is low. -/
  rwN : Bool
  deriving DecidableEq

/-- Registers of the DMA state machine. -/
structure Dma where
  /-- `DMA_ACTIVE`. -/
  dmaActive : Bool
  /-- The page that is copied. -/
  dmaAddrHigh : Byte
  /-- The byte of the page that is next. -/
  dmaAddrLow : Byte
  deriving DecidableEq

/-- Registers of the console. -/
structure Nes where
  /-- The DMA. -/
  dma : Dma
  /-- The PPU. -/
  ppu : Ppu
  /-- The memories. -/
  mem : Memories

namespace Nes

/-! ## CPU bus -/

/-- `CPU_ADDR_BUS`. -/
def cpuAddrBus (nes : Nes) (bus : CpuBus) : BitVec 16 :=
  if nes.dma.dmaActive then nes.dma.dmaAddrHigh ++ nes.dma.dmaAddrLow else bus.addr

/-- The range `$2000` to `$3FFF` of the PPU control registers. -/
def ppuRange (addr : BitVec 16) : Bool := 0x2000 ≤ addr.toNat && addr.toNat ≤ 0x3FFF

/-- `CPU_PPU_wren`. -/
def cpuPpuWren (nes : Nes) (bus : CpuBus) : Bool :=
  !nes.dma.dmaActive && !bus.rwN && ppuRange bus.addr

/-- `CPU_PPU_rden`. -/
def cpuPpuRden (nes : Nes) (bus : CpuBus) : Bool :=
  !nes.dma.dmaActive && bus.rwN && ppuRange bus.addr

/-- `SYSRAM_wren`. -/
def sysramWren (nes : Nes) (bus : CpuBus) : Bool :=
  !nes.dma.dmaActive && !bus.rwN && bus.addr.toNat ≤ 0x0FFF

/-- `SYSRAM_rden`. -/
def sysramRden (nes : Nes) (bus : CpuBus) : Bool :=
  nes.dma.dmaActive || (bus.rwN && bus.addr.toNat ≤ 0x0FFF)

/-- `PRG_ROM_rden`. -/
def prgRomRden (nes : Nes) (bus : CpuBus) : Bool :=
  !nes.dma.dmaActive && bus.rwN && 0x4020 ≤ bus.addr.toNat

/-- `DMA_write`. -/
def dmaWrite (nes : Nes) : Bool := nes.dma.dmaActive

/-- The port of the CPU interface of the PPU, without the data it carries. -/
def cpuControl (nes : Nes) (bus : CpuBus) : CpuPort where
  dataIn := 0
  addr := bus.addr.setWidth 3
  wren := nes.cpuPpuWren bus
  rden := nes.cpuPpuRden bus
  dmaWrite := nes.dmaWrite
  dmaAddress := nes.dma.dmaAddrLow
  dmaData := 0

/-! ## PPU bus -/

/-- `PPU_READ_OUT` of the PPU. -/
def ppuRead (nes : Nes) (bus : CpuBus) : Bool := nes.ppu.ppuReadOut (nes.cpuControl bus)

/-- `PPU_WRITE` of the PPU. -/
def ppuWrite (nes : Nes) : Bool := nes.ppu.access.ppuWrite

/-- `PPU_ADDR_BUS`. -/
def ppuAddrBus (nes : Nes) : BitVec 14 := nes.ppu.ppuAddr

/-- `PPU_DATA_BUS`. -/
def ppuDataBus (nes : Nes) (pins : Pins) (bus : CpuBus) : Byte :=
  if nes.ppuWrite then nes.ppu.cpu.ppuWriteBuffer
  else if nes.ppuRead bus then
    if nes.ppuAddrBus.toNat ≤ 0x1FFF then
      if pins.header.isChrRam then nes.mem.chrRam.dataOut else nes.mem.chrRom.dataOut
    else if nes.ppuAddrBus.toNat < 0x3F00 then nes.mem.vram.dataOut
    else nes.mem.framePalette.dataOut
  else 0xAA

/-- The read enable of the memory at an address of the PPU bus. -/
def readEnable (nes : Nes) (bus : CpuBus) (selected : Bool) : Bool :=
  !nes.ppuWrite && nes.ppuRead bus && selected

/-- `PPU_ADDR_BUS` in the pattern tables. -/
def chrSelected (nes : Nes) : Bool := nes.ppuAddrBus.toNat ≤ 0x1FFF

/-- `PPU_ADDR_BUS` in the nametables. -/
def vramSelected (nes : Nes) : Bool :=
  0x2000 ≤ nes.ppuAddrBus.toNat && nes.ppuAddrBus.toNat < 0x3F00

/-- `PPU_ADDR_BUS` in the frame palette. -/
def paletteSelected (nes : Nes) : Bool := 0x3F00 ≤ nes.ppuAddrBus.toNat

/-! ## CPU data bus -/

/-- `CPU_DATA_BUS`. -/
def cpuDataBus (nes : Nes) (pins : Pins) (bus : CpuBus) : Byte :=
  if nes.dma.dmaActive then nes.mem.sysRam.dataOut
  else if !bus.rwN then bus.dataOut
  else if ppuRange bus.addr then
    nes.ppu.cpuDataOut (nes.cpuControl bus) (nes.ppuDataBus pins bus)
  else if bus.addr.toNat = 0x4016 then pins.controllerOneDataOut
  else if bus.addr.toNat = 0x4017 then pins.controllerTwoDataOut
  else if 0x4020 ≤ bus.addr.toNat then nes.mem.prgRom.dataOut
  else if bus.addr.toNat = 0x4015 then pins.apuDataOut
  else if bus.addr.toNat ≤ 0x0FFF then nes.mem.sysRam.dataOut
  else 0xFF

/-- The port of the CPU interface of the PPU. -/
def cpuPort (nes : Nes) (pins : Pins) (bus : CpuBus) : CpuPort :=
  { nes.cpuControl bus with
    dataIn := nes.cpuDataBus pins bus
    dmaData := nes.cpuDataBus pins bus }

/-- `CPU_ENABLE`: the processor advances to its next bus cycle. -/
def cpuEnable (nes : Nes) (pins : Pins) : Bool := pins.enable && !nes.dma.dmaActive

/-! ## Edges -/

/-- The DMA state machine, on `posedge CPU_CLK`. -/
def dmaNext (nes : Nes) (pins : Pins) (bus : CpuBus) : Dma :=
  let d := nes.dma
  if !bus.rwN && (nes.cpuAddrBus bus).toNat == 0x4014 then
    { d with dmaAddrHigh := nes.cpuDataBus pins bus, dmaActive := true }
  else if d.dmaActive then
    if d.dmaAddrLow.toNat = 255 then { d with dmaActive := false, dmaAddrLow := 0 }
    else { d with dmaAddrLow := d.dmaAddrLow + 1 }
  else d

/-- The memories, on `posedge MCLK`. -/
def memNext (nes : Nes) (pins : Pins) (bus : CpuBus) : Memories :=
  let m := nes.mem
  let addr := nes.ppuAddrBus
  let data := nes.ppuDataBus pins bus
  { vram := Vram.clock m.vram pins.header.mirroringMode (addr.setWidth 12)
      (nes.ppuWrite && nes.vramSelected) (nes.readEnable bus nes.vramSelected) data
    chrRom := Chr.romClock m.chrRom (addr.setWidth 16) pins.romPrgmrAddr
      (nes.readEnable bus (nes.chrSelected && !pins.header.isChrRam)) pins.chrRomPrgmrWren
      pins.romPrgmrData
    chrRam := Chr.ramClock m.chrRam (addr.setWidth 16)
      (nes.ppuWrite && (nes.chrSelected && pins.header.isChrRam))
      (nes.readEnable bus (nes.chrSelected && pins.header.isChrRam)) data
    framePalette := m.framePalette.clock (addr.setWidth 5) nes.ppu.paletteIdx
      (nes.ppuWrite && nes.paletteSelected) (nes.readEnable bus nes.paletteSelected)
      nes.ppu.framePaletteRenderRead data
    sysRam := m.sysRam.clock ((nes.cpuAddrBus bus).setWidth 11) (nes.sysramWren bus)
      (nes.sysramRden bus) (nes.cpuDataBus pins bus)
    prgRom := prgRomClock m.prgRom (nes.cpuAddrBus bus) pins.romPrgmrAddr (nes.prgRomRden bus)
      pins.prgRomPrgmrWren pins.romPrgmrData }

/-- Every block of the PPU on `posedge CLK`; the CPU interface holds. -/
def ppuNext (nes : Nes) (pins : Pins) (bus : CpuBus) : Ppu :=
  let ppu := nes.ppu
  let data := nes.ppuDataBus pins bus
  { cpu := ppu.cpu
    engine := ppu.engineNext pins.reset
    bg := ppu.backgroundNext pins.reset data
    units := ppu.unitsNext pins.reset data
    eval := ppu.evalNext pins.reset
    vram := ppu.vramNext pins.reset
    access := ppu.accessNext pins.reset pins.enable (nes.cpuControl bus) data
    nmi := ppu.nmiNext pins.reset
    sprite0Hit := ppu.sprite0HitNext pins.reset
    lines := ppu.linesNext pins.reset nes.mem.framePalette.renderData }

/-- An edge of `MCLK` on which neither slower clock rises. -/
def mclkEdge (pins : Pins) (bus : CpuBus) (nes : Nes) : Nes :=
  { nes with mem := nes.memNext pins bus }

/-- An edge of `MCLK` on which `PPU_CLK` rises, and `CPU_CLK` too when `cpuEdge` is set.
Every block reads the registers as they were before the edge. -/
def ppuEdge (pins : Pins) (bus : CpuBus) (cpuEdge : Bool) (nes : Nes) : Nes where
  dma := if cpuEdge then nes.dmaNext pins bus else nes.dma
  ppu :=
    { nes.ppuNext pins bus with
      cpu :=
        if cpuEdge then nes.ppu.cpu.next pins.reset (nes.cpuPort pins bus) else nes.ppu.cpu }
  mem := nes.memNext pins bus

/-- The three edges of `MCLK` between two edges of `PPU_CLK`. -/
def settle (pins : Pins) (bus : CpuBus) (nes : Nes) : Nes :=
  mclkEdge pins bus (mclkEdge pins bus (mclkEdge pins bus nes))

/-- One period of `PPU_CLK`, ended by its edge. -/
def ppuClock (pins : Pins) (bus : CpuBus) (cpuEdge : Bool) (nes : Nes) : Nes :=
  ppuEdge pins bus cpuEdge (settle pins bus nes)

/-- The console just before the edge that ends a bus cycle: two periods of `PPU_CLK` and
the settled third. The processor samples `CPU_DATA_BUS` here. -/
def sample (pins : Pins) (bus : CpuBus) (nes : Nes) : Nes :=
  settle pins bus (ppuClock pins bus false (ppuClock pins bus false nes))

/-- One period of `CPU_CLK`, ended by its edge, which `PPU_CLK` shares. -/
def cpuClock (pins : Pins) (bus : CpuBus) (nes : Nes) : Nes :=
  ppuEdge pins bus true (sample pins bus nes)

/-! ## Power-up -/

/-- Every register low, as the device powers up, over memories that hold anything. -/
def powerUp (mem : Memories) : Nes where
  dma := ⟨false, 0, 0⟩
  ppu :=
    { cpu :=
        { cpuWriteRequest := false
          cpuReadRequest := false
          cpuLoadVramRequest := false
          cpuIncVramRequest := false
          cpuNmiClearRequest := false
          ppuLatch := false
          fineX := 0
          tempVramAddress := .ofBits 0
          ppuWriteBuffer := 0
          nmiGenerate := false
          spriteSize := false
          backgroundPtableAddr := false
          spritePtableAddr := false
          addrIncrement := false
          bgrColorEmphasis := 0
          spriteRenderEnable := false
          backgroundRenderEnable := false
          showEdgeSprites := false
          showEdgeBackground := false
          greyscaleEnable := false
          oamAddress := 0
          oam := fun _ _ => 0 }
      engine := ⟨0, 0, 0, 0, false⟩
      bg := ⟨fun _ => 0, fun _ => 0, fun _ => 0, fun _ => false, 0, 0⟩
      units := ⟨fun _ _ => 0, fun _ => 0, fun _ => 0, fun _ => 0⟩
      eval := ⟨fun _ _ => 0, 0, 0, 0, 0, 0, false, false⟩
      vram := ⟨.ofBits 0, false, false⟩
      access := ⟨false, false, false, false, false, 0⟩
      nmi := ⟨false, false⟩
      sprite0Hit := false
      lines := ⟨false, fun _ _ => 0⟩ }
  mem := mem

end Nes

end FpgaNes
