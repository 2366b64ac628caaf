import FpgaNes.Ppu.Comb

/-!
# Clocked blocks of the PPU

One transition for each `always_ff` block of `PPU.sv`. A block reads the registers as
they stand before the edge and returns the registers it drives, so all assignments
are nonblocking. Where the source assigns one register twice on a path, the later
assignment is the one written here.
-/

namespace FpgaNes

/-- Inputs of the CPU interface. -/
structure CpuPort where
  /-- `CPU_DATA_IN`. -/
  dataIn : Byte
  /-- `CPU_ADDR`. -/
  addr : BitVec 3
  /-- The register is written. -/
  wren : Bool
  /-- The register is read. -/
  rden : Bool
  /-- The DMA writes object memory. -/
  dmaWrite : Bool
  /-- The byte of object memory that it writes. -/
  dmaAddress : Byte
  /-- What it writes there. -/
  dmaData : Byte
  deriving DecidableEq

/-- Store one byte of object memory at `addr[7:2]`, `addr[1:0]`. -/
def writeOam (oam : BitVec 6 → OamEntry) (addr data : Byte) : BitVec 6 → OamEntry :=
  Function.update oam (addr.extractLsb' 2 6)
    (Function.update (oam (addr.extractLsb' 2 6)) (addr.extractLsb' 0 2) data)

namespace CpuInterface

/-- The register writes `case (CPU_ADDR)` under `CPU_wren`. -/
def write (r : CpuInterface) (addr : BitVec 3) (data : Byte) : CpuInterface :=
  match addr.toNat with
  | 0 =>
    { r with
      nmiGenerate := data.getLsbD 7
      spriteSize := data.getLsbD 5
      backgroundPtableAddr := data.getLsbD 4
      spritePtableAddr := data.getLsbD 3
      addrIncrement := data.getLsbD 2
      tempVramAddress :=
        { r.tempVramAddress with nametableY := data.getLsbD 1, nametableX := data.getLsbD 0 } }
  | 1 =>
    { r with
      bgrColorEmphasis := data.extractLsb' 5 3
      spriteRenderEnable := data.getLsbD 4
      backgroundRenderEnable := data.getLsbD 3
      showEdgeSprites := data.getLsbD 2
      showEdgeBackground := data.getLsbD 1
      greyscaleEnable := data.getLsbD 0 }
  | 3 => { r with oamAddress := data }
  | 4 => { r with oam := writeOam r.oam r.oamAddress data, oamAddress := r.oamAddress + 1 }
  | 5 =>
    if r.ppuLatch = false then
      { r with
        tempVramAddress := { r.tempVramAddress with coarseX := data.extractLsb' 3 5 }
        fineX := data.extractLsb' 0 3
        ppuLatch := true }
    else
      { r with
        tempVramAddress :=
          { r.tempVramAddress with
            coarseY := data.extractLsb' 3 5, fineY := data.extractLsb' 0 3 }
        ppuLatch := false }
  | 6 =>
    if r.ppuLatch = false then
      { r with
        tempVramAddress := .ofBits
          (0#1 ++ data.extractLsb' 0 6 ++ r.tempVramAddress.bits.extractLsb' 0 8)
        ppuLatch := true }
    else
      { r with
        tempVramAddress := .ofBits (r.tempVramAddress.bits.extractLsb' 8 7 ++ data)
        ppuLatch := false
        cpuLoadVramRequest := !r.cpuLoadVramRequest }
  | 7 =>
    { r with
      ppuWriteBuffer := data
      cpuWriteRequest := !r.cpuWriteRequest
      cpuIncVramRequest := !r.cpuIncVramRequest }
  | _ => r

/-- The register reads `case (CPU_ADDR)` under `CPU_rden`. -/
def read (r : CpuInterface) (addr : BitVec 3) : CpuInterface :=
  match addr.toNat with
  | 2 => { r with ppuLatch := false, cpuNmiClearRequest := !r.cpuNmiClearRequest }
  | 7 =>
    { r with
      cpuReadRequest := !r.cpuReadRequest
      cpuIncVramRequest := !r.cpuIncVramRequest }
  | _ => r

/-- The CPU interface block, on `posedge CPU_CLK`. -/
def next (r : CpuInterface) (reset : Bool) (port : CpuPort) : CpuInterface :=
  if reset then
    { r with
      cpuWriteRequest := false
      cpuReadRequest := false
      cpuIncVramRequest := false
      cpuNmiClearRequest := false
      cpuLoadVramRequest := false
      ppuLatch := false
      oam := fun _ _ => 0 }
  else if port.dmaWrite then
    { r with oam := writeOam r.oam (port.dmaAddress + r.oamAddress) port.dmaData }
  else if port.wren then r.write port.addr port.dataIn
  else if port.rden then r.read port.addr
  else r

end CpuInterface

namespace Ppu

/-- `cycle_count`. -/
def cycleCount : Nat := 340

/-- `scanline_count`. -/
def scanlineCount : Nat := 261

/-- `CPU_DATA_OUT`, given what the PPU data bus carries. -/
def cpuDataOut (ppu : Ppu) (port : CpuPort) (ppuDataIn : Byte) : Byte :=
  if port.rden then
    match port.addr.toNat with
    | 2 =>
      BitVec.ofBool ppu.nmi.nmiOccured ++ BitVec.ofBool ppu.sprite0Hit ++
        BitVec.ofBool ppu.eval.spriteOverflow ++ 0#5
    | 4 => ppu.cpu.oam (ppu.cpu.oamAddress.extractLsb' 2 6) (ppu.cpu.oamAddress.extractLsb' 0 2)
    | 7 => if 0x3F00 ≤ ppu.ppuAddr.toNat then ppuDataIn else ppu.access.ppuReadBuffer
    | _ => 0
  else 0

/-- `cpu_frame_palette_read`: a palette read is live during the CPU cycle that makes it. -/
def cpuFramePaletteRead (ppu : Ppu) (port : CpuPort) : Bool :=
  port.rden && port.addr.toNat == 7 && 0x3F00 ≤ ppu.ppuAddr.toNat

/-- `PPU_READ_OUT`. -/
def ppuReadOut (ppu : Ppu) (port : CpuPort) : Bool :=
  ppu.cpuFramePaletteRead port || ppu.access.ppuRead

/-- `NMI_n`. -/
def nmiN (ppu : Ppu) : Bool := !(ppu.cpu.nmiGenerate && ppu.nmi.nmiOccured)

/-! ## Cycle and scanline engine -/

/-- The cycle and scanline engine. -/
def engineNext (ppu : Ppu) (reset : Bool) : Engine :=
  let e := ppu.engine
  if reset then ⟨0, 0, 0, 0, false⟩
  else
    let lineEnd := e.nextCycle.toNat == cycleCount + ppu.extraCycle.toNat
    { e with
      nextCycle := if lineEnd then 0 else e.nextCycle + 1
      nextScanline :=
        if lineEnd then
          if e.nextScanline.toNat == scanlineCount then 0 else e.nextScanline + 1
        else e.nextScanline
      cycle := e.nextCycle
      scanline := e.nextScanline }

/-- The sprite 0 hit flag. -/
def sprite0HitNext (ppu : Ppu) (reset : Bool) : Bool :=
  if reset then false
  else if ppu.engine.cycle.toNat = 1 ∧ ppu.scanline.toNat = 261 then false
  else if ppu.setSprite0Hit then true
  else ppu.sprite0Hit

/-! ## Rendering block -/

/-- Attribute bits of one plane in the quadrant under the VRAM address. -/
def atableQuadrant (v : LoopyReg) (data : Byte) (plane : Fin 2) : Bool :=
  match v.coarseX.getLsbD 1, v.coarseY.getLsbD 1 with
  | false, false => data.getLsbD (0 + plane)
  | true, false => data.getLsbD (2 + plane)
  | false, true => data.getLsbD (4 + plane)
  | true, true => data.getLsbD (6 + plane)

/-- A shifter moved left by one, its low byte replaced when a tile is loaded. -/
def shiftIn (shifter : BitVec 16) (load : Option Byte) : BitVec 16 :=
  match load with
  | none => shifter.extractLsb' 0 15 ++ 0#1
  | some low => shifter.extractLsb' 7 8 ++ low

/-- Background fetch latches and shifters. -/
def backgroundNext (ppu : Ppu) (reset : Bool) (dataIn : Byte) : Background :=
  let b := ppu.bg
  if reset then { b with ntableByte := 0 }
  else if ppu.renderEnable && ppu.renderLine && ppu.fetchDot then
    let load := ppu.counter.toNat == 0
    let shifted : Background :=
      { b with
        ptableData := fun p =>
          shiftIn (b.ptableData p) (if load then some (b.ptableDataTemp p) else none)
        paletteData := fun p =>
          shiftIn (b.paletteData p)
            (if load then some (BitVec.fill 8 (b.atableBits p)) else none) }
    match ppu.counter.toNat with
    | 1 => { shifted with ntableByte := dataIn }
    | 3 =>
      { shifted with
        atableBits := atableQuadrant ppu.vram.activeVramAddress dataIn
        atableByte := dataIn }
    | 5 => { shifted with ptableDataTemp := Function.update b.ptableDataTemp 0 dataIn }
    | 7 => { shifted with ptableDataTemp := Function.update b.ptableDataTemp 1 dataIn }
    | _ => shifted
  else b

/-- The byte fetched for a sprite, mirrored when its attributes ask for it. -/
def flipped (horizontally : Bool) (data : Byte) : Byte :=
  if horizontally then data.reverse else data

/-- Store one byte of a sprite unit's pattern shifter. -/
def loadShifter (shifters : Fin 8 → Fin 2 → Byte) (i : Fin 8) (plane : Fin 2) (data : Byte) :
    Fin 8 → Fin 2 → Byte :=
  Function.update shifters i (Function.update (shifters i) plane data)

/-- Count down and shift the sprite units, dots 2 to 256. -/
def shiftUnits (units : SpriteUnits) : SpriteUnits :=
  { units with
    spriteXPosition := fun i =>
      if units.spriteXPosition i = 0 then 0 else units.spriteXPosition i - 1
    spriteShifters := fun i p =>
      if units.spriteXPosition i = 0 then (units.spriteShifters i p).extractLsb' 0 7 ++ 0#1
      else units.spriteShifters i p }

/-- Load the sprite unit of the fetch index, dots 257 to 320. An index past the eight
units writes nothing. -/
def fetchUnit (ppu : Ppu) (dataIn : Byte) : SpriteUnits :=
  let u := ppu.units
  if inside : ppu.eval.spriteFetchIdx.toNat < 8 then
    let i : Fin 8 := ⟨ppu.eval.spriteFetchIdx.toNat, inside⟩
    let flip := (u.spriteAttributes i).getLsbD 6
    match ppu.counter.toNat with
    | 0 =>
      { u with spriteAttributes := Function.update u.spriteAttributes i (ppu.eval.sprites i 2) }
    | 1 =>
      { u with
        spriteXPosition := Function.update u.spriteXPosition i (ppu.eval.sprites i 3)
        spriteYPosition := Function.update u.spriteYPosition i (ppu.eval.sprites i 0) }
    | 2 => { u with spriteShifters := loadShifter u.spriteShifters i 0 (flipped flip dataIn) }
    | 6 => { u with spriteShifters := loadShifter u.spriteShifters i 1 (flipped flip dataIn) }
    | _ => u
  else u

/-- The sprite units of the rendering block. -/
def unitsNext (ppu : Ppu) (reset : Bool) (dataIn : Byte) : SpriteUnits :=
  if reset then ppu.units
  else if ppu.renderEnable && ppu.renderLine then
    if 2 ≤ ppu.engine.cycle.toNat ∧ ppu.engine.cycle.toNat ≤ 256 then shiftUnits ppu.units
    else if ppu.spriteFetchDot then ppu.fetchUnit dataIn
    else ppu.units
  else ppu.units

/-- The range check of sprite evaluation, in the 32-bit unsigned arithmetic of the
source: a line above the sprite wraps to a large difference. -/
def spriteInRange (scanline : BitVec 10) (y : Byte) (size : Bool) : Bool :=
  let diff : BitVec 32 := scanline.setWidth 32 - y.setWidth 32
  0 ≤ diff ∧ diff < 8 + 8 * (BitVec.ofBool size).setWidth 32

/-- Store into secondary object memory; an index past the eight entries writes nothing. -/
def writeSprites (sprites : Fin 8 → OamEntry) (index : Nat) (byte : BitVec 2) (data : Byte) :
    Fin 8 → OamEntry :=
  fun i => if i.val = index then Function.update (sprites i) byte data else sprites i

/-- The counters cleared at dot 0 of a line. -/
def startEvaluation (e : SpriteEvaluation) : SpriteEvaluation :=
  { e with
    spriteOamIdx := 0
    spriteByteIdx := 0
    spriteCounter := 0
    spriteFetchIdx := 0
    oamClearCounter := 0
    sprite0HitPossible := false }

/-- Clear one byte of secondary object memory, dots 1 to 64. -/
def clearSprites (e : SpriteEvaluation) : SpriteEvaluation :=
  { e with
    oamClearCounter := e.oamClearCounter + 1
    sprites := writeSprites e.sprites (e.oamClearCounter.extractLsb' 2 4).toNat
      (e.oamClearCounter.extractLsb' 0 2) 0xFF }

/-- Examine one entry of object memory, dots 65 to 256. -/
def evaluateSprite (ppu : Ppu) : SpriteEvaluation :=
  let e := ppu.eval
  let entry := ppu.cpu.oam e.spriteOamIdx
  let slot := e.spriteCounter.toNat
  if slot < 8 then
    if spriteInRange ppu.scanline (entry 0) ppu.cpu.spriteSize then
      { e with
        sprites := fun i => if i.val = slot then entry else e.sprites i
        sprite0HitPossible := e.sprite0HitPossible || e.spriteOamIdx == 0
        spriteCounter := e.spriteCounter + 1
        spriteOamIdx := e.spriteOamIdx + 1 }
    else
      { e with
        sprites := writeSprites e.sprites slot 0 (entry 0)
        spriteOamIdx := e.spriteOamIdx + 1 }
  else e

/-- Sprite evaluation by dot, without the overflow flag. -/
def evaluationDot (ppu : Ppu) : SpriteEvaluation :=
  let c := ppu.engine.cycle.toNat
  if c = 0 then startEvaluation ppu.eval
  else if c ≤ 64 then clearSprites ppu.eval
  else if c ≤ 256 then ppu.evaluateSprite
  else if c ≤ 320 ∧ ppu.counter.toNat = 7 then
    { ppu.eval with spriteFetchIdx := ppu.eval.spriteFetchIdx + 1 }
  else ppu.eval

/-- Secondary object memory and the evaluation counters of the rendering block. -/
def evalNext (ppu : Ppu) (reset : Bool) : SpriteEvaluation :=
  let e := ppu.eval
  if reset then
    { e with
      oamClearCounter := 0
      spriteOamIdx := 0
      spriteByteIdx := 0
      spriteCounter := 0
      spriteFetchIdx := 0 }
  else
    let stepped : SpriteEvaluation :=
      if ppu.renderEnable && ppu.renderLine then
        { ppu.evaluationDot with
          spriteOverflow := e.spriteOverflow || e.spriteCounter.toNat == 8 }
      else e
    if ppu.scanline.toNat = 261 ∧ ppu.engine.cycle.toNat = 1 then
      { stepped with spriteOverflow := false }
    else stepped

/-! ## VRAM address handler -/

/-- One column to the right, into the next nametable after column 31. -/
def hinc (v : LoopyReg) : LoopyReg :=
  if v.coarseX.toNat = 31 then { v with coarseX := 0, nametableX := !v.nametableX }
  else { v with coarseX := v.coarseX + 1 }

/-- One pixel row down, into the next nametable after row 29. -/
def vinc (v : LoopyReg) : LoopyReg :=
  if v.fineY.toNat ≠ 7 then { v with fineY := v.fineY + 1 }
  else if v.coarseY.toNat = 29 then
    { v with fineY := 0, coarseY := 0, nametableY := !v.nametableY }
  else if v.coarseY.toNat = 31 then { v with fineY := 0, coarseY := 0 }
  else { v with fineY := 0, coarseY := v.coarseY + 1 }

/-- The horizontal fields of `t`. -/
def hcopy (v t : LoopyReg) : LoopyReg :=
  { v with nametableX := t.nametableX, coarseX := t.coarseX }

/-- The vertical fields of `t`. -/
def vcopy (v t : LoopyReg) : LoopyReg :=
  { v with fineY := t.fineY, nametableY := t.nametableY, coarseY := t.coarseY }

/-- The updates rendering asks for on this dot; the horizontal ones and the vertical
ones drive different fields. -/
def renderAddress (ppu : Ppu) : LoopyReg :=
  let v := ppu.vram.activeVramAddress
  let t := ppu.cpu.tempVramAddress
  let h := if ppu.ppuHincVramRequest then hinc v
    else if ppu.ppuHcopyVramRequest then hcopy v t
    else v
  if ppu.ppuVincVramRequest then vinc h
  else if ppu.ppuVcopyVramRequest then vcopy h t
  else h

/-- `cpu_write_request ^ ppu_write_handle`. -/
def writePending (ppu : Ppu) : Bool := ppu.cpu.cpuWriteRequest ^^ ppu.access.ppuWriteHandle

/-- `cpu_read_request ^ ppu_read_handle`. -/
def readPending (ppu : Ppu) : Bool := ppu.cpu.cpuReadRequest ^^ ppu.access.ppuReadHandle

/-- `cpu_load_vram_request ^ ppu_load_vram_handle`. -/
def loadPending (ppu : Ppu) : Bool := ppu.cpu.cpuLoadVramRequest ^^ ppu.vram.ppuLoadVramHandle

/-- `cpu_inc_vram_request ^ ppu_inc_vram_handle`. -/
def incPending (ppu : Ppu) : Bool := ppu.cpu.cpuIncVramRequest ^^ ppu.vram.ppuIncVramHandle

/-- `cpu_nmi_clear_request ^ ppu_nmi_clear_handle`. -/
def nmiClearPending (ppu : Ppu) : Bool :=
  ppu.cpu.cpuNmiClearRequest ^^ ppu.nmi.ppuNmiClearHandle

/-- The VRAM address after a CPU access: across by one or down by one row of 32. -/
def incremented (ppu : Ppu) : LoopyReg :=
  .ofBits (ppu.vram.activeVramAddress.bits + if ppu.cpu.addrIncrement then 32 else 1)

/-- The VRAM address handler. -/
def vramNext (ppu : Ppu) (reset : Bool) : VramHandler :=
  let r := ppu.vram
  if reset then ⟨.ofBits 0, false, false⟩
  else if !ppu.writePending && !ppu.readPending then
    if ppu.loadPending then
      { r with
        activeVramAddress := ppu.cpu.tempVramAddress
        ppuLoadVramHandle := !r.ppuLoadVramHandle }
    else if ppu.incPending then
      { r with
        activeVramAddress := ppu.incremented
        ppuIncVramHandle := !r.ppuIncVramHandle }
    else if ppu.renderEnable then { r with activeVramAddress := ppu.renderAddress }
    else r
  else r

/-! ## Read and write handler -/

/-- `ppu_write_request` has no driver. -/
def ppuWriteRequest : Bool := false

/-- The write half of the handler. -/
def writeHalf (ppu : Ppu) (r : AccessHandler) : AccessHandler :=
  if ppu.writePending then { r with ppuWrite := true, ppuWriteHandle := !r.ppuWriteHandle }
  else { r with ppuWrite := ppuWriteRequest }

/-- The read half of the handler: a live palette read takes its place. -/
def readHalf (ppu : Ppu) (port : CpuPort) (dataIn : Byte) (r : AccessHandler) : AccessHandler :=
  if ppu.cpuFramePaletteRead port then { r with ppuReadBuffer := dataIn }
  else
    let asked : AccessHandler :=
      if ppu.readPending then
        { r with ppuRead := true, oneAfterRead := true, ppuReadHandle := !r.ppuReadHandle }
      else if ppu.ppuReadRequest then { r with ppuRead := true, oneAfterRead := true }
      else { r with ppuRead := false }
    if r.oneAfterRead then { asked with ppuReadBuffer := dataIn, oneAfterRead := false }
    else asked

/-- The read and write handler. -/
def accessNext (ppu : Ppu) (reset enable : Bool) (port : CpuPort) (dataIn : Byte) :
    AccessHandler :=
  if reset || !enable then
    { ppu.access with
      ppuRead := false
      ppuWrite := false
      ppuWriteHandle := false
      ppuReadHandle := false
      oneAfterRead := false }
  else ppu.writeHalf (ppu.readHalf port dataIn ppu.access)

/-! ## Vertical blank and line buffers -/

/-- The vertical blank handler; its handle is not reset. -/
def nmiNext (ppu : Ppu) (reset : Bool) : NmiHandler :=
  let r := ppu.nmi
  if reset then { r with nmiOccured := false }
  else if ppu.nmiClearPending then ⟨false, !r.ppuNmiClearHandle⟩
  else if ppu.ppuNmiSetRequest then { r with nmiOccured := true }
  else if ppu.ppuNmiClearRequest then { r with nmiOccured := false }
  else r

/-- The line buffers; a dot past column 255 writes nothing. -/
def linesNext (ppu : Ppu) (reset : Bool) (renderData : Byte) : Linebuffers :=
  let r := ppu.lines
  if reset then { r with ppuLinebuffer := false }
  else
    let color : BitVec 6 :=
      if ppu.scanline.toNat < 240 then renderData.setWidth 6 else 0x28
    { linebuffer := fun buffer column =>
        if buffer = r.ppuLinebuffer ∧ column.val = ppu.engine.cycle.toNat then color
        else r.linebuffer buffer column
      ppuLinebuffer :=
        if ppu.engine.cycle.toNat = 340 then !r.ppuLinebuffer else r.ppuLinebuffer }

end Ppu

end FpgaNes
