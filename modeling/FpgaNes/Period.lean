import FpgaNes.Nes
import FpgaNes.Ppu.Loopy

/-!
# One period of the PPU clock

What the three free edges of `MCLK` and the edge of `PPU_CLK` do to the console. The
memories settle before the PPU samples its data bus, so over a whole period the
registered memory ports disappear: the bus carries the addressed cell of an abstract
memory map, and a write pulse stores into exactly one cell of it.
-/

namespace FpgaNes

open Hdl

/-! ## The abstract memory map of the PPU bus -/

/-- What the memories of the PPU bus hold. -/
@[ext]
structure PpuMemory where
  /-- The nametables. -/
  vram : Cells 11
  /-- CHR ROM. -/
  chrRom : Cells 13
  /-- CHR RAM. -/
  chrRam : Cells 13
  /-- The palette. -/
  palette : Cells 5

namespace PpuMemory

/-- The nametable cell of a bus address: 2 KiB, two pages side by side or stacked. -/
def foldVram (vertical : Bool) (addr : ℕ) : BitVec 11 :=
  BitVec.ofNat 11 (if vertical then addr % 2048 else addr / 2048 % 2 * 1024 + addr % 1024)

/-- The palette cell of a bus address: every fourth sprite entry is a background one. -/
def foldPalette (addr : ℕ) : BitVec 5 :=
  BitVec.ofNat 5 (if addr % 4 = 0 then addr % 16 else addr % 32)

/-- The byte at a bus address. -/
def read (m : PpuMemory) (header : Header) (addr : ℕ) : Byte :=
  if addr < 0x2000 then
    if header.isChrRam then m.chrRam (BitVec.ofNat 13 addr)
    else m.chrRom (BitVec.ofNat 13 addr)
  else if addr < 0x3F00 then m.vram (foldVram header.mirroringMode addr)
  else m.palette (foldPalette addr)

/-- Store a byte at a bus address; pattern tables in ROM keep their contents. -/
def write (m : PpuMemory) (header : Header) (addr : ℕ) (data : Byte) : PpuMemory :=
  if addr < 0x2000 then
    if header.isChrRam then
      { m with chrRam := Function.update m.chrRam (BitVec.ofNat 13 addr) data }
    else m
  else if addr < 0x3F00 then
    { m with vram := Function.update m.vram (foldVram header.mirroringMode addr) data }
  else { m with palette := Function.update m.palette (foldPalette addr) data }

/-- Storing the same byte twice at one address stores it once. -/
@[simp] theorem write_write (m : PpuMemory) (header : Header) (addr : ℕ) (data : Byte) :
    (m.write header addr data).write header addr data = m.write header addr data := by
  unfold write
  split
  · split <;> simp [Function.update_idem]
  · split <;> simp [Function.update_idem]

end PpuMemory

/-- The contents of the memories of the PPU bus, without their output registers. -/
def Memories.contents (m : Memories) : PpuMemory where
  vram := m.vram.mem
  chrRom := m.chrRom.mem
  chrRam := m.chrRam.mem
  palette := m.framePalette.memory

/-- The mirroring of `VRAM.sv` is the fold of the memory map. -/
theorem addrMirrored_eq_fold (mirroring : Bool) (addr : BitVec 14) :
    Vram.addrMirrored mirroring (addr.setWidth 12) =
      PpuMemory.foldVram mirroring addr.toNat := by
  apply BitVec.eq_of_toNat_eq
  have bound := addr.isLt
  cases mirroring
  · simp only [Vram.addrMirrored, PpuMemory.foldVram, Bool.false_eq_true, if_false,
      toNat_append, toNat_slice, BitVec.toNat_setWidth, BitVec.toNat_ofNat]
    omega
  · simp only [Vram.addrMirrored, PpuMemory.foldVram, if_true, toNat_slice,
      BitVec.toNat_setWidth, BitVec.toNat_ofNat]
    omega

/-- The mirroring of `FRAME_PALETTE.sv` is the fold of the memory map. -/
theorem paletteMirrored_eq_fold (addr : BitVec 14) :
    FramePalette.addrMirrored (addr.setWidth 5) = PpuMemory.foldPalette addr.toNat := by
  have short : (addr.setWidth 5).toNat = addr.toNat % 32 := BitVec.toNat_setWidth 5 addr
  have low : addr.toNat % 4 = (addr.setWidth 5).toNat % 4 ∧
      addr.toNat % 16 = (addr.setWidth 5).toNat % 16 ∧
      addr.toNat % 32 = (addr.setWidth 5).toNat := by
    omega
  clear short
  unfold PpuMemory.foldPalette
  rw [low.1, low.2.1, low.2.2]
  generalize addr.setWidth 5 = short
  revert short
  decide

namespace Nes

variable (pins : Pins) (bus : CpuBus) (cpuEdge : Bool) (nes : Nes)

/-! ## Registers over a period -/

/-- The free edges of `MCLK` leave the PPU alone. -/
@[simp] theorem settle_ppu : (nes.settle pins bus).ppu = nes.ppu := rfl

/-- The port of the CPU interface once the buses have settled. -/
def settledPort : CpuPort := (nes.settle pins bus).cpuPort pins bus

/-- The data bus of the PPU once the memories have settled. -/
def settledData : Byte := (nes.settle pins bus).ppuDataBus pins bus

/-- The CPU interface takes the port on an edge of `CPU_CLK`. -/
@[simp] theorem ppuClock_cpu :
    (nes.ppuClock pins bus cpuEdge).ppu.cpu =
      if cpuEdge then nes.ppu.cpu.next pins.reset (nes.settledPort pins bus)
      else nes.ppu.cpu := rfl

/-- The engine. -/
@[simp] theorem ppuClock_engine :
    (nes.ppuClock pins bus cpuEdge).ppu.engine = nes.ppu.engineNext pins.reset := rfl

/-- The background registers take the settled data bus. -/
@[simp] theorem ppuClock_bg :
    (nes.ppuClock pins bus cpuEdge).ppu.bg =
      nes.ppu.backgroundNext pins.reset (nes.settledData pins bus) := rfl

/-- So do the sprite units. -/
@[simp] theorem ppuClock_units :
    (nes.ppuClock pins bus cpuEdge).ppu.units =
      nes.ppu.unitsNext pins.reset (nes.settledData pins bus) := rfl

/-- The evaluation. -/
@[simp] theorem ppuClock_eval :
    (nes.ppuClock pins bus cpuEdge).ppu.eval = nes.ppu.evalNext pins.reset := rfl

/-- The handler of the VRAM address. -/
@[simp] theorem ppuClock_vram :
    (nes.ppuClock pins bus cpuEdge).ppu.vram = nes.ppu.vramNext pins.reset := rfl

/-- The handler of reads and writes. -/
@[simp] theorem ppuClock_access :
    (nes.ppuClock pins bus cpuEdge).ppu.access =
      nes.ppu.accessNext pins.reset pins.enable (nes.cpuControl bus)
        (nes.settledData pins bus) := rfl

/-- The handler of vertical blank. -/
@[simp] theorem ppuClock_nmi :
    (nes.ppuClock pins bus cpuEdge).ppu.nmi = nes.ppu.nmiNext pins.reset := rfl

/-- The sprite 0 hit. -/
@[simp] theorem ppuClock_sprite0Hit :
    (nes.ppuClock pins bus cpuEdge).ppu.sprite0Hit = nes.ppu.sprite0HitNext pins.reset := rfl

/-- The DMA moves on an edge of `CPU_CLK`. -/
@[simp] theorem ppuClock_dma :
    (nes.ppuClock pins bus cpuEdge).dma =
      if cpuEdge then (nes.settle pins bus).dmaNext pins bus else nes.dma := rfl

/-! ## Memories over a period -/

/-- A pattern table address selects its own cell of the CHR memories. -/
theorem chr_cell (addr : BitVec 14) (chr : addr.toNat < 0x2000) :
    (addr.setWidth 16).toNat < 8192 ∧
      (addr.setWidth 16).setWidth 13 = BitVec.ofNat 13 addr.toNat := by
  have inside : (addr.setWidth 16).toNat < 8192 := by
    rw [BitVec.toNat_setWidth]
    omega
  refine ⟨inside, ?_⟩
  apply BitVec.eq_of_toNat_eq
  simp only [BitVec.toNat_setWidth, BitVec.toNat_ofNat]
  omega

/-- One edge of `MCLK` stores the write buffer under a write pulse, and nothing else. -/
theorem memNext_contents (idle : pins.chrRomPrgmrWren = false) :
    (nes.memNext pins bus).contents =
      if nes.ppuWrite then
        nes.mem.contents.write pins.header nes.ppuAddrBus.toNat nes.ppu.cpu.ppuWriteBuffer
      else nes.mem.contents := by
  have bound := nes.ppuAddrBus.isLt
  cases pulse : nes.ppuWrite
  · simp [memNext, Memories.contents, Vram.clock, SyncMemory.clock, Chr.romClock, Chr.ramClock,
      FramePalette.clock, pulse, idle]
  · have data : nes.ppuDataBus pins bus = nes.ppu.cpu.ppuWriteBuffer := by
      simp [ppuDataBus, pulse]
    by_cases chr : nes.ppuAddrBus.toNat < 0x2000
    · have selected : nes.chrSelected = true ∧ nes.vramSelected = false ∧
          nes.paletteSelected = false := by
        simp only [chrSelected, vramSelected, paletteSelected, decide_eq_true_eq,
          decide_eq_false_iff_not, Bool.and_eq_false_iff]
        omega
      have cell := chr_cell nes.ppuAddrBus chr
      cases kind : pins.header.isChrRam <;>
        simp [memNext, Memories.contents, Vram.clock, SyncMemory.clock, Chr.romClock,
          Chr.ramClock, Chr.store, FramePalette.clock, PpuMemory.write, pulse, idle, data,
          selected, chr, kind, cell, -BitVec.setWidth_setWidth, -BitVec.toNat_setWidth]
    · by_cases table : nes.ppuAddrBus.toNat < 0x3F00
      · have selected : nes.chrSelected = false ∧ nes.vramSelected = true ∧
            nes.paletteSelected = false := by
          simp only [chrSelected, vramSelected, paletteSelected, decide_eq_true_eq,
            decide_eq_false_iff_not, Bool.and_eq_true]
          omega
        simp [memNext, Memories.contents, Vram.clock, SyncMemory.clock, Chr.romClock,
          Chr.ramClock, FramePalette.clock, PpuMemory.write, pulse, idle, data, selected, chr,
          table, addrMirrored_eq_fold]
      · have selected : nes.chrSelected = false ∧ nes.vramSelected = false ∧
            nes.paletteSelected = true := by
          simp only [chrSelected, vramSelected, paletteSelected, decide_eq_true_eq,
            decide_eq_false_iff_not, Bool.and_eq_false_iff]
          omega
        simp [memNext, Memories.contents, Vram.clock, SyncMemory.clock, Chr.romClock,
          Chr.ramClock, FramePalette.clock, PpuMemory.write, pulse, idle, data, selected, chr,
          table, paletteMirrored_eq_fold]

/-- After one edge of `MCLK` with a read asked for, the bus carries the addressed cell. -/
theorem mclkEdge_read (quiet : nes.ppuWrite = false) (asked : nes.ppuRead bus = true) :
    (nes.mclkEdge pins bus).ppuDataBus pins bus =
      nes.mem.contents.read pins.header nes.ppuAddrBus.toNat := by
  have bound := nes.ppuAddrBus.isLt
  have write' : (nes.mclkEdge pins bus).ppuWrite = false := quiet
  have read' : (nes.mclkEdge pins bus).ppuRead bus = true := asked
  have addr' : (nes.mclkEdge pins bus).ppuAddrBus = nes.ppuAddrBus := rfl
  rw [ppuDataBus, write', read', addr']
  by_cases chr : nes.ppuAddrBus.toNat < 0x2000
  · have low : nes.ppuAddrBus.toNat ≤ 0x1FFF := by omega
    have selected : nes.chrSelected = true := by
      simp only [chrSelected, decide_eq_true_eq]
      omega
    have cell := chr_cell nes.ppuAddrBus chr
    cases kind : pins.header.isChrRam <;>
      simp [mclkEdge, memNext, Memories.contents, Chr.romClock, Chr.ramClock, Chr.cell,
        PpuMemory.read, readEnable, quiet, asked, selected, chr, low, kind, cell,
        -BitVec.setWidth_setWidth, -BitVec.toNat_setWidth]
  · have high : ¬ nes.ppuAddrBus.toNat ≤ 0x1FFF := by omega
    by_cases table : nes.ppuAddrBus.toNat < 0x3F00
    · have selected : nes.vramSelected = true := by
        simp only [vramSelected, decide_eq_true_eq, Bool.and_eq_true]
        omega
      simp [mclkEdge, memNext, Memories.contents, Vram.clock, SyncMemory.clock,
        PpuMemory.read, readEnable, quiet, asked, selected, chr, high, table,
        addrMirrored_eq_fold]
    · have selected : nes.paletteSelected = true := by
        simp only [paletteSelected, decide_eq_true_eq]
        omega
      simp [mclkEdge, memNext, Memories.contents, FramePalette.clock, PpuMemory.read,
        readEnable, quiet, asked, selected, chr, high, table, paletteMirrored_eq_fold]

/-- One free edge of `MCLK` on the contents. -/
theorem mclkEdge_contents (idle : pins.chrRomPrgmrWren = false) :
    (nes.mclkEdge pins bus).mem.contents =
      if nes.ppuWrite then
        nes.mem.contents.write pins.header nes.ppuAddrBus.toNat nes.ppu.cpu.ppuWriteBuffer
      else nes.mem.contents :=
  memNext_contents pins bus nes idle

/-- The contents of the memories after a period: a write pulse stores one byte. -/
def stored (pins : Pins) (nes : Nes) : PpuMemory :=
  if nes.ppuWrite then
    nes.mem.contents.write pins.header nes.ppuAddrBus.toNat nes.ppu.cpu.ppuWriteBuffer
  else nes.mem.contents

/-- Settling stores what a write pulse carries, once. -/
theorem settle_contents (idle : pins.chrRomPrgmrWren = false) :
    (nes.settle pins bus).mem.contents = nes.stored pins := by
  have addr (n : Nes) : (n.mclkEdge pins bus).ppuAddrBus = n.ppuAddrBus := rfl
  have pulse (n : Nes) : (n.mclkEdge pins bus).ppuWrite = n.ppuWrite := rfl
  have buffer (n : Nes) :
      (n.mclkEdge pins bus).ppu.cpu.ppuWriteBuffer = n.ppu.cpu.ppuWriteBuffer := rfl
  simp only [settle, mclkEdge_contents _ _ _ idle, addr, pulse, buffer, stored]
  cases nes.ppuWrite <;> simp

/-- A whole period stores what a write pulse carries, once. -/
theorem ppuClock_contents (idle : pins.chrRomPrgmrWren = false) :
    (nes.ppuClock pins bus cpuEdge).mem.contents = nes.stored pins := by
  have edge : (nes.ppuClock pins bus cpuEdge).mem.contents =
      ((nes.settle pins bus).memNext pins bus).contents := rfl
  have addr : (nes.settle pins bus).ppuAddrBus = nes.ppuAddrBus := rfl
  have pulse : (nes.settle pins bus).ppuWrite = nes.ppuWrite := rfl
  rw [edge, memNext_contents _ _ _ idle, settle_contents _ _ _ idle, addr, pulse,
    settle_ppu, stored]
  cases nes.ppuWrite <;> simp

/-- The settled data bus: the write buffer, the addressed cell, or the idle value. -/
theorem settledData_eq (idle : pins.chrRomPrgmrWren = false) :
    nes.settledData pins bus =
      if nes.ppuWrite then nes.ppu.cpu.ppuWriteBuffer
      else if nes.ppuRead bus then nes.mem.contents.read pins.header nes.ppuAddrBus.toNat
      else 0xAA := by
  let twice := mclkEdge pins bus (mclkEdge pins bus nes)
  have pulse : twice.ppuWrite = nes.ppuWrite := rfl
  have asked : twice.ppuRead bus = nes.ppuRead bus := rfl
  have addr : twice.ppuAddrBus = nes.ppuAddrBus := rfl
  have last : nes.settledData pins bus = (twice.mclkEdge pins bus).ppuDataBus pins bus := rfl
  cases w : nes.ppuWrite
  · have kept : twice.mem.contents = nes.mem.contents := by
      have once : (nes.mclkEdge pins bus).ppuWrite = false := w
      simp only [twice, mclkEdge_contents _ _ _ idle, once, w, Bool.false_eq_true, if_false]
    cases r : nes.ppuRead bus
    · have write' : (twice.mclkEdge pins bus).ppuWrite = false := w
      have read' : (twice.mclkEdge pins bus).ppuRead bus = false := r
      rw [last, ppuDataBus, write', read']
      simp
    · rw [last, mclkEdge_read pins bus twice (pulse.trans w) (asked.trans r), kept, addr]
      simp
  · have write' : (twice.mclkEdge pins bus).ppuWrite = true := w
    rw [last, ppuDataBus, write']
    simp [twice, mclkEdge]

end Nes

end FpgaNes
