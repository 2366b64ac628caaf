import FpgaNes.SystemRam
import FpgaNes.Mos6502.Run

/-!
# The memory of a program

RAM and ROM as the processor finds them on the CPU bus. Every other address is a device, or an
undriven bus.
-/

namespace FpgaNes

open Mos6502 (Word Memory)

namespace Nes

/-- The addresses whose reads are answered by the PPU, the APU and the controllers. -/
def cpuDevice (addr : Word) : Bool :=
  ppuRange addr || addr == 0x4015 || addr == 0x4016 || addr == 0x4017

/-- RAM and ROM on the CPU bus: RAM is decoded up to `$0FFF` and ROM from `$4020` on. -/
def cpuMemory : Memory (Cells 11 × Cells 15) where
  load cells addr :=
    if addr.toNat ≤ 0x0FFF then cells.1 (addr.setWidth 11)
    else if 0x4020 ≤ addr.toNat then cells.2 (addr.setWidth 15)
    else 0xFF
  store cells addr data :=
    (if addr.toNat ≤ 0x0FFF then Function.update cells.1 (addr.setWidth 11) data else cells.1,
      cells.2)

/-- A read of ROM, whatever the devices answer. -/
theorem cpuMemory_load_rom (answer : Word → Byte) (cells : Cells 11 × Cells 15) {addr : Word}
    (alone : cpuDevice addr = false) (rom : 0x4020 ≤ addr.toNat) :
    (cpuMemory.answering cpuDevice answer).load cells addr = cells.2 (addr.setWidth 15) := by
  show (if cpuDevice addr then answer addr else cpuMemory.load cells addr) = _
  rw [alone, if_neg Bool.false_ne_true]
  exact (if_neg (by omega)).trans (if_pos rom)

/-- The cells of RAM and ROM. -/
def cells (nes : Nes) : Cells 11 × Cells 15 := (nes.mem.sysRam.mem, nes.mem.prgRom.mem)

variable {pins : Pins}

/-- An edge of `MCLK` stores nothing in ROM while the programmer is idle. -/
theorem memNext_rom (bus : CpuBus) (nes : Nes) (idle : pins.prgRomPrgmrWren = false) :
    (nes.memNext pins bus).prgRom.mem = nes.mem.prgRom.mem := by
  show (if pins.prgRomPrgmrWren then _ else nes.mem.prgRom.mem) = _
  rw [idle]
  rfl

/-- ROM keeps its cells over a bus cycle while the programmer is idle. -/
theorem sample_rom (bus : CpuBus) (nes : Nes) (idle : pins.prgRomPrgmrWren = false) :
    (nes.sample pins bus).mem.prgRom.mem = nes.mem.prgRom.mem := by
  obtain ⟨n, -, same, sampled⟩ := sample_last pins bus nes
    (fun mem => mem.prgRom.mem = nes.mem.prgRom.mem) (memNext_rom bus nes idle)
    fun n _ same => (memNext_rom bus n idle).trans same
  rw [sampled, memNext_rom bus n idle, same]

/-- The cells after a bus cycle: only a write cycle of the processor changes one. -/
theorem cpuClock_cells (bus : CpuBus) (nes : Nes) (idle : pins.prgRomPrgmrWren = false) :
    (nes.cpuClock pins bus).cells =
      if nes.dma.dmaActive || bus.rwN then nes.cells
      else cpuMemory.store nes.cells bus.addr bus.dataOut := by
  have rom : (nes.cpuClock pins bus).mem.prgRom.mem = nes.mem.prgRom.mem :=
    (memNext_rom bus (nes.sample pins bus) idle).trans (sample_rom bus nes idle)
  rw [cells, rom, cpuClock_stored, storeRam, CpuBus.writesRam]
  cases nes.dma.dmaActive <;> cases bus.rwN <;>
    simp only [Bool.or_false, Bool.or_true, Bool.not_true, Bool.not_false, Bool.false_and,
      Bool.true_and, Bool.false_eq_true, if_true, if_false, decide_eq_true_eq] <;> rfl

/-- A read cycle in the range of ROM returns the addressed cell. -/
theorem cpuDataBus_rom (bus : CpuBus) (nes : Nes) (idle : pins.prgRomPrgmrWren = false)
    (free : nes.dma.dmaActive = false) (reading : bus.rwN = true)
    (rom : 0x4020 ≤ bus.addr.toNat) :
    (nes.sample pins bus).cpuDataBus pins bus = nes.mem.prgRom.mem (bus.addr.setWidth 15) := by
  have outside : ppuRange bus.addr = false := by
    simp [ppuRange]
    omega
  obtain ⟨n, dma, same, sampled⟩ := sample_last pins bus nes
    (fun mem => mem.prgRom.mem = nes.mem.prgRom.mem) (memNext_rom bus nes idle)
    fun n _ same => (memNext_rom bus n idle).trans same
  have rden : n.prgRomRden bus = true := by
    simp [prgRomRden, dma, free, reading, rom]
  have here : n.cpuAddrBus bus = bus.addr := by
    rw [cpuAddrBus, dma, free]
    rfl
  have out : (n.memNext pins bus).prgRom.dataOut = n.mem.prgRom.mem (bus.addr.setWidth 15) := by
    show (if n.prgRomRden bus then n.mem.prgRom.mem ((n.cpuAddrBus bus).setWidth 15) else _) = _
    rw [rden, here]
    rfl
  rw [cpuDataBus, sample_dma, free, reading, outside, if_neg Bool.false_ne_true,
    if_neg (by decide), if_neg Bool.false_ne_true, if_neg (by omega), if_neg (by omega),
    if_pos rom, sampled, out, same]

/-- A read cycle that no device answers finds what the memory holds. -/
theorem cpuDataBus_load (bus : CpuBus) (nes : Nes) (idle : pins.prgRomPrgmrWren = false)
    (free : nes.dma.dmaActive = false) (reading : bus.rwN = true)
    (alone : cpuDevice bus.addr = false) :
    (nes.sample pins bus).cpuDataBus pins bus = cpuMemory.load nes.cells bus.addr := by
  by_cases ram : bus.addr.toNat ≤ 0x0FFF
  · rw [cpuDataBus_ram pins bus nes free reading ram]
    exact (if_pos ram).symm
  · by_cases rom : 0x4020 ≤ bus.addr.toNat
    · rw [cpuDataBus_rom bus nes idle free reading rom]
      exact ((if_neg ram).trans (if_pos rom)).symm
    · have open' : cpuMemory.load nes.cells bus.addr = 0xFF := (if_neg ram).trans (if_neg rom)
      rw [cpuDevice, Bool.or_eq_false_iff, Bool.or_eq_false_iff, Bool.or_eq_false_iff,
        beq_eq_false_iff_ne, beq_eq_false_iff_ne, beq_eq_false_iff_ne] at alone
      obtain ⟨⟨⟨outside, status⟩, one⟩, two⟩ := alone
      have status' : bus.addr.toNat ≠ 0x4015 := fun same => status (BitVec.eq_of_toNat_eq same)
      have one' : bus.addr.toNat ≠ 0x4016 := fun same => one (BitVec.eq_of_toNat_eq same)
      have two' : bus.addr.toNat ≠ 0x4017 := fun same => two (BitVec.eq_of_toNat_eq same)
      rw [cpuDataBus, sample_dma, free, reading, outside, if_neg Bool.false_ne_true,
        if_neg (by decide), if_neg Bool.false_ne_true, if_neg one', if_neg two', if_neg rom,
        if_neg status', if_neg ram, open']

end Nes

end FpgaNes
