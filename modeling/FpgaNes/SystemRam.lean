import FpgaNes.DmaSource

/-!
# The mirrors of system RAM

`SYS_RAM.sv` has its 2048 bytes four times in `$0000-$1FFF`, on the low eleven bits of the
address. The bus multiplexer enables it up to `$0FFF`, so the last two mirrors take no write
and are an undriven bus to a read.
-/

namespace FpgaNes

open Hdl

namespace CpuBus

/-- A write of one byte of RAM, at any of the four documented addresses. -/
def stores (bus : CpuBus) (byte : ℕ) : Bool :=
  !bus.rwN && bus.addr.toNat < 0x2000 && bus.addr.toNat % 0x800 == byte

/-- What a write of RAM says about the cycle. -/
theorem stores_iff {bus : CpuBus} {byte : ℕ} :
    bus.stores byte = true ↔
      bus.rwN = false ∧ bus.addr.toNat < 0x2000 ∧ bus.addr.toNat % 0x800 = byte := by
  simp [stores, and_assoc]

end CpuBus

namespace Nes

/-- Addresses that are equal modulo `$800` select one cell. -/
theorem cell_of_mirror {left right : BitVec 16}
    (same : left.toNat % 0x800 = right.toNat % 0x800) :
    left.setWidth 11 = right.setWidth 11 := by
  apply BitVec.eq_of_toNat_eq
  rw [BitVec.toNat_setWidth, BitVec.toNat_setWidth]
  exact same

/-- RAM after any bus cycle: a transfer stores nothing in it. -/
theorem cpuClock_stored (pins : Pins) (bus : CpuBus) (nes : Nes) :
    (nes.cpuClock pins bus).mem.sysRam.mem =
      if nes.dma.dmaActive then nes.mem.sysRam.mem else storeRam bus nes.mem.sysRam.mem := by
  cases active : nes.dma.dmaActive with
  | false => exact cpuClock_ram pins bus nes active
  | true =>
    have sampled := sample_addressed pins bus nes active
    exact (memNext_addressed pins bus nes (nes.sample pins bus) active rfl sampled.ram).ram

/-- A cycle that writes a byte under none of its addresses leaves its cell alone. -/
theorem storeRam_other (bus : CpuBus) (ram : Cells 11) (addr : BitVec 16)
    (other : bus.stores (addr.toNat % 0x800) = false) :
    storeRam bus ram (addr.setWidth 11) = ram (addr.setWidth 11) := by
  rw [storeRam]
  cases writes : bus.writesRam with
  | false => rfl
  | true =>
    have apart : addr.setWidth 11 ≠ bus.addr.setWidth 11 := by
      intro same
      have cell := congrArg BitVec.toNat same
      rw [BitVec.toNat_setWidth, BitVec.toNat_setWidth] at cell
      simp only [CpuBus.writesRam, Bool.and_eq_true, Bool.not_eq_true',
        decide_eq_true_eq] at writes
      have store := CpuBus.stores_iff.mpr ⟨writes.1, by omega, cell.symm⟩
      exact Bool.false_ne_true (other.symm.trans store)
    rw [if_pos rfl, Function.update_of_ne apart]

/-- The addressed cell after a write of RAM: the decoder lets half of the range through. -/
theorem storeRam_self (bus : CpuBus) (ram : Cells 11) (write : bus.rwN = false) :
    storeRam bus ram (bus.addr.setWidth 11) =
      if bus.addr.toNat ≤ 0x0FFF then bus.dataOut else ram (bus.addr.setWidth 11) := by
  have writes : bus.writesRam = decide (bus.addr.toNat ≤ 0x0FFF) := by
    rw [CpuBus.writesRam, write]
    rfl
  rw [storeRam, writes]
  by_cases low : bus.addr.toNat ≤ 0x0FFF
  · rw [if_pos (decide_eq_true low), if_pos low, Function.update_self]
  · rw [if_neg low, decide_eq_false low, if_neg Bool.false_ne_true]

/-- A read cycle in the mirrors that the decoder leaves out finds an undriven bus. -/
theorem cpuDataBus_undriven (pins : Pins) (bus : CpuBus) (nes : Nes)
    (free : nes.dma.dmaActive = false) (reading : bus.rwN = true)
    (above : 0x0FFF < bus.addr.toNat) (mirror : bus.addr.toNat < 0x2000) :
    (nes.sample pins bus).cpuDataBus pins bus = 0xFF := by
  have outside : ppuRange bus.addr = false := by simp [ppuRange]; omega
  rw [cpuDataBus, sample_dma, free, reading, outside, if_neg Bool.false_ne_true,
    if_neg (by decide), if_neg Bool.false_ne_true, if_neg (by omega), if_neg (by omega),
    if_neg (by omega), if_neg (by omega), if_neg (by omega)]

/-- Clock `j` is the last before clock `i` in which the processor writes a byte of RAM, under
any of its addresses, with no transfer on the bus. -/
structure LastStore (io : ℕ → Input) (start : Nes) (byte j i : ℕ) : Prop where
  /-- The store is an earlier one. -/
  before : j < i
  /-- The processor has the bus. -/
  free : (cpuRun io start j).dma.dmaActive = false
  /-- It stores to the byte. -/
  store : (io j).bus.stores byte = true
  /-- No later store of the processor is to that byte. -/
  last : ∀ k, j < k → k < i → (cpuRun io start k).dma.dmaActive = false →
    (io k).bus.stores byte = false

/-- The cell of a byte is left by its last write, when the decoder let that write through. -/
theorem LastStore.cell {io : ℕ → Input} {start : Nes} {addr : BitVec 16} {j i : ℕ}
    (last : LastStore io start (addr.toNat % 0x800) j i) :
    (cpuRun io start i).ramCell addr =
      if (io j).bus.addr.toNat ≤ 0x0FFF then (io j).bus.dataOut
      else (cpuRun io start j).ramCell addr := by
  obtain ⟨write, -, byte⟩ := CpuBus.stores_iff.mp last.store
  have stored : (cpuRun io start (j + 1)).ramCell addr =
      if (io j).bus.addr.toNat ≤ 0x0FFF then (io j).bus.dataOut
      else (cpuRun io start j).ramCell addr := by
    have clock := cpuClock_stored (io j).pins (io j).bus (cpuRun io start j)
    rw [last.free, if_neg Bool.false_ne_true] at clock
    rw [ramCell, cpuRun_succ, clock, ramCell, cell_of_mirror byte.symm]
    exact storeRam_self (io j).bus (cpuRun io start j).mem.sysRam.mem write
  rw [← stored]
  apply trace_held (fun nes : Nes => nes.ramCell addr) (j + 1) i last.before
  intro k after below
  have clock := cpuClock_stored (io k).pins (io k).bus (cpuRun io start k)
  show ((cpuRun io start k).cpuClock (io k).pins (io k).bus).ramCell addr = _
  rw [ramCell, clock]
  cases active : (cpuRun io start k).dma.dmaActive with
  | true => rfl
  | false =>
    exact storeRam_other (io k).bus (cpuRun io start k).mem.sysRam.mem addr
      (last.last k after below active)

/-- Over every run a read of RAM returns the byte last written to it exactly when the decoder
lets the read through and the write too, or the cell held that byte before the write, or the
read finds an undriven bus and the byte is `$FF`. No cycle at another address and no transfer
changes RAM. -/
theorem systemRam_iff (io : ℕ → Input) (start : Nes) :
    (∀ j i, (cpuRun io start i).dma.dmaActive = false → (io i).bus.rwN = true →
      (io i).bus.addr.toNat < 0x2000 →
      LastStore io start ((io i).bus.addr.toNat % 0x800) j i →
      (((cpuRun io start i).sample (io i).pins (io i).bus).cpuDataBus (io i).pins (io i).bus =
          (io j).bus.dataOut ↔
        if (io i).bus.addr.toNat ≤ 0x0FFF then
          (io j).bus.addr.toNat ≤ 0x0FFF ∨
            (cpuRun io start j).ramCell (io i).bus.addr = (io j).bus.dataOut
        else (io j).bus.dataOut = 0xFF)) ∧
    ∀ t, (cpuRun io start t).dma.dmaActive = true ∨ 0x2000 ≤ (io t).bus.addr.toNat →
      (cpuRun io start (t + 1)).mem.sysRam.mem = (cpuRun io start t).mem.sysRam.mem := by
  refine ⟨fun j i free reading inside last => ?_, fun t elsewhere => ?_⟩
  · by_cases low : (io i).bus.addr.toNat ≤ 0x0FFF
    · rw [cpuDataBus_ram (io i).pins (io i).bus (cpuRun io start i) free reading low,
        last.cell, if_pos low]
      by_cases through : (io j).bus.addr.toNat ≤ 0x0FFF
      · simp only [through, true_or, if_true]
      · simp only [through, false_or, if_false]
    · rw [cpuDataBus_undriven (io i).pins (io i).bus (cpuRun io start i) free reading
        (Nat.lt_of_not_le low) inside, if_neg low]
      exact eq_comm
  · have clock := cpuClock_stored (io t).pins (io t).bus (cpuRun io start t)
    rw [cpuRun_succ, clock]
    rcases elsewhere with active | above
    · rw [active, if_pos rfl]
    · have quiet : (io t).bus.writesRam = false := by
        simp only [CpuBus.writesRam, Bool.and_eq_false_iff, decide_eq_false_iff_not]
        exact Or.inr (by omega)
      rw [storeRam, quiet, if_neg Bool.false_ne_true, ite_self]

/-- A write of one address, then reads of another. -/
def writeRead (written read : BitVec 16) (data : Byte) : ℕ → Input
  | 0 => .write written data
  | _ => .read read

/-- The write is the last one before the first read. -/
theorem writeRead_last (written read : BitVec 16) (data : Byte) (inside : written.toNat < 0x2000) :
    LastStore (writeRead written read data) (powerUp .blank) (written.toNat % 0x800) 0 1 :=
  ⟨by decide, rfl, CpuBus.stores_iff.mpr ⟨rfl, inside, rfl⟩, fun k after below => by omega⟩

/-- A byte written at `$0005` is read at `$0805`. -/
theorem lowMirror_read :
    let now := cpuRun (writeRead 0x0005 0x0805 0x07) (powerUp .blank) 1
    (now.sample .playing (.fetch 0x0805)).cpuDataBus .playing (.fetch 0x0805) = 0x07 := by
  have law := systemRam_iff (writeRead 0x0005 0x0805 0x07) (powerUp .blank)
  have last := writeRead_last 0x0005 0x0805 0x07 (by decide)
  exact (law.1 0 1 rfl rfl (by decide) last).mpr (Or.inl (by decide))

/-- A byte written at `$0005` is not read at `$1005`, and one written at `$1005` is not read at
`$0005`. -/
theorem highMirror_unread :
    let first := writeRead 0x0005 0x1005 0x07
    let second := writeRead 0x1005 0x0005 0x07
    LastStore first (powerUp .blank) 0x005 0 1 ∧ LastStore second (powerUp .blank) 0x005 0 1 ∧
      ((cpuRun first (powerUp .blank) 1).sample .playing (.fetch 0x1005)).cpuDataBus
        .playing (.fetch 0x1005) = 0xFF ∧
      ((cpuRun second (powerUp .blank) 1).sample .playing (.fetch 0x0005)).cpuDataBus
        .playing (.fetch 0x0005) = 0x00 :=
  ⟨writeRead_last 0x0005 0x1005 0x07 (by decide), writeRead_last 0x1005 0x0005 0x07 (by decide),
    by decide +kernel⟩

end Nes

end FpgaNes
