import FpgaNes.ObjectMemory

/-!
# The source of the DMA

The bus multiplexer decodes an address twice: for the processor, and for the DMA state
machine. The second branch has RAM in it and nothing else, so the bytes of a page of ROM
that a transfer presents are those of the RAM cells with the same low eleven bits.
-/

namespace FpgaNes

open Hdl

/-- The bus cycle that reads an address. -/
def CpuBus.fetch (addr : BitVec 16) : CpuBus := ⟨addr, 0, true⟩

namespace Nes

variable {pins : Pins} {bus : CpuBus} {nes : Nes}

/-- The console with the bus given back to the processor. -/
def released (nes : Nes) : Nes := { nes with dma := { nes.dma with dmaActive := false } }

/-- The byte a CPU read of an address puts on `CPU_DATA_BUS`. -/
def cpuReads (pins : Pins) (addr : BitVec 16) (nes : Nes) : Byte :=
  (nes.released.sample pins (.fetch addr)).cpuDataBus pins (.fetch addr)

/-- PRG ROM with the byte the programmer is storing. -/
def programmedRom (pins : Pins) (rom : Cells 15) : Cells 15 :=
  if pins.prgRomPrgmrWren then
    Function.update rom (pins.romPrgmrAddr.setWidth 15) pins.romPrgmrData
  else rom

/-- The RAM cell of an address. -/
def ramCell (nes : Nes) (addr : BitVec 16) : Byte := nes.mem.sysRam.mem (addr.setWidth 11)

/-- The PRG ROM cell of an address. -/
def romCell (pins : Pins) (nes : Nes) (addr : BitVec 16) : Byte :=
  programmedRom pins nes.mem.prgRom.mem (addr.setWidth 15)

/-- Where RAM is what the processor reads: in `$0000-$0FFF`, on the undriven bus of
`$1000-$1FFF` when the cell is `$FF`, and in ROM when the two cells are equal. -/
def RamAnswers (pins : Pins) (nes : Nes) (addr : BitVec 16) : Prop :=
  addr.toNat ≤ 0x0FFF ∨
    (addr.toNat ≤ 0x1FFF ∧ nes.ramCell addr = 0xFF) ∨
    (0x4100 ≤ addr.toNat ∧ nes.romCell pins addr = nes.ramCell addr)

/-! ## The processor's side -/

/-- A read cycle in the decoded range of RAM returns the addressed cell. -/
theorem cpuDataBus_ram (pins : Pins) (bus : CpuBus) (nes : Nes)
    (free : nes.dma.dmaActive = false) (reading : bus.rwN = true)
    (ram : bus.addr.toNat ≤ 0x0FFF) :
    (nes.sample pins bus).cpuDataBus pins bus = nes.ramCell bus.addr := by
  have outside : ppuRange bus.addr = false := by simp [ppuRange]; omega
  have edge (n : Nes) (dma : n.dma = nes.dma) (same : n.mem.sysRam.mem = nes.mem.sysRam.mem) :
      (n.memNext pins bus).sysRam = ⟨nes.mem.sysRam.mem, nes.ramCell bus.addr⟩ := by
    have wren : n.sysramWren bus = false := by simp [sysramWren, reading]
    have rden : n.sysramRden bus = true := by simp [sysramRden, reading, ram]
    have here : n.cpuAddrBus bus = bus.addr := by simp [cpuAddrBus, dma, free]
    show n.mem.sysRam.clock ((n.cpuAddrBus bus).setWidth 11) _ _ _ = _
    rw [wren, rden, here, SyncMemory.clock, same]
    rfl
  obtain ⟨n, dma, same, sampled⟩ := sample_last pins bus nes
    (fun mem => mem.sysRam.mem = nes.mem.sysRam.mem) (by rw [edge nes rfl rfl])
    fun n dma same => by rw [edge n dma same]
  have data : (nes.sample pins bus).cpuDataBus pins bus =
      (nes.sample pins bus).mem.sysRam.dataOut := by
    rw [cpuDataBus, sample_dma, free, reading, outside, if_neg Bool.false_ne_true,
      if_neg (by decide), if_neg Bool.false_ne_true, if_neg (by omega), if_neg (by omega),
      if_neg (by omega), if_neg (by omega), if_pos ram]
  rw [data, sampled, edge n dma same]

/-- The bus is the processor's until the end of the cycle. -/
theorem cpuReads_eq (pins : Pins) (addr : BitVec 16) (nes : Nes)
    (outside : ppuRange addr = false) (port : addr.toNat ≤ 0x0FFF ∨ addr.toNat ≤ 0x1FFF ∨
      0x4100 ≤ addr.toNat) :
    nes.cpuReads pins addr =
      if 0x4100 ≤ addr.toNat then
        (nes.released.sample pins (.fetch addr)).mem.prgRom.dataOut
      else if addr.toNat ≤ 0x0FFF then
        (nes.released.sample pins (.fetch addr)).mem.sysRam.dataOut
      else 0xFF := by
  have free : (nes.released.sample pins (.fetch addr)).dma.dmaActive = false := rfl
  have one : addr.toNat ≠ 0x4016 := by omega
  have two : addr.toNat ≠ 0x4017 := by omega
  have status : addr.toNat ≠ 0x4015 := by omega
  rw [cpuReads, cpuDataBus, free]
  simp only [CpuBus.fetch, outside, one, two, status, Bool.not_true, Bool.false_eq_true, if_false]
  by_cases rom : 0x4100 ≤ addr.toNat
  · rw [if_pos rom, if_pos (by omega)]
  · rw [if_neg rom, if_neg (by omega)]
    rfl

/-- A CPU read of RAM returns the addressed cell. -/
theorem cpuReads_ram (pins : Pins) (addr : BitVec 16) (nes : Nes) (ram : addr.toNat ≤ 0x0FFF) :
    nes.cpuReads pins addr = nes.ramCell addr :=
  cpuDataBus_ram pins (.fetch addr) nes.released rfl rfl ram

/-- A CPU read of ROM returns the addressed cell. -/
theorem cpuReads_rom (pins : Pins) (addr : BitVec 16) (nes : Nes) (rom : 0x4100 ≤ addr.toNat) :
    nes.cpuReads pins addr = nes.romCell pins addr := by
  have outside : ppuRange addr = false := by simp [ppuRange]; omega
  let cells := programmedRom pins nes.mem.prgRom.mem
  have again : programmedRom pins cells = cells := by
    cases storing : pins.prgRomPrgmrWren <;>
      simp [cells, programmedRom, storing, Function.update_idem]
  have edge (n : Nes) (dma : n.dma = nes.released.dma) (same : n.mem.prgRom.mem = cells) :
      (n.memNext pins (.fetch addr)).prgRom = ⟨cells, nes.romCell pins addr⟩ := by
    have above : 0x4020 ≤ addr.toNat := by omega
    have rden : n.prgRomRden (.fetch addr) = true := by
      simp [prgRomRden, dma, released, CpuBus.fetch, above]
    have here : n.cpuAddrBus (.fetch addr) = addr := by rw [cpuAddrBus, dma]; rfl
    have stored : (n.memNext pins (.fetch addr)).prgRom.mem = cells := by
      show programmedRom pins n.mem.prgRom.mem = cells
      rw [same, again]
    have out : (n.memNext pins (.fetch addr)).prgRom.dataOut = nes.romCell pins addr := by
      show (if n.prgRomRden (.fetch addr) then
        n.mem.prgRom.mem ((n.cpuAddrBus (.fetch addr)).setWidth 15) else _) = _
      rw [rden, here, same]
      rfl
    rw [← stored, ← out]
  obtain ⟨n, dma, same, sampled⟩ := sample_last pins (.fetch addr) nes.released
    (fun mem => mem.prgRom.mem = cells) rfl fun n dma same => by rw [edge n dma same]
  rw [cpuReads_eq pins addr nes outside (Or.inr (Or.inr rom)), if_pos rom, sampled,
    edge n dma same]

/-! ## The transfer -/

/-- The byte a DMA cycle presents is the addressed RAM cell. -/
theorem dma_presents (pins : Pins) (bus : CpuBus) (nes : Nes)
    (active : nes.dma.dmaActive = true) :
    (nes.sample pins bus).cpuDataBus pins bus = nes.dmaCell := by
  have out := congrArg SyncMemory.dataOut (sample_addressed pins bus nes active)
  rw [cpuDataBus, sample_dma, active]
  exact out

/-- RAM answers at an address exactly when the processor reads the same byte there. -/
theorem ramAnswers_iff (pins : Pins) (addr : BitVec 16) (nes : Nes)
    (memory : addr.toNat ≤ 0x1FFF ∨ 0x4100 ≤ addr.toNat) :
    nes.ramCell addr = nes.cpuReads pins addr ↔ RamAnswers pins nes addr := by
  unfold RamAnswers
  by_cases rom : 0x4100 ≤ addr.toNat
  · have low : ¬ addr.toNat ≤ 0x0FFF ∧ ¬ addr.toNat ≤ 0x1FFF := by omega
    rw [cpuReads_rom pins addr nes rom]
    simp only [low, rom, false_and, false_or, true_and]
    exact eq_comm
  · have mirror : addr.toNat ≤ 0x1FFF := by omega
    by_cases ram : addr.toNat ≤ 0x0FFF
    · simp only [cpuReads_ram pins addr nes ram, ram, true_or]
    · have outside : ppuRange addr = false := by simp [ppuRange]; omega
      rw [cpuReads_eq pins addr nes outside (Or.inr (Or.inl mirror)), if_neg rom, if_neg ram]
      simp only [ram, mirror, rom, false_and, false_or, true_and, or_false]

/-- A DMA state machine at rest has the first byte of a page next. -/
def DmaRest (nes : Nes) : Prop := nes.dma.dmaActive = false → nes.dma.dmaAddrLow = 0

/-- Each edge keeps it so. -/
theorem dmaNext_rest (pins : Pins) (bus : CpuBus) (nes : Nes) (rest : nes.DmaRest)
    (idle : (nes.dmaNext pins bus).dmaActive = false) :
    (nes.dmaNext pins bus).dmaAddrLow = 0 := by
  simp only [dmaNext] at idle ⊢
  split at idle
  · cases idle
  · split at idle
    · next starts active =>
      rw [if_neg starts, if_pos active]
      split at idle
      · next last => rw [if_pos last]
      · exact absurd (active.symm.trans idle) (by decide)
    · next starts active =>
      rw [if_neg starts, if_neg active]
      exact rest idle

/-- It holds over every run from power-up. -/
theorem cpuRun_dmaRest (io : ℕ → Input) (mem : Memories) (t : ℕ) :
    (cpuRun io (powerUp mem) t).DmaRest := by
  apply trace_invariant (fun _ (nes : Nes) => nes.DmaRest) (fun _ => rfl) t
  intro i _ before
  exact dmaNext_rest (io i).pins (io i).bus
    ((cpuRun io (powerUp mem) i).sample (io i).pins (io i).bus) before

/-- The DMA address is inside the page. -/
theorem dmaAddr_toNat (page : Byte) (k : ℕ) (inside : k < 256) :
    (page ++ BitVec.ofNat 8 k).toNat = 256 * page.toNat + k := by
  rw [toNat_append, BitVec.toNat_ofNat]
  omega

/-- An edge inside a transfer moves to the next byte, unless the DMA address is `$4014`. -/
theorem cpuClock_dmaNext (pins : Pins) (bus : CpuBus) (nes : Nes) (page : Byte) (k : ℕ)
    (more : k < 255) (elsewhere : page ≠ 0x40) (dma : nes.dma = ⟨true, page, BitVec.ofNat 8 k⟩) :
    (nes.cpuClock pins bus).dma = ⟨true, page, BitVec.ofNat 8 (k + 1)⟩ := by
  have number : page.toNat ≠ 0x40 := fun same => elsewhere (BitVec.eq_of_toNat_eq same)
  have addr : ((nes.sample pins bus).cpuAddrBus bus).toNat = 256 * page.toNat + k := by
    rw [cpuAddrBus, sample_dma, dma]
    exact dmaAddr_toNat page k (by omega)
  have port : (((nes.sample pins bus).cpuAddrBus bus).toNat == 0x4014) = false := by
    rw [addr, beq_eq_false_iff_ne]
    omega
  have low : (BitVec.ofNat 8 k).toNat ≠ 255 := by
    rw [BitVec.toNat_ofNat]
    omega
  rw [cpuClock_dma, dmaNext, port, Bool.and_false, if_neg Bool.false_ne_true, sample_dma, dma,
    if_pos rfl, if_neg low, BitVec.ofNat_add]
  rfl

/-- A transfer from a page other than `$40` presents its bytes in order, one in each cycle. -/
theorem cpuRun_transfer (io : ℕ → Input) (mem : Memories) (t k : ℕ)
    (free : (cpuRun io (powerUp mem) t).dma.dmaActive = false)
    (starts : (io t).bus.startsDma = true) (elsewhere : (io t).bus.dataOut ≠ 0x40)
    (inside : k < 256) :
    (cpuRun io (powerUp mem) (t + 1 + k)).dma =
      ⟨true, (io t).bus.dataOut, BitVec.ofNat 8 k⟩ := by
  induction k with
  | zero =>
    have rest := cpuRun_dmaRest io mem t free
    show ((cpuRun io (powerUp mem) t).cpuClock (io t).pins (io t).bus).dma = _
    rw [cpuClock_latches free starts, rest]
    rfl
  | succ k ih =>
    have before := ih (by omega)
    exact cpuClock_dmaNext _ _ _ _ k (by omega) elsewhere before

/-- A transfer from a page of memory presents in its cycle `k` the byte a CPU read of offset `k`
returns, exactly where RAM answers, and stores the presented byte. -/
theorem dmaSource_iff (io : ℕ → Input) (mem : Memories) (t k : ℕ)
    (free : (cpuRun io (powerUp mem) t).dma.dmaActive = false)
    (starts : (io t).bus.startsDma = true)
    (page : (io t).bus.dataOut.toNat ≤ 0x1F ∨ 0x41 ≤ (io t).bus.dataOut.toNat)
    (inside : k < 256) :
    let now := cpuRun io (powerUp mem) (t + 1 + k)
    let after := cpuRun io (powerUp mem) (t + 1 + k + 1)
    let input := io (t + 1 + k)
    let addr := BitVec.ofNat 16 (256 * (io t).bus.dataOut.toNat + k)
    let byte := (now.sample input.pins input.bus).cpuDataBus input.pins input.bus
    now.dma = ⟨true, (io t).bus.dataOut, BitVec.ofNat 8 k⟩ ∧
      (input.pins.reset = false →
        oamByte after.ppu.cpu.oam (BitVec.ofNat 8 k + now.ppu.cpu.oamAddress) = byte) ∧
      (byte = now.cpuReads input.pins addr ↔ RamAnswers input.pins now addr) := by
  intro now after input addr byte
  have elsewhere : (io t).bus.dataOut ≠ 0x40 := by
    intro same
    rw [same] at page
    revert page
    decide
  have dma : now.dma = ⟨true, (io t).bus.dataOut, BitVec.ofNat 8 k⟩ :=
    cpuRun_transfer io mem t k free starts elsewhere inside
  have active : now.dma.dmaActive = true := by rw [dma]
  have bound := (io t).bus.dataOut.isLt
  have value : addr.toNat = 256 * (io t).bus.dataOut.toNat + k := by
    rw [BitVec.toNat_ofNat]
    omega
  have here : (io t).bus.dataOut ++ BitVec.ofNat 8 k = addr := by
    apply BitVec.eq_of_toNat_eq
    rw [dmaAddr_toNat _ k inside, value]
  have presented : byte = now.ramCell addr := by
    show (now.sample input.pins input.bus).cpuDataBus input.pins input.bus = _
    rw [dma_presents input.pins input.bus now active, dmaCell, dma, here]
    rfl
  refine ⟨dma, fun released => ?_, ?_⟩
  · have write : ((now.sample input.pins input.bus).cpuPort input.pins input.bus).dmaWrite = true :=
      active
    have stored : after.ppu.cpu = { now.ppu.cpu with
        oam := writeOam now.ppu.cpu.oam (now.dma.dmaAddrLow + now.ppu.cpu.oamAddress) byte } := by
      show (now.cpuClock input.pins input.bus).ppu.cpu = _
      rw [cpuClock_cpu, CpuInterface.next, released, write]
      rfl
    rw [stored, dma, oamByte_writeOam, Function.update_self]
  · rw [presented]
    exact ramAnswers_iff input.pins addr now (by omega)

/-- A game whose ROM holds `$EA` everywhere, with RAM cleared. -/
def loadedGame : Memories := { Memories.blank with prgRom := ⟨fun _ => 0xEA, 0⟩ }

/-- A write of a page to `$4014`, then reads. -/
def pageWrite (page : Byte) : ℕ → Input
  | 0 => .write 0x4014 page
  | _ => .read 0x8000

/-- A transfer from page 2 presents and stores what the processor reads there. -/
theorem ramPage_presented :
    let now := cpuRun (pageWrite 0x02) (powerUp loadedGame) (0 + 1 + 7)
    (now.sample .playing (.fetch 0x8000)).cpuDataBus .playing (.fetch 0x8000) =
      now.cpuReads .playing 0x0207 := by
  have source := dmaSource_iff (pageWrite 0x02) loadedGame 0 7 rfl rfl (Or.inl (by decide))
    (by decide)
  exact source.2.2.mpr (Or.inl (by decide))

/-- A transfer from page `$80` presents RAM where the processor reads ROM. -/
theorem romPage_not_presented :
    let now := cpuRun (pageWrite 0x80) (powerUp loadedGame) 1
    (now.sample .playing (.fetch 0x8000)).cpuDataBus .playing (.fetch 0x8000) = 0x00 ∧
      now.cpuReads .playing 0x8000 = 0xEA := by
  decide +kernel

end Nes

end FpgaNes
