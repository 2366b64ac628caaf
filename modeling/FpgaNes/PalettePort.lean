import FpgaNes.MemoryPort

/-!
# The palette through the memory port

A read of `$2007` in the palette is served from the bus during its own cycle. While it is live
it holds up the read handler, but nothing else: the write pulse, the load and the increment of
the cycle before go on under it. As long as no read follows a read at once, the memories and the
address are those of the abstract port for accesses at all addresses and in any order; only its
read buffer is not.
-/

namespace FpgaNes

open Hdl

namespace MemoryPort

variable (header : Header) (bus : CpuBus) (port : MemoryPort)

/-- The address is in the palette. -/
def inPalette : Bool := 0x3F00 ≤ port.addr

/-- A write of `$2007` to a palette cell. -/
def writesCell (cell : BitVec 5) : Bool :=
  bus.writes 7 && port.inPalette && PpuMemory.foldPalette port.addr == cell

/-- A palette cell keeps its byte over every bus cycle but a write to it. -/
theorem cycle_palette (cell : BitVec 5) :
    (port.cycle header bus).mem.palette cell =
      if port.writesCell bus cell then bus.dataOut else port.mem.palette cell := by
  rw [cycle, writesCell, inPalette]
  cases written : bus.writes 7 with
  | false =>
    cases bus.reads 7 with
    | false => rfl
    | true => rfl
  | true =>
    rw [if_pos rfl, Bool.true_and]
    change (port.mem.write header port.addr bus.dataOut).palette cell = _
    rw [PpuMemory.write]
    by_cases chr : port.addr < 0x2000
    · have low : ¬ 0x3F00 ≤ port.addr := by omega
      rw [if_pos chr, decide_eq_false low]
      cases header.isChrRam with
      | true => rfl
      | false => rfl
    · by_cases table : port.addr < 0x3F00
      · have low : ¬ 0x3F00 ≤ port.addr := by omega
        rw [if_neg chr, if_pos table, decide_eq_false low]
        rfl
      · have high : 0x3F00 ≤ port.addr := by omega
        rw [if_neg chr, if_neg table, decide_eq_true high, Bool.true_and]
        dsimp only
        rw [Function.update_apply]
        by_cases same : cell = PpuMemory.foldPalette port.addr
        · rw [if_pos same, if_pos (beq_iff_eq.mpr same.symm)]
        · have apart : ¬ (PpuMemory.foldPalette port.addr == cell) = true :=
            fun equal => same (beq_iff_eq.mp equal).symm
          rw [if_neg same, if_neg apart]

/-- A write of `$2007` in the palette changes nothing but its cell. -/
theorem cycle_mem_of_palette (written : bus.writes 7 = true) (inside : port.inPalette = true) :
    (port.cycle header bus).mem =
      { port.mem with
        palette := Function.update port.mem.palette (PpuMemory.foldPalette port.addr)
          bus.dataOut } := by
  have high : 0x3F00 ≤ port.addr := of_decide_eq_true inside
  rw [cycle, if_pos written]
  change port.mem.write header port.addr bus.dataOut = _
  rw [PpuMemory.write, if_neg (by omega), if_neg (by omega)]

/-- An access of `$2007` advances the address by one increment. -/
theorem cycle_v_of_access (access : bus.accessesData = true) :
    (port.cycle header bus).scroll.v = port.scroll.v + if port.down then 32 else 1 := by
  rw [CpuBus.accessesData] at access
  rw [cycle]
  cases written : bus.writes 7 with
  | true => rfl
  | false =>
    rw [written, Bool.false_or] at access
    rw [access]
    rfl

/-- A palette cell holds the byte of the last write to it. -/
theorem run_lastWrite (io : ℕ → Input) (start : MemoryPort) {cell : BitVec 5} {i n : ℕ}
    (before : i < n) (written : (run header io start i).writesCell (io i).bus cell = true)
    (last : ∀ j, i < j → j < n → (run header io start j).writesCell (io j).bus cell = false) :
    (run header io start n).mem.palette cell = (io i).bus.dataOut := by
  have taken : (run header io start (i + 1)).mem.palette cell = (io i).bus.dataOut := by
    apply (cycle_palette header (io i).bus (run header io start i) cell).trans
    rw [written, if_pos rfl]
  rw [← taken]
  apply trace_held (fun port : MemoryPort => port.mem.palette cell) (i + 1) n before
  intro j after below
  apply (cycle_palette header (io j).bus (run header io start j) cell).trans
  rw [last j after below, if_neg Bool.false_ne_true]
  rfl

end MemoryPort

namespace Nes

variable {pins : Pins} {bus : CpuBus} {nes : Nes} {port : MemoryPort}

/-- A read that is waiting is not held up by a bus cycle that reads no `$2007`. -/
theorem free_of_alternate (next : CpuBus)
    (alternate : nes.ppu.waiting .read = true → next.reads 7 = false) : ¬ HeldUp nes next := by
  rintro ⟨waits, live⟩
  rw [Ppu.cpuFramePaletteRead, Bool.and_eq_true] at live
  exact Bool.false_ne_true ((alternate waits).symm.trans (control_reads nes next live.1))

/-- A read of `$2007` in the palette returns the addressed cell in its own cycle. -/
theorem PortSettled.read_live (unprogrammed : pins.chrRomPrgmrWren = false)
    (settled : PortSettled nes port) (reading : bus.reads 7 = true)
    (inside : port.inPalette = true) :
    (nes.settle pins bus).cpuDataBus pins bus =
      port.mem.palette (PpuMemory.foldPalette port.addr) := by
  let settled' := nes.settle pins bus
  have high : 0x3F00 ≤ port.addr := of_decide_eq_true inside
  have asked : nes.asks bus .read = true := (asks_of_free settled.free .read).trans reading
  have asked' : settled'.asks bus .read = true := asked
  have address : nes.ppu.vram.activeVramAddress.bits = port.scroll.v :=
    congrArg ScrollRegisters.v settled.scroll
  have cell : nes.ppuAddrBus.toNat = port.addr := by
    apply (Ppu.ppuAddr_blanked nes.ppu settled.blanked).trans
    rw [address]
    rfl
  have above : 0x3F00 ≤ settled'.ppuAddrBus.toNat := high.trans_eq cell.symm
  have live : nes.ppu.cpuFramePaletteRead (nes.cpuControl bus) = true :=
    (live_iff nes bus).mpr ⟨asked, above⟩
  have bytes : settled'.cpuDataBus pins bus = nes.settledData pins bus := by
    rw [cpuDataBus_data pins asked', if_pos above]
    rfl
  rw [bytes, settledData_eq pins bus nes unprogrammed, settled.pulse, if_neg Bool.false_ne_true,
    ppuRead, Ppu.ppuReadOut, live, Bool.true_or, if_pos rfl, settled.contents, cell,
    PpuMemory.read, if_neg (by omega), if_neg (by omega)]

/-- The contents of the memories at the end of a bus cycle. -/
theorem PortSettled.contents_settle (unprogrammed : pins.chrRomPrgmrWren = false)
    (settled : PortSettled nes port) : (nes.settle pins bus).mem.contents = port.mem := by
  rw [settle_contents pins bus nes unprogrammed, stored, settled.pulse,
    if_neg Bool.false_ne_true]
  exact settled.contents

/-! ## Runs -/

/-- A run of bus cycles of the memory port from a quiet console, out of reset with rendering
disabled, in which no read of `$2007` follows another at once. -/
structure PortRun (io : ℕ → Input) (start : Nes) (header : Header) (n : ℕ) : Prop where
  /-- The console is in play. -/
  running : ∀ i ≤ n, (io i).pins.Running
  /-- CHR ROM is not being programmed. -/
  unprogrammed : ∀ i ≤ n, (io i).pins.chrRomPrgmrWren = false
  /-- The game stays the same. -/
  game : ∀ i ≤ n, (io i).pins.header = header
  /-- The cycles keep to the registers of the port. -/
  ports : ∀ i ≤ n, (io i).bus.ports = true
  /-- No two reads of `$2007` follow each other. -/
  alternate : ∀ i < n, (io i).bus.reads 7 = true → (io (i + 1)).bus.reads 7 = false
  /-- No request waits at the start. -/
  quiet : start.ppu.Quiet
  /-- No DMA runs at the start. -/
  free : start.dma.dmaActive = false
  /-- Rendering is disabled at the start. -/
  blanked : start.ppu.renderEnable = false

/-- The abstract port beside such a run. -/
def portRun (io : ℕ → Input) (start : Nes) (header : Header) : ℕ → MemoryPort :=
  MemoryPort.run header io (start.memoryPort (io 0).pins)

/-- The console just before the last dot of each bus cycle is at the abstract port. -/
theorem PortRun.settled {io : ℕ → Input} {start : Nes} {header : Header} {n : ℕ}
    (run : PortRun io start header n) (i : ℕ) (le : i ≤ n) :
    PortSettled (((cpuRun io start i).ppuClock (io i).pins (io i).bus false).ppuClock
      (io i).pins (io i).bus false) (portRun io start header i) := by
  induction i with
  | zero =>
    exact portSettled_of_quiet (run.running 0 le) (run.unprogrammed 0 le) run.quiet run.free
      run.blanked
  | succ i ih =>
    have lt : i ≤ n := Nat.le_of_succ_le le
    have edge := (ih lt).edge (run.running i lt) (run.unprogrammed i lt) (run.ports i lt)
    have free : ¬ HeldUp (cpuRun io start (i + 1)) (io (i + 1)).bus := by
      apply free_of_alternate
      rw [cpuRun_succ, edge.waiting]
      exact run.alternate i le
    have served := edge.served (run.running (i + 1) le) (run.unprogrammed (i + 1) le) free
    rw [run.game (i + 1) le] at served
    exact served

/-- The VRAM address on the bus. -/
def portAddr (nes : Nes) : ℕ := nes.ppu.vram.activeVramAddress.bits.toNat % 0x4000

/-- Over every such run, with the console taken at the end of each bus cycle: a read of `$2007`
in the palette returns in its own cycle the byte last written through `$2007` to an address of
the palette that folds onto the same cell, or what the cell held from the start; such a write
changes that cell alone; and each access advances the address by one increment. -/
theorem palettePort_refines (io : ℕ → Input) (start : Nes) (header : Header) (n : ℕ)
    (run : PortRun io start header n) :
    let nes (i : ℕ) := (cpuRun io start i).sample (io i).pins (io i).bus
    let palette (i : ℕ) := 0x3F00 ≤ (nes i).portAddr
    let cell (i : ℕ) := PpuMemory.foldPalette (nes i).portAddr
    (∀ i ≤ n, (io i).bus.reads 7 = true → palette i →
      (∀ j < i, (io j).bus.writes 7 = true → palette j → cell j = cell i →
        (∀ k, j < k → k < i → ¬ ((io k).bus.writes 7 = true ∧ palette k ∧ cell k = cell i)) →
        (nes i).cpuDataBus (io i).pins (io i).bus = (io j).bus.dataOut) ∧
      ((∀ j < i, ¬ ((io j).bus.writes 7 = true ∧ palette j ∧ cell j = cell i)) →
        (nes i).cpuDataBus (io i).pins (io i).bus =
          (start.stored (io 0).pins).palette (cell i))) ∧
    (∀ i < n, (io i).bus.writes 7 = true → palette i →
      (nes (i + 1)).mem.contents =
        { (nes i).mem.contents with
          palette := Function.update (nes i).mem.contents.palette (cell i)
            (io i).bus.dataOut }) ∧
    (∀ i < n, (io i).bus.accessesData = true →
      (nes (i + 1)).ppu.vram.activeVramAddress.bits =
        (nes i).ppu.vram.activeVramAddress.bits +
          if (nes i).ppu.cpu.addrIncrement then 32 else 1) := by
  intro nes palette cell
  let port := portRun io start header
  have address (i : ℕ) (le : i ≤ n) :
      (nes i).ppu.vram.activeVramAddress.bits = (port i).scroll.v :=
    congrArg ScrollRegisters.v (run.settled i le).scroll
  have contents (i : ℕ) (le : i ≤ n) : (nes i).mem.contents = (port i).mem :=
    (run.settled i le).contents_settle (run.unprogrammed i le)
  have addr (i : ℕ) (le : i ≤ n) : (nes i).portAddr = (port i).addr := by
    rw [portAddr, address i le]
    rfl
  -- what the console says about a write is what the abstract port says about it
  have writes (i : ℕ) (le : i ≤ n) (target : BitVec 5) :
      (port i).writesCell (io i).bus target = true ↔
        (io i).bus.writes 7 = true ∧ palette i ∧ cell i = target := by
    show _ ↔ _ ∧ 0x3F00 ≤ (nes i).portAddr ∧ PpuMemory.foldPalette (nes i).portAddr = target
    rw [addr i le, MemoryPort.writesCell, MemoryPort.inPalette, Bool.and_eq_true,
      Bool.and_eq_true, decide_eq_true_eq, beq_iff_eq, and_assoc]
  have data (i : ℕ) (le : i ≤ n) (reading : (io i).bus.reads 7 = true) (inside : palette i) :
      (nes i).cpuDataBus (io i).pins (io i).bus = (port i).mem.palette (cell i) := by
    have high : (port i).inPalette = true := by
      apply decide_eq_true
      rw [← addr i le]
      exact inside
    have live := (run.settled i le).read_live (run.unprogrammed i le) reading high
    apply live.trans
    show _ = (port i).mem.palette (PpuMemory.foldPalette (nes i).portAddr)
    rw [addr i le]
  refine ⟨fun i le reading inside => ⟨fun j before written high same last => ?_,
    fun never => ?_⟩, fun i lt written inside => ?_, fun i lt access => ?_⟩
  · rw [data i le reading inside]
    apply MemoryPort.run_lastWrite header io _ before
    · exact (writes j (by omega) (cell i)).mpr ⟨written, high, same⟩
    · intro k after below
      rw [← Bool.not_eq_true]
      exact fun again => last k after below ((writes k (by omega) (cell i)).mp again)
  · rw [data i le reading inside]
    have held : (port i).mem.palette (cell i) = (port 0).mem.palette (cell i) := by
      apply trace_held (fun port : MemoryPort => port.mem.palette (cell i)) 0 i (Nat.zero_le i)
      intro j _ below
      apply (MemoryPort.cycle_palette header (io j).bus (port j) (cell i)).trans
      have unwritten : (port j).writesCell (io j).bus (cell i) = false := by
        rw [← Bool.not_eq_true]
        exact fun again => never j below ((writes j (by omega) (cell i)).mp again)
      rw [unwritten, if_neg Bool.false_ne_true]
      rfl
    exact held
  · have high : (port i).inPalette = true := by
      apply decide_eq_true
      rw [← addr i (Nat.le_of_lt lt)]
      exact inside
    rw [contents (i + 1) lt, contents i (Nat.le_of_lt lt)]
    apply (MemoryPort.cycle_mem_of_palette header (io i).bus (port i) written high).trans
    rw [← addr i (Nat.le_of_lt lt)]
  · have down : (nes i).ppu.cpu.addrIncrement = (port i).down :=
      (run.settled i (Nat.le_of_lt lt)).down
    rw [address (i + 1) lt, address i (Nat.le_of_lt lt), down]
    exact MemoryPort.cycle_v_of_access header (io i).bus (port i) access

/-- The program writes `$2A` to `$3F10`, points at `$3F00` and reads. -/
def writeAliasAndRead : ℕ → Input
  | 0 => .write 0x2006 0x3F
  | 1 => .write 0x2006 0x10
  | 3 => .write 0x2007 0x2A
  | 5 => .write 0x2006 0x3F
  | 6 => .write 0x2006 0x00
  | 7 => .read 0x2007
  | _ => .read 0x8000

/-- After power-up the read right after the address is set returns the byte. -/
theorem writeAliasAndRead_refines :
    ((cpuRun writeAliasAndRead (powerUp .blank) 7).sample (writeAliasAndRead 7).pins
      (writeAliasAndRead 7).bus).cpuDataBus (writeAliasAndRead 7).pins
        (writeAliasAndRead 7).bus = 0x2A := by
  have run : PortRun writeAliasAndRead (powerUp .blank) ⟨false, true⟩ 7 := by
    refine ⟨fun i le => ?_, fun i le => ?_, fun i le => ?_, fun i le => ?_, fun i lt => ?_,
      fun l => ?_, rfl, rfl⟩
    · interval_cases i <;> exact ⟨rfl, rfl⟩
    · interval_cases i <;> rfl
    · interval_cases i <;> rfl
    · interval_cases i <;> decide
    · interval_cases i <;> decide
    · cases l <;> rfl
  obtain ⟨data, -⟩ :=
    palettePort_refines writeAliasAndRead (powerUp .blank) ⟨false, true⟩ 7 run
  apply (data 7 (by decide) (by decide) (by decide +kernel)).1 3 (by decide) (by decide)
    (by decide +kernel) (by decide +kernel)
  rintro k after below ⟨written, -⟩
  revert written
  interval_cases k <;> decide

end Nes

end FpgaNes
