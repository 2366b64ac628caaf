import FpgaNes.ReadBuffer

/-!
# What a palette read leaves in the read buffer

With rendering disabled a read of `$2007` in the palette captures the palette byte on its own
edges, and its request captures it once more in the next bus cycle, from the same address. The
nametable byte under the palette is never on the bus.
-/

namespace FpgaNes

open Hdl

namespace Nes

variable {pins : Pins} {bus : CpuBus} {nes : Nes} {byte : Byte}

/-- The console on the CPU edge that ends a bus cycle with rendering disabled: one access waits
with its increment, and no capture is due. -/
structure PortEdge (nes : Nes) : Prop where
  /-- What waits comes from one access. -/
  one : OneAccess nes.ppu
  /-- An access waits with its increment. -/
  step : nes.ppu.waiting .inc = (nes.ppu.waiting .write || nes.ppu.waiting .read)
  /-- No capture is due. -/
  capture : nes.ppu.access.oneAfterRead = false

/-- The byte a palette read captured is in the buffer, or still under the address of the read
that is to capture it again. -/
structure Refilled (nes : Nes) (byte : Byte) : Prop where
  /-- No write is performed. -/
  pulse : nes.ppuWrite = false
  /-- The buffer holds the byte. -/
  buffer : nes.ppu.access.ppuReadBuffer = byte
  /-- A read waits only with the address in the palette. -/
  again : nes.ppu.waiting .read = true → 0x3F00 ≤ nes.portAddr ∧
    nes.mem.contents.palette (PpuMemory.foldPalette nes.portAddr) = byte

/-- The address holds until the CPU edge. -/
theorem sample_portAddr (nes : Nes) (pins : Pins) (bus : CpuBus) :
    (nes.sample pins bus).portAddr =
      ((nes.ppuClock pins bus false).ppuClock pins bus false).portAddr := by
  rw [portAddr, portAddr, Nes.sample, settle_ppu]

/-- A cycle that reads `$2007` asks for nothing else but the increment. -/
theorem asks_of_read (reading : nes.asks bus .read = true) :
    nes.asks bus .write = false ∧ nes.asks bus .load = false ∧ nes.asks bus .inc = true := by
  obtain ⟨write, read, -, -⟩ := nes.asks_one bus
  have unwritten : nes.asks bus .write = false := by
    cases written : nes.asks bus .write with
    | false => rfl
    | true => exact absurd ((write written).1.symm.trans reading) Bool.false_ne_true
  refine ⟨unwritten, read reading, ?_⟩
  rw [asks_step, reading, Bool.or_true]

/-- With rendering disabled a palette read is live when a read of `$2007` is on the bus and the
address is in the palette. -/
theorem live_blanked (bus : CpuBus) (blanked : nes.ppu.renderEnable = false) :
    nes.ppu.cpuFramePaletteRead (nes.cpuControl bus) =
      (nes.asks bus .read && decide (0x3F00 ≤ nes.portAddr)) := by
  rw [Bool.eq_iff_iff, live_iff, ppuAddrBus, Ppu.ppuAddr_blanked nes.ppu blanked, ← portAddr,
    Bool.and_eq_true, decide_eq_true_eq]

/-- With rendering disabled, the read buffer and its flag after a period. -/
theorem one_capture (nes : Nes) (bus : CpuBus) (cpuEdge : Bool) (running : pins.Running)
    (blanked : nes.ppu.renderEnable = false) :
    let live := nes.asks bus .read && decide (0x3F00 ≤ nes.portAddr)
    let first := nes.ppuClock pins bus cpuEdge
    first.ppu.access.ppuReadBuffer =
        (if live || nes.ppu.access.oneAfterRead then nes.settledData pins bus
        else nes.ppu.access.ppuReadBuffer) ∧
      first.ppu.access.oneAfterRead =
        if live then nes.ppu.access.oneAfterRead
        else !nes.ppu.access.oneAfterRead && nes.ppu.waiting .read := by
  intro live first
  have fetch : nes.ppu.ppuReadRequest = false := by
    simp [Ppu.ppuReadRequest, blanked]
  have palette : nes.ppu.cpuFramePaletteRead (nes.cpuControl bus) = live :=
    live_blanked bus blanked
  rw [← palette]
  constructor
  · rw [ppuClock_access, running.reset, running.enable, (Ppu.accessNext_reads _ _ _).1]
  · rw [ppuClock_access, running.reset, running.enable, (Ppu.accessNext_reads _ _ _).2, fetch,
      Bool.or_false]

/-- Without a waiting read no capture becomes due. -/
theorem capture_low (cpuEdge : Bool) (running : pins.Running)
    (blanked : nes.ppu.renderEnable = false) (idle : nes.ppu.waiting .read = false)
    (capture : nes.ppu.access.oneAfterRead = false) :
    (nes.ppuClock pins bus cpuEdge).ppu.access.oneAfterRead = false := by
  rw [(one_capture nes bus cpuEdge running blanked).2, idle, capture]
  exact ite_self false

/-- A read that is held up leaves the address where it is, and is held up again. -/
theorem HeldUp.hold (running : pins.Running) (unprogrammed : pins.chrRomPrgmrWren = false)
    (blanked : nes.ppu.renderEnable = false) (held : HeldUp nes bus) :
    HeldUp (nes.ppuClock pins bus false) bus := by
  obtain ⟨waits, live⟩ := held
  obtain ⟨-, -, address⟩ := one_dot nes bus false running unprogrammed blanked
  rw [waits, Bool.or_true, if_pos rfl] at address
  constructor
  · rw [first_waiting bus nes running, waits, ready, Ppu.ready, live]
    rfl
  · have still : (nes.ppuClock pins bus false).portAddr = nes.portAddr :=
      congrArg (fun v : LoopyReg => v.bits.toNat % 0x4000) address
    have blanked' : (nes.ppuClock pins bus false).ppu.renderEnable = false := blanked
    rw [live_blanked bus blanked] at live
    rw [live_blanked bus blanked', still]
    exact live

/-- A read held up by the first edge of a bus cycle is held up by the last. -/
theorem HeldUp.sample (running : pins.Running) (unprogrammed : pins.chrRomPrgmrWren = false)
    (blanked : nes.ppu.renderEnable = false) (held : HeldUp nes bus) :
    HeldUp (nes.sample pins bus) bus := by
  have blanked' : (nes.ppuClock pins bus false).ppu.renderEnable = false := blanked
  have first := held.hold running unprogrammed blanked
  obtain ⟨waits, live⟩ := first.hold running unprogrammed blanked'
  constructor
  · rw [Nes.sample, settle_ppu]
    exact waits
  · rw [Nes.sample, settle_ppu, settle_control]
    exact live

/-- A read that is held up leaves the flag as it is. -/
theorem HeldUp.capture (cpuEdge : Bool) (running : pins.Running)
    (blanked : nes.ppu.renderEnable = false) (held : HeldUp nes bus) :
    (nes.ppuClock pins bus cpuEdge).ppu.access.oneAfterRead = nes.ppu.access.oneAfterRead := by
  have live := held.2
  rw [live_blanked bus blanked] at live
  rw [(one_capture nes bus cpuEdge running blanked).2, if_pos live]

/-- A read held up through a bus cycle is withdrawn by its last edge, with its increment. -/
theorem PortEdge.withdrawn (running : pins.Running)
    (unprogrammed : pins.chrRomPrgmrWren = false) (blanked : nes.ppu.renderEnable = false)
    (edge : PortEdge nes) (held : HeldUp nes bus) :
    ∀ l, l ≠ .nmiClear → (nes.cpuClock pins bus).ppu.waiting l = false := by
  obtain ⟨waits, live⟩ := held.sample running unprogrammed blanked
  have reading : nes.asks bus .read = true := ((live_iff nes bus).mp held.2).1
  obtain ⟨unwritten, unloaded, step⟩ := asks_of_read reading
  have write : nes.ppu.waiting .write = false := by
    cases pending : nes.ppu.waiting .write with
    | false => rfl
    | true => exact absurd ((edge.one.write pending).1.symm.trans held.1) Bool.false_ne_true
  have load := edge.one.read held.1
  intro l other
  rw [waiting_cpuClock bus nes running]
  cases l with
  | write => rw [sample_waiting nes running, write, unwritten]; rfl
  | read =>
    have blocked : (nes.sample pins bus).ready bus .read = false := by
      rw [ready, Ppu.ready, live]
      rfl
    rw [reading, waits, blocked]
    rfl
  | load => rw [sample_waiting nes running, load, unloaded]; rfl
  | inc =>
    have asked : nes.ppu.waiting .inc = true := by
      rw [edge.step, held.1, Bool.or_true]
    have stuck := not_quiet_of_heldUp nes running asked held
    have blocked : (nes.sample pins bus).ready bus .inc = false := by
      simp [ready, Ppu.ready, waits]
    rw [step, stuck, blocked]
    rfl
  | nmiClear => exact absurd rfl other

/-- With rendering disabled each bus cycle ends on such an edge, whatever it accesses. -/
theorem PortEdge.cycle (running : pins.Running)
    (unprogrammed : pins.chrRomPrgmrWren = false) (blanked : nes.ppu.renderEnable = false)
    (edge : PortEdge nes) : PortEdge (nes.cpuClock pins bus) := by
  let first := nes.ppuClock pins bus false
  let second := first.ppuClock pins bus false
  have blanked' : first.ppu.renderEnable = false := blanked
  have blanked'' : second.ppu.renderEnable = false := blanked
  by_cases held : HeldUp nes bus
  · have gone := edge.withdrawn running unprogrammed blanked held
    have again := held.hold running unprogrammed blanked
    have last := again.hold running unprogrammed blanked'
    refine ⟨⟨?_, ?_, ?_, ?_⟩, ?_, ?_⟩
    · simp [gone]
    · simp [gone]
    · simp [gone]
    · simp [gone]
    · simp [gone]
    · calc
        (second.ppuClock pins bus true).ppu.access.oneAfterRead
            = second.ppu.access.oneAfterRead := last.capture true running blanked''
        _ = first.ppu.access.oneAfterRead := again.capture false running blanked'
        _ = nes.ppu.access.oneAfterRead := held.capture false running blanked
        _ = false := edge.capture
  · have served := cycleServed_of_free nes running edge.one held
    obtain ⟨asked, one⟩ := cpuClock_asked nes running served.agree
    refine ⟨one, ?_, ?_⟩
    · rw [asked, asked, asked, asks_step]
    · have waits : first.ppu.waiting .read = false := by
        simp [first, first_of_free nes running edge.one held]
      have low : second.ppu.access.oneAfterRead = false := by
        cases read : nes.ppu.waiting .read with
        | false =>
          apply capture_low false running blanked' waits
          exact capture_low false running blanked read edge.capture
        | true =>
          -- the read sets the flag on the first edge, and the second clears it
          have quiet : nes.ppu.cpuFramePaletteRead (nes.cpuControl bus) = false := by
            rw [← Bool.not_eq_true]
            exact fun live => held ⟨read, live⟩
          obtain ⟨-, -, address⟩ := one_dot nes bus false running unprogrammed blanked
          rw [read, Bool.or_true, if_pos rfl] at address
          have still : first.portAddr = nes.portAddr :=
            congrArg (fun v : LoopyReg => v.bits.toNat % 0x4000) address
          rw [live_blanked bus blanked] at quiet
          have quiet' : (first.asks bus .read && decide (0x3F00 ≤ first.portAddr)) = false := by
            rw [still]
            exact quiet
          have set := (one_capture nes bus false running blanked).2
          rw [quiet, edge.capture, read] at set
          have cleared := (one_capture first bus false running blanked').2
          rw [quiet', set] at cleared
          exact cleared
      exact capture_low true running blanked'' (served.agree .read) low

/-- No write waits in the middle of a bus cycle, and no pulse is left at its end. -/
theorem no_pulse (nes : Nes) (bus : CpuBus) (cpuEdge : Bool) (running : pins.Running) :
    ((nes.ppuClock pins bus false).ppuClock pins bus cpuEdge).ppuWrite = false := by
  rw [ppuClock_pulse _ running, first_waiting bus nes running]
  simp [ready, Ppu.ready]

/-- A live palette read captures the byte of its cell, and a period without a write pulse keeps
the contents. -/
theorem live_captures (nes : Nes) (bus : CpuBus) (cpuEdge : Bool) (running : pins.Running)
    (unprogrammed : pins.chrRomPrgmrWren = false) (blanked : nes.ppu.renderEnable = false)
    (pulse : nes.ppuWrite = false) (reading : nes.asks bus .read = true)
    (inside : 0x3F00 ≤ nes.portAddr) :
    (nes.ppuClock pins bus cpuEdge).ppu.access.ppuReadBuffer =
      nes.mem.contents.palette (PpuMemory.foldPalette nes.portAddr) := by
  have live : (nes.asks bus .read && decide (0x3F00 ≤ nes.portAddr)) = true := by
    rw [reading, decide_eq_true inside]
    rfl
  have addr : nes.ppuAddrBus.toNat = nes.portAddr := Ppu.ppuAddr_blanked nes.ppu blanked
  have out : nes.ppuRead bus = true := by
    rw [ppuRead, Ppu.ppuReadOut, live_blanked bus blanked, live, Bool.true_or]
  have cell : nes.mem.contents.read pins.header nes.portAddr =
      nes.mem.contents.palette (PpuMemory.foldPalette nes.portAddr) := by
    rw [PpuMemory.read, if_neg (by omega), if_neg (by omega)]
  rw [(one_capture nes bus cpuEdge running blanked).1, live, Bool.true_or, if_pos rfl,
    settledData_eq pins bus nes unprogrammed, pulse, out, addr, cell]
  rfl

/-- The contents over a period without a write pulse. -/
theorem contents_kept (nes : Nes) (bus : CpuBus) (cpuEdge : Bool)
    (unprogrammed : pins.chrRomPrgmrWren = false) (pulse : nes.ppuWrite = false) :
    (nes.ppuClock pins bus cpuEdge).mem.contents = nes.mem.contents := by
  rw [ppuClock_contents pins bus cpuEdge nes unprogrammed, stored, pulse,
    if_neg Bool.false_ne_true]

/-- The last edge of a bus cycle that reads `$2007` in the palette leaves the address. -/
theorem PortEdge.last_address (running : pins.Running)
    (unprogrammed : pins.chrRomPrgmrWren = false) (blanked : nes.ppu.renderEnable = false)
    (edge : PortEdge nes) :
    (nes.cpuClock pins bus).portAddr = (nes.sample pins bus).portAddr := by
  let second := (nes.ppuClock pins bus false).ppuClock pins bus false
  obtain ⟨-, -, address⟩ := one_dot second bus true running unprogrammed blanked
  have still : (second.ppuClock pins bus true).ppu.vram.activeVramAddress =
      second.ppu.vram.activeVramAddress := by
    by_cases held : HeldUp nes bus
    · have waits : second.ppu.waiting .read = true :=
        (held.sample running unprogrammed blanked).1
      rw [address, waits, Bool.or_true, if_pos rfl]
    · have quiet : second.ppu.Quiet := (cycleServed_of_free nes running edge.one held).agree
      rw [address, quiet .write, quiet .read, quiet .load, quiet .inc]
      rfl
  exact congrArg (fun v : LoopyReg => v.bits.toNat % 0x4000) still

/-- A palette read leaves the byte of its cell in the buffer. -/
theorem PortEdge.read_palette (running : pins.Running)
    (unprogrammed : pins.chrRomPrgmrWren = false) (blanked : nes.ppu.renderEnable = false)
    (edge : PortEdge nes) (reading : nes.asks bus .read = true)
    (inside : 0x3F00 ≤ (nes.sample pins bus).portAddr) :
    Refilled (nes.cpuClock pins bus) ((nes.sample pins bus).mem.contents.palette
      (PpuMemory.foldPalette (nes.sample pins bus).portAddr)) := by
  let second := (nes.ppuClock pins bus false).ppuClock pins bus false
  have pulse : second.ppuWrite = false := no_pulse nes bus false running
  have sampled : (nes.sample pins bus).mem.contents = second.mem.contents := by
    apply (settle_contents pins bus second unprogrammed).trans
    rw [stored, pulse, if_neg Bool.false_ne_true]
  have kept : (nes.cpuClock pins bus).mem.contents = second.mem.contents :=
    contents_kept second bus true unprogrammed pulse
  have still : (nes.cpuClock pins bus).portAddr = (nes.sample pins bus).portAddr :=
    edge.last_address running unprogrammed blanked
  have addr : second.portAddr = (nes.sample pins bus).portAddr :=
    (sample_portAddr nes pins bus).symm
  have captured := live_captures second bus true running unprogrammed blanked pulse reading
    (inside.trans_eq addr.symm)
  rw [addr] at captured
  rw [sampled]
  refine ⟨?_, captured, fun _ => ?_⟩
  · exact no_pulse (nes.ppuClock pins bus false) bus true running
  · exact ⟨inside.trans_eq still.symm,
      congrArg₂ (fun (mem : PpuMemory) addr => mem.palette (PpuMemory.foldPalette addr))
        kept still⟩

/-- The request of a palette read puts the byte of its cell on the bus again. -/
theorem PortEdge.read_again (running : pins.Running)
    (unprogrammed : pins.chrRomPrgmrWren = false) (blanked : nes.ppu.renderEnable = false)
    (edge : PortEdge nes) (refilled : Refilled nes byte)
    (waits : nes.ppu.waiting .read = true)
    (quiet : nes.ppu.cpuFramePaletteRead (nes.cpuControl bus) = false) :
    (nes.ppuClock pins bus false).settledData pins bus = byte := by
  let first := nes.ppuClock pins bus false
  have blanked' : first.ppu.renderEnable = false := blanked
  obtain ⟨high, cell⟩ := refilled.again waits
  obtain ⟨-, -, read, -, -, address⟩ := one_period false running unprogrammed blanked quiet
  rw [waits, Bool.or_true, if_pos rfl] at address
  have write : nes.ppu.waiting .write = false := by
    cases pending : nes.ppu.waiting .write with
    | false => rfl
    | true => exact absurd ((edge.one.write pending).1.symm.trans waits) Bool.false_ne_true
  have pulse : first.ppuWrite = false := (ppuClock_pulse nes running false).trans write
  have out : first.ppuRead bus = true := by
    rw [ppuRead, Ppu.ppuReadOut, read, waits, Bool.or_true]
  have addr : first.ppuAddrBus.toNat = nes.portAddr := by
    apply (Ppu.ppuAddr_blanked first.ppu blanked').trans
    rw [address, portAddr]
  have kept : first.mem.contents = nes.mem.contents :=
    contents_kept nes bus false unprogrammed refilled.pulse
  have found : nes.mem.contents.read pins.header nes.portAddr = byte := by
    rw [PpuMemory.read, if_neg (by omega), if_neg (by omega)]
    exact cell
  rw [settledData_eq pins bus first unprogrammed, pulse, out, addr, kept, found]
  rfl

/-- A bus cycle that reads no `$2007` keeps the byte in the buffer: what it captures is the
same palette byte again. -/
theorem PortEdge.keep (running : pins.Running)
    (unprogrammed : pins.chrRomPrgmrWren = false) (blanked : nes.ppu.renderEnable = false)
    (edge : PortEdge nes) (refilled : Refilled nes byte)
    (unread : nes.asks bus .read = false) :
    Refilled (nes.cpuClock pins bus) byte := by
  let first := nes.ppuClock pins bus false
  let second := first.ppuClock pins bus false
  have quiet : nes.ppu.cpuFramePaletteRead (nes.cpuControl bus) = false := not_live unread
  have quiet' : first.ppu.cpuFramePaletteRead (nes.cpuControl bus) = false := by
    rw [← hold_control pins bus nes]
    exact not_live (show first.asks bus .read = false from unread)
  have free : ¬ HeldUp nes bus := fun held => Bool.false_ne_true (quiet.symm.trans held.2)
  obtain ⟨-, -, -, capture, buffer, -⟩ := one_period false running unprogrammed blanked quiet
  have calm := (cycleServed_of_free nes running edge.one free).agree
  obtain ⟨-, -, -, capture', -, buffer', -⟩ :=
    two_periods running unprogrammed blanked edge.one quiet quiet'
  have last : (second.ppuClock pins bus true).ppu.access.ppuReadBuffer =
      second.ppu.access.ppuReadBuffer :=
    buffer_kept true (show second.asks bus .read = false from unread) fun _ => capture'
  have idle : (nes.cpuClock pins bus).ppu.waiting .read = false :=
    ((cpuClock_asked nes running calm).1 .read).trans unread
  have taken : second.ppu.access.ppuReadBuffer = byte := by
    rw [edge.capture] at capture
    cases waits : nes.ppu.waiting .read with
    | false =>
      rw [waits] at capture
      rw [edge.capture] at buffer
      rw [capture] at buffer'
      exact buffer'.trans (buffer.trans refilled.buffer)
    | true =>
      rw [waits] at capture
      rw [capture] at buffer'
      exact buffer'.trans (edge.read_again running unprogrammed blanked refilled waits quiet)
  refine ⟨?_, ?_, fun waits => ?_⟩
  · exact no_pulse first bus true running
  · exact last.trans taken
  · exact absurd (idle.symm.trans waits) Bool.false_ne_true

/-- Below the palette a read of `$2007` is answered from the buffer. -/
theorem data_below (pins : Pins) (blanked : nes.ppu.renderEnable = false)
    (reading : nes.asks bus .read = true) (below : nes.portAddr < 0x3F00) :
    nes.cpuDataBus pins bus = nes.ppu.access.ppuReadBuffer := by
  have addr : nes.ppuAddrBus.toNat = nes.portAddr := Ppu.ppuAddr_blanked nes.ppu blanked
  have low : ¬ 0x3F00 ≤ nes.ppuAddrBus.toNat := by omega
  rw [cpuDataBus_data pins reading, if_neg low]

/-- No read waits at the start of a bus cycle that reads `$2007` and ends below the palette, if
none does below it: in the palette it would be held up, and the cycle would end there. -/
theorem no_read_waits (running : pins.Running)
    (unprogrammed : pins.chrRomPrgmrWren = false) (blanked : nes.ppu.renderEnable = false)
    (reading : nes.asks bus .read = true)
    (below : ((nes.ppuClock pins bus false).ppuClock pins bus false).portAddr < 0x3F00)
    (idle : nes.portAddr < 0x3F00 → nes.ppu.waiting .read = false) :
    nes.ppu.waiting .read = false := by
  let second := (nes.ppuClock pins bus false).ppuClock pins bus false
  have blanked' : (nes.ppuClock pins bus false).ppu.renderEnable = false := blanked
  have blanked'' : second.ppu.renderEnable = false := blanked
  by_cases low : nes.portAddr < 0x3F00
  · exact idle low
  · rw [← Bool.not_eq_true]
    intro waits
    have live : nes.ppu.cpuFramePaletteRead (nes.cpuControl bus) = true := by
      rw [live_blanked bus blanked, reading, decide_eq_true (by omega)]
      rfl
    have held : HeldUp nes bus := ⟨waits, live⟩
    have first := held.hold running unprogrammed blanked
    have last := (first.hold running unprogrammed blanked').2
    rw [live_blanked bus blanked'', Bool.and_eq_true, decide_eq_true_eq] at last
    exact absurd below (Nat.not_lt.mpr last.2)

/-- The answer the processor samples to a read of `$2007` below the palette. -/
theorem sample_data_below (blanked : nes.ppu.renderEnable = false)
    (reading : nes.asks bus .read = true) (below : (nes.sample pins bus).portAddr < 0x3F00) :
    (nes.sample pins bus).cpuDataBus pins bus =
      ((nes.ppuClock pins bus false).ppuClock pins bus false).ppu.access.ppuReadBuffer := by
  have blanked' : (nes.sample pins bus).ppu.renderEnable = false := by
    rw [Ppu.renderEnable, sample_cpu]
    exact blanked
  have reading' : (nes.sample pins bus).asks bus .read = true := by
    rw [asks, sample_cpu]
    exact reading
  rw [data_below pins blanked' reading' below, Nes.sample, settle_ppu]

/-- The buffer after the two edges of a bus cycle that reads `$2007` and ends below the palette.
A palette read that is live before them captures the cell of the address it finds, and after a
write of `$2007` the byte written. -/
theorem PortEdge.read_below (running : pins.Running)
    (unprogrammed : pins.chrRomPrgmrWren = false) (blanked : nes.ppu.renderEnable = false)
    (edge : PortEdge nes) (pulse : nes.ppuWrite = false) (reading : nes.asks bus .read = true)
    (below : ((nes.ppuClock pins bus false).ppuClock pins bus false).portAddr < 0x3F00)
    (idle : nes.portAddr < 0x3F00 → nes.ppu.waiting .read = false) :
    ((nes.ppuClock pins bus false).ppuClock pins bus false).ppu.access.ppuReadBuffer =
      if nes.portAddr < 0x3F00 then nes.ppu.access.ppuReadBuffer
      else if nes.ppu.waiting .write then nes.ppu.cpu.ppuWriteBuffer
      else nes.mem.contents.palette (PpuMemory.foldPalette nes.portAddr) := by
  let first := nes.ppuClock pins bus false
  let second := first.ppuClock pins bus false
  have blanked' : first.ppu.renderEnable = false := blanked
  have reading' : first.asks bus .read = true := reading
  obtain ⟨buffer, capture⟩ := one_capture nes bus false running blanked
  obtain ⟨buffer', -⟩ := one_capture first bus false running blanked'
  obtain ⟨-, pulse', address⟩ := one_dot nes bus false running unprogrammed blanked
  obtain ⟨-, -, address'⟩ := one_dot first bus false running unprogrammed blanked'
  have waits : nes.ppu.waiting .read = false :=
    no_read_waits running unprogrammed blanked reading below idle
  have free : ¬ HeldUp nes bus := fun held => Bool.false_ne_true (waits.symm.trans held.1)
  have rest := first_of_free nes running edge.one free
  rw [edge.capture, waits, Bool.not_false, Bool.and_false, ite_self] at capture
  rw [capture, reading', Bool.true_and, Bool.or_false] at buffer'
  rw [edge.capture, reading, Bool.true_and, Bool.or_false] at buffer
  cases write : nes.ppu.waiting .write with
  | true =>
    rw [write, Bool.true_or, if_pos rfl] at address
    have still : first.portAddr = nes.portAddr :=
      congrArg (fun v : LoopyReg => v.bits.toNat % 0x4000) address
    have stores : first.ppuWrite = true := pulse'.trans write
    have data : first.settledData pins bus = nes.ppu.cpu.ppuWriteBuffer := by
      rw [settledData_eq pins bus first unprogrammed, stores]
      rfl
    rw [still, data] at buffer'
    by_cases low : nes.portAddr < 0x3F00
    · have high : ¬ 0x3F00 ≤ nes.portAddr := by omega
      rw [decide_eq_false high] at buffer buffer'
      rw [if_pos low]
      exact buffer'.trans buffer
    · have high : 0x3F00 ≤ nes.portAddr := by omega
      rw [decide_eq_true high] at buffer'
      rw [if_neg low]
      exact buffer'
  | false =>
    have still : first.portAddr < 0x3F00 := by
      have inc : first.ppu.waiting .inc = false := by
        rw [rest, if_pos rfl, edge.step, write, waits]
        rfl
      have others : ∀ l, l ≠ .inc → first.ppu.waiting l = false := by
        intro l other
        rw [rest, if_neg other]
      simp only [inc, others .write (by decide), others .read (by decide),
        others .load (by decide), Bool.or_self, Bool.false_eq_true, if_false] at address'
      rw [portAddr, ← address']
      exact below
    have high' : ¬ 0x3F00 ≤ first.portAddr := by omega
    rw [decide_eq_false high', if_neg Bool.false_ne_true] at buffer'
    rw [buffer']
    by_cases low : nes.portAddr < 0x3F00
    · have high : ¬ 0x3F00 ≤ nes.portAddr := by omega
      rw [decide_eq_false high, if_neg Bool.false_ne_true] at buffer
      rw [if_pos low]
      exact buffer
    · rw [if_neg low]
      exact live_captures nes bus false running unprogrammed blanked pulse reading (by omega)

/-! ## Runs -/

/-- A run of bus cycles of any kind from a quiet console, out of reset with rendering disabled
throughout. -/
structure BlankRun (io : ℕ → Input) (start : Nes) (n : ℕ) : Prop where
  /-- The console is in play. -/
  running : ∀ i ≤ n, (io i).pins.Running
  /-- CHR ROM is not being programmed. -/
  unprogrammed : ∀ i ≤ n, (io i).pins.chrRomPrgmrWren = false
  /-- Rendering is disabled. -/
  blanked : ∀ i ≤ n, (cpuRun io start i).ppu.renderEnable = false
  /-- No request waits at the start. -/
  quiet : start.ppu.Quiet
  /-- No capture is due at the start. -/
  capture : start.ppu.access.oneAfterRead = false

/-- Each bus cycle of such a run starts on an edge of the port. -/
theorem BlankRun.edge {io : ℕ → Input} {start : Nes} {n : ℕ} (run : BlankRun io start n)
    (i : ℕ) (le : i ≤ n) : PortEdge (cpuRun io start i) := by
  apply trace_invariant (fun _ nes => PortEdge nes)
  · refine ⟨⟨?_, ?_, ?_, ?_⟩, ?_, run.capture⟩ <;> simp [run.quiet _]
  · intro k below edge
    have after : PortEdge ((cpuRun io start k).cpuClock (io k).pins (io k).bus) :=
      edge.cycle (run.running k (by omega)) (run.unprogrammed k (by omega))
        (run.blanked k (by omega))
    exact after

/-- From a palette read up to the next read of `$2007` the byte of its cell stays refilled. -/
theorem BlankRun.refilled {io : ℕ → Input} {start : Nes} {n : ℕ} (run : BlankRun io start n)
    {i j : ℕ} (before : i < j) (le : j ≤ n)
    (reading : (cpuRun io start i).asks (io i).bus .read = true)
    (inside : 0x3F00 ≤ ((cpuRun io start i).sample (io i).pins (io i).bus).portAddr)
    (between : ∀ k, i < k → k < j → (cpuRun io start k).asks (io k).bus .read = false) :
    let read := (cpuRun io start i).sample (io i).pins (io i).bus
    Refilled (cpuRun io start j)
      (read.mem.contents.palette (PpuMemory.foldPalette read.portAddr)) := by
  intro read
  apply trace_from (fun _ nes => Refilled nes
    (read.mem.contents.palette (PpuMemory.foldPalette read.portAddr))) (i + 1) ?_ j before
  · intro k after below refilled
    exact (run.edge k (by omega)).keep (run.running k (by omega)) (run.unprogrammed k (by omega))
      (run.blanked k (by omega)) refilled (between k after below)
  · exact (run.edge i (by omega)).read_palette (run.running i (by omega))
      (run.unprogrammed i (by omega)) (run.blanked i (by omega)) reading inside

/-- In every run with rendering disabled, after a read of `$2007` in the palette the next one,
if it is below the palette, returns the nametable byte under the palette address exactly when
the palette cell holds this byte. Where the cycle of the next read still starts in the palette,
the cell is the one of that address instead, or the byte written the cycle before. -/
theorem paletteRefill_iff (io : ℕ → Input) (start : Nes) (n : ℕ) (run : BlankRun io start n)
    (i j : ℕ) (before : i < j) (le : j ≤ n)
    (reading : (cpuRun io start i).asks (io i).bus .read = true)
    (inside : 0x3F00 ≤ ((cpuRun io start i).sample (io i).pins (io i).bus).portAddr)
    (between : ∀ k, i < k → k < j → (cpuRun io start k).asks (io k).bus .read = false)
    (next : (cpuRun io start j).asks (io j).bus .read = true)
    (below : ((cpuRun io start j).sample (io j).pins (io j).bus).portAddr < 0x3F00) :
    let read := (cpuRun io start i).sample (io i).pins (io i).bus
    let nametable := read.mem.contents.vram
      (PpuMemory.foldVram (io i).pins.header.mirroringMode (read.portAddr - 0x1000))
    let origin := cpuRun io start j
    (origin.sample (io j).pins (io j).bus).cpuDataBus (io j).pins (io j).bus = nametable ↔
      (if origin.portAddr < 0x3F00 then
        read.mem.contents.palette (PpuMemory.foldPalette read.portAddr)
      else if origin.ppu.waiting .write then origin.ppu.cpu.ppuWriteBuffer
      else origin.mem.contents.palette (PpuMemory.foldPalette origin.portAddr)) =
        nametable := by
  intro read nametable origin
  have refilled := run.refilled before le reading inside between
  have idle : origin.portAddr < 0x3F00 → origin.ppu.waiting .read = false := by
    intro low
    rw [← Bool.not_eq_true]
    exact fun waits => absurd (refilled.again waits).1 (Nat.not_le.mpr low)
  have data := sample_data_below (run.blanked j le) next below
  rw [sample_portAddr] at below
  have buffer := (run.edge j le).read_below (run.running j le) (run.unprogrammed j le)
    (run.blanked j le) refilled.pulse next below idle
  rw [data, buffer, refilled.buffer]

/-- A read of `$3F05`, then a read of `$2000`. -/
def readPaletteThenTable : ℕ → Input
  | 0 => .write 0x2006 0x3F
  | 1 => .write 0x2006 0x05
  | 3 => .read 0x2007
  | 5 => .write 0x2006 0x20
  | 6 => .write 0x2006 0x00
  | 8 => .read 0x2007
  | _ => .read 0x8000

/-- Memories whose nametables hold `$0F` in every cell, and so does the palette. -/
def shaded : Memories :=
  { Memories.blank with vram := ⟨fun _ => 0x0F, 0⟩, framePalette := ⟨fun _ => 0x0F, 0, 0⟩ }

/-- Where the palette cell and the nametable cell under it both hold `$0F` the second read
returns it. -/
theorem readPaletteThenTable_shaded :
    let last := readPaletteThenTable 8
    let read := (cpuRun readPaletteThenTable (powerUp shaded) 3).sample .playing
      (readPaletteThenTable 3).bus
    let nametable := read.mem.contents.vram (PpuMemory.foldVram true (read.portAddr - 0x1000))
    nametable = 0x0F ∧
      ((cpuRun readPaletteThenTable (powerUp shaded) 8).sample last.pins last.bus).cpuDataBus
        last.pins last.bus = nametable := by
  have run : BlankRun readPaletteThenTable (powerUp shaded) 8 := by
    refine ⟨fun i le => ?_, fun i le => ?_, fun i le => ?_, fun l => ?_, rfl⟩
    · interval_cases i <;> exact ⟨rfl, rfl⟩
    · interval_cases i <;> rfl
    · interval_cases i <;> decide +kernel
    · cases l <;> rfl
  refine ⟨by decide +kernel, ?_⟩
  apply (paletteRefill_iff readPaletteThenTable (powerUp shaded) 8 run 3 8 (by decide) (by decide)
    (by decide +kernel) (by decide +kernel) ?_ (by decide +kernel) (by decide +kernel)).mpr
  · decide +kernel
  · intro k after below
    interval_cases k <;> decide +kernel

/-- Over nametables that hold `$5A` in every cell the second read returns the zero of the
palette. -/
theorem readPaletteThenTable_palette :
    let last := readPaletteThenTable 8
    let read := (cpuRun readPaletteThenTable (powerUp tiled) 3).sample .playing
      (readPaletteThenTable 3).bus
    let nes := (cpuRun readPaletteThenTable (powerUp tiled) 8).sample last.pins last.bus
    read.portAddr = 0x3F05 ∧ nes.portAddr = 0x2000 ∧
      read.mem.contents.vram (PpuMemory.foldVram true (read.portAddr - 0x1000)) = 0x5A ∧
      nes.cpuDataBus last.pins last.bus = 0 := by
  decide +kernel

end Nes

end FpgaNes
