import FpgaNes.Ppu.Tile

/-!
# The background fetch unit

Over a frame drawn with rendering enabled and no access that moves the scroll registers,
the VRAM address at every dot is the loaded address moved by whole tiles and lines, and
each group of eight fetch dots latches the tile under it.
-/

namespace FpgaNes

open Hdl

/-- An access of the PPU register with this number, in either direction. -/
def CpuBus.accesses (bus : CpuBus) (register : ℕ) : Bool :=
  Nes.ppuRange bus.addr && bus.addr.toNat % 8 == register

/-- A bus cycle that accesses neither the scroll registers nor the memory port: `$2000`,
`$2005`, `$2006` and `$2007`. -/
def CpuBus.leavesScroll (bus : CpuBus) : Bool :=
  !(bus.accesses 0 || bus.accesses 5 || bus.accesses 6 || bus.accesses 7)

namespace Ppu

variable (ppu : Ppu) (data : Byte)

/-- A dot on which the background unit fetches. -/
def fetching : Bool := ppu.renderEnable && ppu.renderLine && ppu.fetchDot

/-- The fetch latches and the shifters after a fetch dot. -/
theorem backgroundNext_fetching (active : ppu.fetching = true) :
    let next := ppu.backgroundNext false data
    let load := ppu.counter.toNat == 0
    (next.ntableByte = if ppu.counter.toNat = 1 then data else ppu.bg.ntableByte) ∧
      (next.atableBits =
        if ppu.counter.toNat = 3 then atableQuadrant ppu.vram.activeVramAddress data
        else ppu.bg.atableBits) ∧
      (∀ plane : Fin 2, next.ptableDataTemp plane =
        if ppu.counter.toNat = 5 + 2 * plane.val then data
        else ppu.bg.ptableDataTemp plane) ∧
      (∀ plane : Fin 2, next.ptableData plane = shiftIn (ppu.bg.ptableData plane)
        (if load then some (ppu.bg.ptableDataTemp plane) else none)) ∧
      ∀ plane : Fin 2, next.paletteData plane = shiftIn (ppu.bg.paletteData plane)
        (if load then some (BitVec.fill 8 (ppu.bg.atableBits plane)) else none) := by
  intro next load
  have shape : next = ppu.backgroundNext false data := rfl
  rw [fetching] at active
  rw [backgroundNext, if_neg Bool.false_ne_true, if_pos active] at shape
  rw [shape]
  split
  case h_1 count =>
    exact ⟨by simp [count], by simp [count], by simp [count], fun _ => rfl, fun _ => rfl⟩
  case h_2 count =>
    exact ⟨by simp [count], by simp [count], by simp [count], fun _ => rfl, fun _ => rfl⟩
  case h_3 count =>
    refine ⟨by simp [count], by simp [count], fun plane => ?_, fun _ => rfl, fun _ => rfl⟩
    match plane with
    | 0 => simp [count]
    | 1 => simp [count]
  case h_4 count =>
    refine ⟨by simp [count], by simp [count], fun plane => ?_, fun _ => rfl, fun _ => rfl⟩
    match plane with
    | 0 => simp [count]
    | 1 => simp [count]
  case h_5 one three five seven =>
    refine ⟨(if_neg one).symm, (if_neg three).symm, fun plane => ?_, fun _ => rfl, fun _ => rfl⟩
    match plane with
    | 0 => exact (if_neg five).symm
    | 1 => exact (if_neg seven).symm

/-- Off the fetch dots the background unit holds. -/
theorem backgroundNext_idle (passive : ppu.fetching = false) :
    ppu.backgroundNext false data = ppu.bg := by
  rw [fetching] at passive
  rw [backgroundNext, if_neg Bool.false_ne_true, passive, if_neg Bool.false_ne_true]

/-- The PPU address on a background fetch dot. -/
theorem ppuAddr_fetching (active : ppu.fetching = true) (background : ppu.spriteFetchDot = false) :
    ppu.ppuAddr =
      match ppu.counter.toNat with
      | 0 | 1 => ntableFetchAddr ppu.vram.activeVramAddress
      | 2 | 3 => atableFetchAddr ppu.vram.activeVramAddress
      | 4 | 5 => ptableFetchAddr ppu.cpu.backgroundPtableAddr ppu.bg.ntableByte false
          ppu.vram.activeVramAddress.fineY
      | _ => ptableFetchAddr ppu.cpu.backgroundPtableAddr ppu.bg.ntableByte true
          ppu.vram.activeVramAddress.fineY := by
  simp only [fetching, Bool.and_eq_true] at active
  obtain ⟨⟨enabled, drawn⟩, fetches⟩ := active
  rw [ppuAddr, enabled, drawn, background, fetches]
  rfl

/-- No request that uses the PPU bus or moves the VRAM address is waiting. -/
structure Idle (ppu : Ppu) : Prop where
  /-- No write waits. -/
  write : ppu.waiting .write = false
  /-- No read waits. -/
  read : ppu.waiting .read = false
  /-- No load of `v` waits. -/
  load : ppu.waiting .load = false
  /-- No increment waits. -/
  inc : ppu.waiting .inc = false

/-- With rendering enabled and nothing waiting, rendering alone moves the VRAM address. -/
theorem vramNext_idle {ppu : Ppu} (idle : ppu.Idle) (enabled : ppu.renderEnable = true) :
    (ppu.vramNext false).activeVramAddress = ppu.renderAddress := by
  have write : ppu.writePending = false := idle.write
  have read : ppu.readPending = false := idle.read
  have load : ppu.loadPending = false := idle.load
  have inc : ppu.incPending = false := idle.inc
  simp [vramNext, write, read, load, inc, enabled]

/-- What rendering does to the VRAM address on a dot of a rendered line. -/
def walk (preRender : Bool) (t v : LoopyReg) (dot : ℕ) : LoopyReg :=
  let h :=
    if dot % 8 = 0 ∧ (1 ≤ dot ∧ dot ≤ 256 ∨ 321 ≤ dot ∧ dot < 338) then hinc v
    else if dot = 257 then hcopy v t
    else v
  if dot = 256 then vinc h
  else if preRender ∧ 280 ≤ dot ∧ dot ≤ 304 then vcopy h t
  else h

/-- The requests of the rendering logic, by the dot of the line. -/
theorem renderAddress_eq (enabled : ppu.renderEnable = true)
    (drawn : ppu.renderLine = true) :
    ppu.renderAddress = walk (ppu.scanline.toNat == 261) ppu.cpu.tempVramAddress
      ppu.vram.activeVramAddress ppu.engine.cycle.toNat := by
  have count := ppu.counter_toNat
  have hincs : ppu.ppuHincVramRequest =
      decide (ppu.engine.cycle.toNat % 8 = 0 ∧
        (1 ≤ ppu.engine.cycle.toNat ∧ ppu.engine.cycle.toNat ≤ 256 ∨
          321 ≤ ppu.engine.cycle.toNat ∧ ppu.engine.cycle.toNat < 338)) := by
    rw [ppuHincVramRequest, enabled, drawn, fetchDot, count]
    rw [Bool.eq_iff_iff]
    simp only [Bool.true_and, Bool.and_eq_true, Bool.or_eq_true, decide_eq_true_eq, beq_iff_eq]
    omega
  have vincs : ppu.ppuVincVramRequest = decide (ppu.engine.cycle.toNat = 256) := by
    rw [ppuVincVramRequest, enabled, drawn, fetchDot]
    rw [Bool.eq_iff_iff]
    simp only [Bool.true_and, Bool.and_eq_true, Bool.or_eq_true, decide_eq_true_eq, beq_iff_eq]
    omega
  have hcopies : ppu.ppuHcopyVramRequest = decide (ppu.engine.cycle.toNat = 257) := by
    rw [ppuHcopyVramRequest, enabled, drawn]
    rfl
  have vcopies : ppu.ppuVcopyVramRequest =
      decide ((ppu.scanline.toNat == 261) = true ∧ 280 ≤ ppu.engine.cycle.toNat ∧
        ppu.engine.cycle.toNat ≤ 304) := by
    rw [ppuVcopyVramRequest, enabled]
    rw [Bool.eq_iff_iff]
    simp only [Bool.and_true, Bool.and_eq_true, decide_eq_true_eq]
  simp only [renderAddress, hincs, vincs, hcopies, vcopies, walk, decide_eq_true_eq]

end Ppu

/-! ## The walk over a frame -/

namespace LoopyReg

open Ppu

/-- The VRAM address on a dot of a frame, lines numbered from the pre-render line. On the
pre-render line the address is loaded by dot 281. -/
def onDot (t : LoopyReg) (line dot : ℕ) : LoopyReg :=
  if dot ≤ 256 then hinc^[2 + (dot - 1) / 8] (vinc^[line - 1] t)
  else if dot = 257 then vinc (hinc^[34] (vinc^[line - 1] t))
  else hinc^[(dot - 321) / 8] (vinc^[line] t)

/-- A step of the walk that horizontal updates only, or none, take. -/
theorem walk_plain (preRender : Bool) (t v : LoopyReg) (dot : ℕ) (across : dot ≠ 256)
    (back : dot ≠ 257)
    (down : preRender = true → 280 ≤ dot → dot ≤ 304 → v.vertical = t.vertical) :
    walk preRender t v dot =
      if dot % 8 = 0 ∧ (1 ≤ dot ∧ dot ≤ 256 ∨ 321 ≤ dot ∧ dot < 338) then hinc v else v := by
  unfold walk
  rw [if_neg across, if_neg back]
  by_cases copies : preRender = true ∧ 280 ≤ dot ∧ dot ≤ 304
  · have still : ¬ (dot % 8 = 0 ∧ (1 ≤ dot ∧ dot ≤ 256 ∨ 321 ≤ dot ∧ dot < 338)) := by omega
    rw [if_pos copies]
    simp only [if_neg still]
    exact ext_groups (vcopy_horizontal v t) (down copies.1 copies.2.1 copies.2.2).symm
  · rw [if_neg copies]

/-- Dot 256 ends the row and the line. -/
theorem walk_last (preRender : Bool) (t v : LoopyReg) :
    walk preRender t v 256 = vinc (hinc v) := by
  simp [walk]

/-- Dot 257 copies the horizontal fields. -/
theorem walk_back (preRender : Bool) (t v : LoopyReg) : walk preRender t v 257 = hcopy v t := by
  simp [walk]

/-- Dot 280 of the pre-render line copies the vertical fields. -/
theorem walk_down (t v : LoopyReg) : walk true t v 280 = vcopy v t := by
  simp [walk]

/-- The dots of the sprite fetches leave the horizontal fields alone. -/
theorem walk_horizontal (preRender : Bool) (t v : LoopyReg) (dot : ℕ) (late : 258 ≤ dot)
    (early : dot ≤ 320) : (walk preRender t v dot).horizontal = v.horizontal := by
  unfold walk
  have still : ¬ (dot % 8 = 0 ∧ (1 ≤ dot ∧ dot ≤ 256 ∨ 321 ≤ dot ∧ dot < 338)) := by omega
  simp only [if_neg still, if_neg (by omega : dot ≠ 257), if_neg (by omega : dot ≠ 256)]
  split <;> rfl

/-- The horizontal copy undoes a row of horizontal updates. -/
theorem hcopy_row (t v : LoopyReg) (count : ℕ) (across : v.horizontal = t.horizontal) :
    hcopy (vinc (hinc^[count] v)) t = vinc v := by
  apply ext_groups
  · rw [hcopy_horizontal, vinc_horizontal, across]
  · rw [hcopy_vertical]
    exact vinc_vertical (hinc_iterate v count).2

/-- One more horizontal update, or none. -/
theorem hinc_step (v : LoopyReg) (step : Prop) [Decidable step] (count next : ℕ)
    (moves : step → next = count + 1) (stays : ¬ step → next = count) :
    (if step then hinc (hinc^[count] v) else hinc^[count] v) = hinc^[next] v := by
  by_cases steps : step
  · rw [if_pos steps, moves steps, Function.iterate_succ_apply']
  · rw [if_neg steps, stays steps]

/-- Each dot takes the walk to the next one. -/
theorem walk_onDot (t : LoopyReg) (line dot : ℕ) (inside : dot ≤ 340)
    (loaded : 1 ≤ line ∨ 281 ≤ dot) :
    walk (line == 0) t (t.onDot line dot) dot =
      if dot = 340 then t.onDot (line + 1) 0 else t.onDot line (dot + 1) := by
  have across : (vinc^[line - 1] t).horizontal = t.horizontal := by
    generalize line - 1 = count
    induction count with
    | zero => rfl
    | succ count ih => rw [Function.iterate_succ_apply', vinc_horizontal, ih]
  have later : 1 ≤ line → (line == 0) = false := by
    intro visible
    rw [beq_eq_false_iff_ne]
    omega
  by_cases row : dot ≤ 255
  · have visible : (line == 0) = false := later (by omega)
    rw [visible, walk_plain _ _ _ _ (by omega) (by omega) (fun h => by contradiction),
      if_neg (by omega : dot ≠ 340), onDot, onDot, if_pos (by omega : dot ≤ 256),
      if_pos (by omega : dot + 1 ≤ 256)]
    exact hinc_step _ _ _ _ (by omega) (by omega)
  · by_cases last : dot = 256
    · subst last
      have visible : (line == 0) = false := later (by omega)
      rw [visible, if_neg (by decide), onDot, if_pos (by decide), onDot, if_neg (by decide),
        if_pos rfl]
      have count : 2 + (256 - 1) / 8 = 33 := by decide
      rw [walk_last, count, ← Function.iterate_succ_apply' hinc]
    · by_cases back : dot = 257
      · subst back
        have visible : (line == 0) = false := later (by omega)
        rw [visible, if_neg (by decide), onDot, if_neg (by decide), if_pos rfl, onDot,
          if_neg (by decide), if_neg (by decide)]
        have next : vinc^[line] t = vinc (vinc^[line - 1] t) := by
          have count : line = line - 1 + 1 := by omega
          rw [count, Function.iterate_succ_apply', Nat.add_sub_cancel]
        rw [next]
        exact hcopy_row t _ 34 across
      · by_cases edge : dot = 340
        · subst edge
          rw [walk_plain _ _ _ _ (by decide) (by decide)
            (fun _ _ late => absurd late (by decide)), if_neg (by decide), if_pos rfl, onDot,
            if_neg (by decide), if_neg (by decide), onDot, if_pos (by decide)]
          rfl
        · have copied : (line == 0) = true → 280 ≤ dot → dot ≤ 304 →
              (t.onDot line dot).vertical = t.vertical := by
            intro first _ early
            rw [onDot, if_neg (by omega), if_neg back, eq_of_beq first]
            exact (hinc_iterate _ _).2
          rw [walk_plain _ _ _ _ last back copied, if_neg edge, onDot, onDot,
            if_neg (by omega : ¬ dot ≤ 256), if_neg back, if_neg (by omega : ¬ dot + 1 ≤ 256),
            if_neg (by omega : dot + 1 ≠ 257)]
          exact hinc_step _ _ _ _ (by omega) (by omega)

/-- Each dot takes the walk to the next one, time counted from the pre-render line. -/
theorem walk_onTime (t : LoopyReg) (time : ℕ) (loaded : 281 ≤ time) :
    walk (time / 341 == 0) t (t.onDot (time / 341) (time % 341)) (time % 341) =
      t.onDot ((time + 1) / 341) ((time + 1) % 341) := by
  have walked := walk_onDot t (time / 341) (time % 341) (by omega) (by omega)
  apply walked.trans
  by_cases last : time % 341 = 340
  · rw [if_pos last]
    congr 1 <;> omega
  · rw [if_neg last]
    congr 1 <;> omega

end LoopyReg

/-! ## Runs that leave the scroll registers alone -/

/-- A register access outside the scroll registers and the memory port leaves `t`, the fine
scroll and the background pattern table alone. -/
theorem CpuInterface.next_leaves (r : CpuInterface) (port : CpuPort)
    (other : (port.wren || port.rden) = true → port.addr.toNat ≠ 0 ∧ port.addr.toNat ≠ 5 ∧
      port.addr.toNat ≠ 6 ∧ port.addr.toNat ≠ 7) :
    let r' := r.next false port
    r'.tempVramAddress = r.tempVramAddress ∧ r'.fineX = r.fineX ∧
      r'.backgroundPtableAddr = r.backgroundPtableAddr := by
  intro r'
  have shape : r' = r.next false port := rfl
  rw [next, if_neg Bool.false_ne_true] at shape
  cases dma : port.dmaWrite with
  | true =>
    rw [dma, if_pos rfl] at shape
    rw [shape]
    exact ⟨rfl, rfl, rfl⟩
  | false =>
    rw [dma, if_neg Bool.false_ne_true] at shape
    cases wren : port.wren with
    | true =>
      rw [wren, if_pos rfl] at shape
      obtain ⟨zero, five, six, seven⟩ := other (by simp [wren])
      rw [shape, write]
      split <;> first | exact ⟨rfl, rfl, rfl⟩ | contradiction
    | false =>
      rw [wren, if_neg Bool.false_ne_true] at shape
      rw [shape]
      split
      · unfold read
        split <;> exact ⟨rfl, rfl, rfl⟩
      · exact ⟨rfl, rfl, rfl⟩

namespace Nes

variable {pins : Pins} {bus : CpuBus}

/-- The register a bus cycle accesses, when it leaves the scroll registers alone. -/
theorem register_of_leaves (nes : Nes) (leaves : bus.leavesScroll = true)
    (access : ((nes.cpuControl bus).wren || (nes.cpuControl bus).rden) = true) :
    let number := (nes.cpuControl bus).addr.toNat
    number ≠ 0 ∧ number ≠ 5 ∧ number ≠ 6 ∧ number ≠ 7 := by
  have inside : ppuRange bus.addr = true := by
    by_contra outside
    simp [cpuControl, cpuPpuWren, cpuPpuRden, outside] at access
  simp only [CpuBus.leavesScroll, CpuBus.accesses, inside, Bool.true_and, Bool.not_eq_true',
    Bool.or_eq_false_iff, beq_eq_false_iff_ne] at leaves
  simp only [cpuControl, CpuBus.register_toNat]
  exact ⟨leaves.1.1.1, leaves.1.1.2, leaves.1.2, leaves.2⟩

/-- Such a bus cycle asks for nothing but a vertical blank clear. -/
theorem asks_of_leaves (nes : Nes) (leaves : bus.leavesScroll = true) (l : Lane)
    (other : l ≠ .nmiClear) :
    nes.asks bus l = false := by
  by_contra asked
  have asked' : (nes.cpuControl bus).asks nes.ppu.cpu.ppuLatch l = true :=
    Bool.eq_true_of_not_eq_false asked
  have access : ((nes.cpuControl bus).wren || (nes.cpuControl bus).rden) = true := by
    cases l <;> simp only [CpuPort.asks, Bool.and_eq_true, Bool.or_eq_true] at asked' <;>
      first | contradiction | simp_all
  obtain ⟨-, -, six, seven⟩ := register_of_leaves nes leaves access
  cases l <;> simp_all [CpuPort.asks]

/-- Such a bus cycle makes no live palette read. -/
theorem live_of_leaves (nes : Nes) (leaves : bus.leavesScroll = true) :
    nes.ppu.cpuFramePaletteRead (nes.cpuControl bus) = false := by
  cases rden : (nes.cpuControl bus).rden with
  | false => rw [Ppu.cpuFramePaletteRead, rden, Bool.false_and, Bool.false_and]
  | true =>
    obtain ⟨-, -, -, seven⟩ :=
      register_of_leaves nes leaves (by rw [rden, Bool.or_true])
    rw [Ppu.cpuFramePaletteRead, beq_eq_false_iff_ne.mpr seven, Bool.and_false, Bool.false_and]

/-- A run over rendered lines that leaves the scroll registers alone. -/
structure Scanning (io : ℕ → Dot) (start : Nes) (header : Header) (first n : ℕ) : Prop
    extends Drawing io start first n where
  /-- The game stays the same. -/
  game : ∀ i < n, (io i).pins.header = header
  /-- No bus cycle touches the scroll registers. -/
  leaves : ∀ i < n, (io i).bus.leavesScroll = true
  /-- Every line is a rendered one. -/
  drawn : ∀ i < n, (dotRun io start i).ppu.renderLine = true

section

variable {io : ℕ → Dot} {start : Nes} {header : Header} {first n : ℕ}

/-- What waits after each dot: what was held up. -/
theorem Scanning.waiting (scanning : Scanning io start header first n) (i : ℕ) (below : i < n)
    (l : Lane) (other : l ≠ .nmiClear) :
    (dotRun io start (i + 1)).ppu.waiting l =
      ((dotRun io start i).ppu.waiting l && !(dotRun io start i).ready (io i).bus l) := by
  rw [dotRun_succ, waiting_ppuClock _ _ (scanning.running i below),
    asks_of_leaves _ (scanning.leaves i below) l other, Bool.and_false, Bool.false_xor]

/-- By the third dot nothing waits. -/
theorem Scanning.idle (scanning : Scanning io start header first n) (time : ℕ)
    (settled : 3 ≤ time) (le : time ≤ n) : (dotRun io start time).ppu.Idle := by
  have write (i : ℕ) (below : i < n) : (dotRun io start (i + 1)).ppu.waiting .write = false := by
    rw [scanning.waiting i below .write (by decide)]
    simp [ready, Ppu.ready]
  have read (i : ℕ) (below : i < n) : (dotRun io start (i + 1)).ppu.waiting .read = false := by
    rw [scanning.waiting i below .read (by decide)]
    simp [ready, Ppu.ready, live_of_leaves _ (scanning.leaves i below)]
  have load (i : ℕ) (below : i + 1 < n) :
      (dotRun io start (i + 2)).ppu.waiting .load = false := by
    rw [scanning.waiting (i + 1) below .load (by decide)]
    simp [ready, Ppu.ready, write i (by omega), read i (by omega)]
  have inc (i : ℕ) (below : i + 2 < n) :
      (dotRun io start (i + 3)).ppu.waiting .inc = false := by
    rw [scanning.waiting (i + 2) below .inc (by decide)]
    simp [ready, Ppu.ready, write (i + 1) (by omega), read (i + 1) (by omega),
      load i (by omega)]
  obtain ⟨i, rfl⟩ := Nat.exists_eq_add_of_le' settled
  exact ⟨write (i + 2) (by omega), read (i + 2) (by omega), load (i + 1) (by omega),
    inc i (by omega)⟩

/-- From the second dot on nothing is written. -/
theorem Scanning.pulse (scanning : Scanning io start header first n) (time : ℕ)
    (settled : 2 ≤ time) (le : time ≤ n) : (dotRun io start time).ppuWrite = false := by
  obtain ⟨i, rfl⟩ := Nat.exists_eq_add_of_le' settled
  have quiet : (dotRun io start (i + 1)).ppu.waiting .write = false := by
    rw [scanning.waiting i (by omega) .write (by decide)]
    simp [ready, Ppu.ready]
  have running := scanning.running (i + 1) (by omega)
  have handles := (dotRun io start (i + 1)).ppu.accessNext_handles
    ((dotRun io start (i + 1)).cpuControl (io (i + 1)).bus)
    ((dotRun io start (i + 1)).settledData (io (i + 1)).pins (io (i + 1)).bus)
  rw [dotRun_succ, ppuWrite, ppuClock_access, running.reset, running.enable]
  exact handles.1.trans quiet

/-- The memories keep their contents. -/
theorem Scanning.contents (scanning : Scanning io start header first n) (early late : ℕ)
    (settled : 2 ≤ early) (later : early ≤ late) (le : late ≤ n) :
    (dotRun io start late).mem.contents = (dotRun io start early).mem.contents := by
  apply trace_held (fun nes : Nes => nes.mem.contents) early late later
  intro i after below
  have pulse := scanning.pulse i (by omega) (by omega)
  have stores := ppuClock_contents (io i).pins (io i).bus (io i).cpuEdge (dotRun io start i)
    (scanning.unprogrammed i (by omega))
  rw [stored, pulse] at stores
  exact stores

/-- `t`, the fine scroll and the background pattern table are those of the start. -/
theorem Scanning.registers (scanning : Scanning io start header first n) (time : ℕ)
    (le : time ≤ n) :
    let cpu := (dotRun io start time).ppu.cpu
    cpu.tempVramAddress = start.ppu.cpu.tempVramAddress ∧
      cpu.fineX = start.ppu.cpu.fineX ∧
      cpu.backgroundPtableAddr = start.ppu.cpu.backgroundPtableAddr := by
  refine trace_invariant (fun _ (nes : Nes) =>
    nes.ppu.cpu.tempVramAddress = start.ppu.cpu.tempVramAddress ∧
      nes.ppu.cpu.fineX = start.ppu.cpu.fineX ∧
      nes.ppu.cpu.backgroundPtableAddr = start.ppu.cpu.backgroundPtableAddr)
    ⟨rfl, rfl, rfl⟩ time fun i below before => ?_
  have step := CpuInterface.next_leaves (dotRun io start i).ppu.cpu
    ((dotRun io start i).settledPort (io i).pins (io i).bus)
    (register_of_leaves (dotRun io start i) (scanning.leaves i (by omega)))
  rw [trace_succ, ppuClock_cpu, (scanning.running i (by omega)).reset]
  cases (io i).cpuEdge with
  | false => exact before
  | true => exact ⟨step.1.trans before.1, step.2.1.trans before.2.1, step.2.2.trans before.2.2⟩

/-- Rendering alone moves the VRAM address. -/
theorem Scanning.address_succ (scanning : Scanning io start header first n) (time : ℕ)
    (settled : 3 ≤ time) (below : time < n) :
    (dotRun io start (time + 1)).ppu.vram.activeVramAddress =
      Ppu.walk ((dotRun io start time).ppu.scanline.toNat == 261)
        start.ppu.cpu.tempVramAddress (dotRun io start time).ppu.vram.activeVramAddress
        (time % 341) := by
  have le := Nat.le_of_lt below
  rw [dotRun_succ, ppuClock_vram, (scanning.running time below).reset,
    Ppu.vramNext_idle (scanning.idle time settled le) (scanning.enabled time below),
    Ppu.renderAddress_eq _ (scanning.enabled time below) (scanning.drawn time below),
    (scanning.registers time le).1, scanning.toDrawing.cycle time le]

/-- On a dot after a fetch dot the PPU data bus carries the addressed byte. -/
theorem Scanning.data (scanning : Scanning io start header first n) (time : ℕ)
    (settled : 3 ≤ time) (below : time + 1 < n)
    (fetched : (dotRun io start time).ppu.ppuReadRequest = true) :
    (dotRun io start (time + 1)).settledData (io (time + 1)).pins (io (time + 1)).bus =
      (dotRun io start (time + 1)).mem.contents.read header
        (dotRun io start (time + 1)).ppu.ppuAddr.toNat := by
  have pulse := scanning.pulse (time + 1) (by omega) (by omega)
  have running := scanning.running time (by omega)
  have asked : (dotRun io start (time + 1)).ppuRead (io (time + 1)).bus = true := by
    have live := live_of_leaves (dotRun io start time) (scanning.leaves time (by omega))
    have still : (dotRun io start time).ppu.writePending = false :=
      (scanning.idle time settled (by omega)).write
    have pending : (dotRun io start time).ppu.readPending = false :=
      (scanning.idle time settled (by omega)).read
    rw [ppuRead, Ppu.ppuReadOut, dotRun_succ, ppuClock_access, running.reset, running.enable]
    cases one : (dotRun io start time).ppu.access.oneAfterRead <;>
      simp [Ppu.accessNext, Ppu.writeHalf, Ppu.readHalf, live, pending, fetched, still, one]
  rw [settledData_eq _ _ _ (scanning.unprogrammed (time + 1) below), pulse, asked,
    scanning.game (time + 1) below]
  rfl

/-- A group of eight background fetch dots under one VRAM address. -/
structure FetchGroup (io : ℕ → Dot) (start : Nes) (n time : ℕ) (v : LoopyReg) : Prop where
  /-- Nothing is left to settle from the start. -/
  settled : 3 ≤ time
  /-- The group is within the run. -/
  le : time + 8 ≤ n
  /-- The group starts on the first of eight dots. -/
  aligned : time % 341 % 8 = 1
  /-- It is a group of the background fetches. -/
  inside : time % 341 + 7 ≤ 256 ∨ 321 ≤ time % 341 ∧ time % 341 + 7 ≤ 336
  /-- The VRAM address stays under one tile. -/
  under : ∀ i < 8, (dotRun io start (time + i)).ppu.vram.activeVramAddress = v

variable {time : ℕ} {v : LoopyReg}

/-- The signals on each dot of a group. -/
theorem FetchGroup.signals (scanning : Scanning io start header first n)
    (group : FetchGroup io start n time v) (i : ℕ) (below : i < 8) :
    let ppu := (dotRun io start (time + i)).ppu
    ppu.fetching = true ∧ ppu.spriteFetchDot = false ∧ ppu.counter.toNat = i ∧
      ppu.ppuReadRequest = true := by
  intro ppu
  have le := group.le
  have aligned := group.aligned
  have inside := group.inside
  have dot : (time + i) % 341 = time % 341 + i := by
    rw [Nat.add_mod, Nat.mod_eq_of_lt (by omega : i < 341), Nat.mod_eq_of_lt (by omega)]
  have cycle : ppu.engine.cycle.toNat = time % 341 + i :=
    (scanning.toDrawing.cycle (time + i) (by omega)).trans dot
  have enabled : ppu.renderEnable = true := scanning.enabled (time + i) (by omega)
  have drawn : ppu.renderLine = true := scanning.drawn (time + i) (by omega)
  have fetches : ppu.fetchDot = true := by
    rw [Ppu.fetchDot, cycle, Bool.or_eq_true, Bool.and_eq_true, Bool.and_eq_true]
    simp only [decide_eq_true_eq]
    omega
  refine ⟨?_, ?_, ?_, ?_⟩
  · rw [Ppu.fetching, enabled, drawn, fetches]
    rfl
  · rw [Ppu.spriteFetchDot, cycle, Bool.and_eq_false_iff]
    simp only [decide_eq_false_iff_not]
    omega
  · rw [Ppu.counter_toNat, cycle]
    omega
  · rw [Ppu.ppuReadRequest, enabled, drawn, fetches]
    rfl

/-- The latches after each dot of a group. -/
theorem FetchGroup.latches (scanning : Scanning io start header first n)
    (group : FetchGroup io start n time v) (i : ℕ) (below : i < 8) :
    let nes := dotRun io start (time + i)
    let next := (dotRun io start (time + i + 1)).ppu.bg
    let data := nes.settledData (io (time + i)).pins (io (time + i)).bus
    (next.ntableByte = if i = 1 then data else nes.ppu.bg.ntableByte) ∧
      (next.atableBits =
        if i = 3 then Ppu.atableQuadrant v data else nes.ppu.bg.atableBits) ∧
      ∀ plane : Fin 2, next.ptableDataTemp plane =
        if i = 5 + 2 * plane.val then data else nes.ppu.bg.ptableDataTemp plane := by
  intro nes next data
  have le := group.le
  obtain ⟨fetching, -, counter, -⟩ := group.signals scanning i below
  have step := nes.ppu.backgroundNext_fetching data fetching
  rw [counter, group.under i below] at step
  have edge : next = nes.ppu.backgroundNext false data := by
    rw [← (scanning.running (time + i) (by omega)).reset]
    rfl
  rw [edge]
  exact ⟨step.1, step.2.1, step.2.2.1⟩

/-- The byte on the PPU data bus on each later dot of a group. -/
theorem FetchGroup.data (scanning : Scanning io start header first n)
    (group : FetchGroup io start n time v) (i : ℕ) (below : i + 1 < 8) :
    let nes := dotRun io start (time + (i + 1))
    nes.settledData (io (time + (i + 1))).pins (io (time + (i + 1))).bus =
      (dotRun io start (time + 8)).mem.contents.read header nes.ppu.ppuAddr.toNat := by
  intro nes
  have le := group.le
  have settled := group.settled
  have read := scanning.data (time + i) (by omega) (by omega)
    (group.signals scanning i (by omega)).2.2.2
  have contents := scanning.contents (time + (i + 1)) (time + 8) (by omega) (by omega) le
  rw [contents]
  exact read

/-- A group latches the tile under its VRAM address. -/
theorem FetchGroup.fetches (scanning : Scanning io start header first n)
    (group : FetchGroup io start n time v) :
    let nes := dotRun io start (time + 8)
    let tile := nes.mem.contents.tileUnder header start.ppu.cpu.backgroundPtableAddr v
    nes.ppu.bg.ntableByte = tile.name ∧ nes.ppu.bg.atableBits = tile.palette ∧
      nes.ppu.bg.ptableDataTemp = tile.pattern := by
  intro nes tile
  have le := group.le
  have settled := group.settled
  -- a latch keeps what it took until it is loaded again
  have held {α : Type} (latch : Background → α) (taken last : ℕ) (order : taken ≤ last)
      (inside : last ≤ 8)
      (kept : ∀ i, taken ≤ i → i < last → latch (dotRun io start (time + i + 1)).ppu.bg =
        latch (dotRun io start (time + i)).ppu.bg) :
      latch (dotRun io start (time + last)).ppu.bg =
        latch (dotRun io start (time + taken)).ppu.bg := by
    apply trace_held (fun nes : Nes => latch nes.ppu.bg) (time + taken) (time + last)
      (by omega)
    intro i after below
    obtain ⟨k, rfl⟩ := Nat.exists_eq_add_of_le (show time ≤ i by omega)
    exact kept k (by omega) (by omega)
  have half (i : ℕ) (below : i < 8) :
      (dotRun io start (time + i)).ppu.cpu.backgroundPtableAddr =
        start.ppu.cpu.backgroundPtableAddr :=
    (scanning.registers (time + i) (by omega)).2.2
  have addr (i : ℕ) (below : i < 8) := by
    obtain ⟨fetching, background, counter, -⟩ := group.signals scanning i below
    have address := Ppu.ppuAddr_fetching _ fetching background
    rw [counter, group.under i below, half i below] at address
    exact address
  have name (last : ℕ) (order : 2 ≤ last) (inside : last ≤ 8) :
      (dotRun io start (time + last)).ppu.bg.ntableByte = tile.name := by
    rw [held Background.ntableByte 2 last order inside fun i after below => by
      rw [(group.latches scanning i (by omega)).1, if_neg (by omega)]]
    have taken := (group.latches scanning 1 (by decide)).1
    rw [if_pos rfl, group.data scanning 0 (by decide), addr 1 (by decide)] at taken
    exact taken.trans (congrArg _ (Ppu.ntableFetchAddr_toNat v))
  have palette : nes.ppu.bg.atableBits = tile.palette := by
    rw [held Background.atableBits 4 8 (by decide) (by decide) fun i after below => by
      rw [(group.latches scanning i (by omega)).2.1, if_neg (by omega)]]
    have taken := (group.latches scanning 3 (by decide)).2.1
    rw [if_pos rfl, group.data scanning 2 (by decide), addr 3 (by decide)] at taken
    rw [taken]
    funext plane
    exact (Ppu.atableQuadrant_eq v _ plane).trans (congrArg
      (fun addr => (nes.mem.contents.read header addr).getLsbD _) (Ppu.atableFetchAddr_toNat v))
  refine ⟨name 8 (by decide) (by decide), palette, ?_⟩
  funext plane
  match plane with
  | 0 =>
    rw [held (fun bg => bg.ptableDataTemp 0) 6 8 (by decide) (by decide) fun i after below => by
      rw [(group.latches scanning i (by omega)).2.2 0]
      exact if_neg (by omega)]
    have taken := (group.latches scanning 5 (by decide)).2.2 0
    rw [if_pos (by decide), group.data scanning 4 (by decide), addr 5 (by decide),
      name 5 (by decide) (by decide)] at taken
    exact taken.trans (congrArg _ (Ppu.ptableFetchAddr_toNat _ _ _ _))
  | 1 =>
    have taken := (group.latches scanning 7 (by decide)).2.2 1
    rw [if_pos (by decide), group.data scanning 6 (by decide), addr 7 (by decide),
      name 7 (by decide) (by decide)] at taken
    exact taken.trans (congrArg _ (Ppu.ptableFetchAddr_toNat _ _ _ _))

/-! ## A frame -/

/-- Where the beam is on a rendered line of a frame. -/
theorem frame_line (time : ℕ) (below : time < 341 * 241) :
    (261 + time / 341) % 262 = 261 ∧ time / 341 = 0 ∨
      (261 + time / 341) % 262 ≤ 239 ∧ 1 ≤ time / 341 := by
  omega

/-- A frame leaves the rendered lines only after line 239. -/
theorem Drawing.renderLine_of_frame (drawing : Drawing io start 261 n) (inside : n ≤ 341 * 241)
    (time : ℕ) (below : time < n) : (dotRun io start time).ppu.renderLine = true := by
  have line := drawing.scanline time (Nat.le_of_lt below)
  have frame := frame_line time (by omega)
  rw [Ppu.renderLine, line, Bool.or_eq_true, decide_eq_true_eq, beq_iff_eq]
  omega

/-- From dot 258 of its first line to the tiles of the next one, the horizontal fields are
those of `t`. -/
theorem Scanning.horizontal_copied (scanning : Scanning io start header first n) (dot : ℕ)
    (late : 258 ≤ dot) (early : dot ≤ 321) (le : dot ≤ n) :
    (dotRun io start dot).ppu.vram.activeVramAddress.horizontal =
      start.ppu.cpu.tempVramAddress.horizontal := by
  have back : (dotRun io start 258).ppu.vram.activeVramAddress.horizontal =
      start.ppu.cpu.tempVramAddress.horizontal := by
    have step := scanning.address_succ 257 (by decide) (by omega)
    rw [LoopyReg.walk_back] at step
    exact (congrArg LoopyReg.horizontal step).trans (Ppu.hcopy_horizontal _ _)
  have held : (dotRun io start dot).ppu.vram.activeVramAddress.horizontal =
      (dotRun io start 258).ppu.vram.activeVramAddress.horizontal := by
    apply trace_held (fun nes : Nes => nes.ppu.vram.activeVramAddress.horizontal) 258 dot late
    intro i after below
    have step := scanning.address_succ i (by omega) (by omega)
    rw [Nat.mod_eq_of_lt (by omega)] at step
    exact (congrArg LoopyReg.horizontal step).trans
      (LoopyReg.walk_horizontal _ _ _ i after (by omega))
  exact held.trans back

/-- By dot 281 of the pre-render line the VRAM address is `t`. -/
theorem Scanning.loaded (scanning : Scanning io start header 261 n) (inside : 281 ≤ n) :
    (dotRun io start 281).ppu.vram.activeVramAddress = start.ppu.cpu.tempVramAddress := by
  have across := scanning.horizontal_copied 280 (by decide) (by decide) (by omega)
  have line := scanning.toDrawing.scanline 280 (by omega)
  have step := scanning.address_succ 280 (by decide) (by omega)
  rw [line, show ((261 + 280 / 341) % 262 == 261) = true from rfl, Nat.mod_eq_of_lt (by decide),
    LoopyReg.walk_down] at step
  rw [step]
  exact LoopyReg.ext_groups ((Ppu.vcopy_horizontal _ _).trans across) rfl

/-- From dot 281 of the pre-render line on, the VRAM address is `t` moved by whole tiles and
lines. -/
theorem Scanning.address (scanning : Scanning io start header 261 n) (inside : n ≤ 341 * 241)
    (time : ℕ) (late : 281 ≤ time) (le : time ≤ n) :
    (dotRun io start time).ppu.vram.activeVramAddress =
      start.ppu.cpu.tempVramAddress.onDot (time / 341) (time % 341) := by
  apply trace_from (fun time (nes : Nes) => nes.ppu.vram.activeVramAddress =
    start.ppu.cpu.tempVramAddress.onDot (time / 341) (time % 341)) 281
    (scanning.loaded (by omega)) time late
  intro i after below before
  have line := scanning.toDrawing.scanline i (by omega)
  have frame := frame_line i (by omega)
  have first : ((261 + i / 341) % 262 == 261) = (i / 341 == 0) := by
    rw [Bool.eq_iff_iff, beq_iff_eq, beq_iff_eq]
    omega
  have step := scanning.address_succ i (by omega) (by omega)
  rw [line, first] at step
  exact step.trans ((congrArg (fun v => Ppu.walk (i / 341 == 0) _ v _) before).trans
    (LoopyReg.walk_onTime start.ppu.cpu.tempVramAddress i after))

/-- The time at which the eight dots of a tile start, lines counted from the pre-render line:
the first two tiles of a line are fetched at the end of the line before it. -/
def tileStart (line tile : ℕ) : ℕ :=
  if tile < 2 then 341 * line + (321 + 8 * tile) else 341 * (line + 1) + (8 * (tile - 2) + 1)

/-- The eight dots of a tile, along a walk of the VRAM address. -/
theorem fetchGroup_of_walk (t : LoopyReg) (line tile : ℕ) (row : tile < 34)
    (le : tileStart line tile + 8 ≤ n)
    (walks : ∀ i < 8, (dotRun io start (tileStart line tile + i)).ppu.vram.activeVramAddress =
      t.onDot ((tileStart line tile + i) / 341) ((tileStart line tile + i) % 341)) :
    FetchGroup io start n (tileStart line tile) (Ppu.hinc^[tile] (Ppu.vinc^[line] t)) := by
  unfold tileStart at le walks ⊢
  by_cases early : tile < 2
  · rw [if_pos early] at le walks ⊢
    refine ⟨by omega, le, ?_, ?_, fun i below => ?_⟩
    · rw [(onDot_time line (321 + 8 * tile) (by omega)).2]
      omega
    · rw [(onDot_time line (321 + 8 * tile) (by omega)).2]
      omega
    · rw [walks i below, Nat.add_assoc, (onDot_time line (321 + 8 * tile + i) (by omega)).1,
        (onDot_time line (321 + 8 * tile + i) (by omega)).2, LoopyReg.onDot,
        if_neg (by omega), if_neg (by omega),
        show (321 + 8 * tile + i - 321) / 8 = tile by omega]
  · rw [if_neg early] at le walks ⊢
    refine ⟨by omega, le, ?_, ?_, fun i below => ?_⟩
    · rw [(onDot_time (line + 1) (8 * (tile - 2) + 1) (by omega)).2]
      omega
    · rw [(onDot_time (line + 1) (8 * (tile - 2) + 1) (by omega)).2]
      omega
    · rw [walks i below, Nat.add_assoc,
        (onDot_time (line + 1) (8 * (tile - 2) + 1 + i) (by omega)).1,
        (onDot_time (line + 1) (8 * (tile - 2) + 1 + i) (by omega)).2, LoopyReg.onDot,
        if_pos (by omega), show 2 + (8 * (tile - 2) + 1 + i - 1) / 8 = tile by omega,
        Nat.add_sub_cancel]

/-- The eight dots of a tile of a frame. -/
theorem Scanning.group (scanning : Scanning io start header 261 n) (inside : n ≤ 341 * 241)
    (line tile : ℕ) (row : tile < 34) (le : tileStart line tile + 8 ≤ n) :
    FetchGroup io start n (tileStart line tile)
      (Ppu.hinc^[tile] (Ppu.vinc^[line] start.ppu.cpu.tempVramAddress)) := by
  have late : 281 ≤ tileStart line tile := by
    unfold tileStart
    split <;> omega
  exact fetchGroup_of_walk _ line tile row le
    fun i below => scanning.address inside _ (by omega) (by omega)

end

/-- The tile under the VRAM address after the walk over a picture. -/
theorem tileUnder_walk (m : PpuMemory) (header : Header) (half : Bool) (t : LoopyReg)
    (line tile : ℕ) (row : t.coarseY.toNat ≤ 29) (visible : line < 240) :
    let column := (32 * t.nametableX.toNat + t.coarseX.toNat + tile) % 64
    let y := 8 * t.coarseY.toNat + t.fineY.toNat + line
    m.tileUnder header half (Ppu.hinc^[tile] (Ppu.vinc^[line] t)) =
      m.tile header half (decide (32 ≤ column)) (t.nametableY ^^ decide (240 ≤ y))
        (column % 32) (y % 240 / 8) (y % 8) := by
  intro column y
  obtain ⟨down, row', across⟩ := Ppu.vinc_iterate t row line
  obtain ⟨walked, kept⟩ := Ppu.hinc_iterate (Ppu.vinc^[line] t) tile
  generalize Ppu.vinc^[line] t = top at *
  generalize Ppu.hinc^[tile] top = v at *
  simp only [LoopyReg.horizontal, LoopyReg.vertical, Prod.mk.injEq] at across kept
  have bounds := t.bounds
  have columns : v.column = column := by
    rw [walked, LoopyReg.column, across.1, across.2]
  have lines : v.pixelLine = (240 * t.nametableY.toNat + y) % 480 := by
    rw [LoopyReg.pixelLine, kept.1, kept.2.1, kept.2.2, ← LoopyReg.pixelLine, down,
      LoopyReg.pixelLine]
    congr 1
    omega
  obtain ⟨nametableX, coarseX⟩ := v.column_fields
  obtain ⟨nametableY, coarseY, fineY⟩ := v.pixelLine_fields (by rw [kept.2.2]; exact row')
  have far : decide (240 ≤ v.pixelLine) = (t.nametableY ^^ decide (240 ≤ y)) := by
    rw [lines, Bool.eq_iff_iff]
    cases t.nametableY <;>
      simp only [Bool.toNat_false, Bool.toNat_true, Bool.false_xor, Bool.true_xor,
        Bool.not_eq_true', decide_eq_true_eq, decide_eq_false_iff_not] <;> omega
  have near : v.pixelLine % 240 = y % 240 ∧ v.pixelLine % 8 = y % 8 := by
    rw [lines]
    omega
  rw [PpuMemory.tileUnder, nametableX, coarseX, nametableY, coarseY, fineY, columns, far, near.1,
    near.2]

/-- Over every frame drawn with rendering enabled and no access of `$2000`, `$2005`, `$2006`
or `$2007`, each group of fetch dots latches the name, the palette bits and the pattern bytes
of its tile in the picture scrolled by `t`. The memories are as a write before the frame has
left them on its second dot. -/
theorem background_fetched (io : ℕ → Dot) (start : Nes) (header : Header) (n line tile : ℕ)
    (drawing : Drawing io start 261 n) (frame : n ≤ 341 * 241)
    (game : ∀ i < n, (io i).pins.header = header)
    (leaves : ∀ i < n, (io i).bus.leavesScroll = true)
    (row : start.ppu.cpu.tempVramAddress.coarseY.toNat ≤ 29) (visible : line < 240)
    (inside : tile < 34) (le : tileStart line tile + 8 ≤ n) :
    let t := start.ppu.cpu.tempVramAddress
    let column := (32 * t.nametableX.toNat + t.coarseX.toNat + tile) % 64
    let y := 8 * t.coarseY.toNat + t.fineY.toNat + line
    let nes := dotRun io start (tileStart line tile + 8)
    let fetched := (dotRun io start 2).mem.contents.tile header start.ppu.cpu.backgroundPtableAddr
      (decide (32 ≤ column)) (t.nametableY ^^ decide (240 ≤ y)) (column % 32) (y % 240 / 8)
      (y % 8)
    nes.ppu.bg.ntableByte = fetched.name ∧ nes.ppu.bg.atableBits = fetched.palette ∧
      nes.ppu.bg.ptableDataTemp = fetched.pattern := by
  intro t column y nes fetched
  have scanning : Scanning io start header 261 n :=
    ⟨drawing, game, leaves, drawing.renderLine_of_frame frame⟩
  have early : 3 ≤ tileStart line tile := by
    unfold tileStart
    split <;> omega
  have contents := scanning.contents 2 (tileStart line tile + 8) (by decide) (by omega) le
  have under : nes.mem.contents.tileUnder header start.ppu.cpu.backgroundPtableAddr
      (Ppu.hinc^[tile] (Ppu.vinc^[line] t)) = fetched := by
    rw [contents]
    exact tileUnder_walk _ _ _ t line tile row visible
  obtain ⟨name, palette, pattern⟩ :=
    (scanning.group frame line tile inside le).fetches scanning
  exact ⟨name.trans (congrArg Tile.name under), palette.trans (congrArg Tile.palette under),
    pattern.trans (congrArg Tile.pattern under)⟩

/-- Memories in which every cell holds the low byte of its address. -/
def countingMemories : Memories :=
  { Memories.blank with
    vram := ⟨fun cell => cell.setWidth 8, 0⟩
    chrRom := ⟨fun cell => cell.setWidth 8, 0⟩ }

/-- The second tile of line 0 has name 1, and its planes are at `$0010` and `$0018`. -/
theorem countingTile_fetched :
    let bg := (dotRun quietDots (lineStart countingMemories 261) 337).ppu.bg
    bg.ntableByte = 1 ∧ bg.ptableDataTemp 0 = 0x10 ∧ bg.ptableDataTemp 1 = 0x18 := by
  have fetched := background_fetched quietDots (lineStart countingMemories 261) ⟨false, true⟩
    337 0 1 (drawing_of_quiet _ _ _ rfl rfl rfl) (by decide) (fun _ _ => rfl) (fun _ _ => rfl)
    (by decide) (by decide) (by decide) (by decide)
  obtain ⟨name, -, pattern⟩ := fetched
  intro bg
  have planes : bg.ptableDataTemp = _ := pattern
  rw [planes]
  exact ⟨name.trans (by decide +kernel), by decide +kernel, by decide +kernel⟩

end Nes

end FpgaNes
