import FpgaNes.Requests
import Mathlib.Data.Nat.Count
import Mathlib.Tactic.IntervalCases

/-!
# Pauses

`ENABLE` low freezes the processor in its bus cycle. The CPU interface still acts on the
frozen cycle at every edge of `CPU_CLK`, and the read and write handler clears its two handles
on every edge of the PPU clock, while the requests they answer stay as they are. A pause is
transparent when it finds both handles low and a cycle that may be repeated. Without a pause two
requests cancel only where a palette read holds up the first, and a pause adds no other case.
-/

namespace FpgaNes

open Hdl

namespace CpuBus

/-- A register access that does more when it is made twice: it moves an address, turns the
write toggle over, asks for service, or starts the DMA. -/
def repeats (bus : CpuBus) : Bool :=
  bus.writes 4 || bus.writes 5 || bus.writes 6 || bus.writes 7 || bus.reads 2 || bus.reads 7 ||
    bus.startsDma

/-- An access that may be repeated asks for nothing. -/
theorem asks_of_repeats {bus : CpuBus} (once : bus.repeats = false) (latch : Bool) (l : Lane) :
    bus.asks latch l = false := by
  simp only [repeats, Bool.or_eq_false_iff] at once
  cases l <;> simp [asks, once]

/-- It starts no DMA. -/
theorem startsDma_of_once {bus : CpuBus} (once : bus.repeats = false) :
    bus.startsDma = false := by
  rw [repeats, Bool.or_eq_false_iff] at once
  exact once.2

/-- Made twice, it leaves what it leaves when it is made once. -/
theorem act_act {bus : CpuBus} (once : bus.repeats = false) (r : CpuInterface) :
    bus.act (bus.act r) = bus.act r := by
  have number := bus.register_toNat
  have below : bus.addr.toNat % 8 < 8 := Nat.mod_lt _ (by decide)
  unfold act
  cases inside : Nes.ppuRange bus.addr with
  | false => rfl
  | true =>
    simp only [repeats, writes, reads, inside, Bool.or_eq_false_iff] at once
    cases direction : bus.rwN with
    | true =>
      simp only [direction, Bool.and_self, Bool.true_and, beq_eq_false_iff_ne] at once
      rw [← number] at once below
      have none : ∀ r : CpuInterface, r.read (bus.addr.setWidth 3) = r := by
        intro r
        unfold CpuInterface.read
        split
        · exact absurd ‹_› once.1.1.2
        · exact absurd ‹_› once.1.2
        · rfl
      show (r.read _).read _ = r.read _
      rw [none, none]
    | false =>
      simp only [direction, Bool.not_false, Bool.and_self, Bool.true_and,
        beq_eq_false_iff_ne] at once
      rw [← number] at once below
      have low : (bus.addr.setWidth 3).toNat = 0 ∨ (bus.addr.setWidth 3).toNat = 1 ∨
          (bus.addr.setWidth 3).toNat = 2 ∨ (bus.addr.setWidth 3).toNat = 3 := by
        omega
      show (r.write _ _).write _ _ = r.write _ _
      rcases low with h | h | h | h <;> simp only [CpuInterface.write, h]

/-- Only a write of `$2007` fills the write buffer. -/
theorem act_writeBuffer {bus : CpuBus} (other : bus.writes 7 = false) (r : CpuInterface) :
    (bus.act r).ppuWriteBuffer = r.ppuWriteBuffer := by
  have number := bus.register_toNat
  unfold act
  cases inside : Nes.ppuRange bus.addr with
  | false => rfl
  | true =>
    cases direction : bus.rwN with
    | true =>
      show (r.read _).ppuWriteBuffer = _
      unfold CpuInterface.read
      split <;> rfl
    | false =>
      simp only [writes, inside, direction, Bool.not_false, Bool.and_self, Bool.true_and,
        beq_eq_false_iff_ne] at other
      rw [← number] at other
      show (r.write _ _).ppuWriteBuffer = _
      unfold CpuInterface.write
      split
      case h_7 seven => exact absurd seven other
      all_goals first | rfl | (split <;> rfl)

end CpuBus

/-- Both cleared handles are low already. -/
def Ppu.HandlesLow (ppu : Ppu) : Prop :=
  ppu.access.ppuWriteHandle = false ∧ ppu.access.ppuReadHandle = false

instance (ppu : Ppu) : Decidable ppu.HandlesLow :=
  inferInstanceAs
    (Decidable (ppu.access.ppuWriteHandle = false ∧ ppu.access.ppuReadHandle = false))

namespace Nes

variable {pins : Pins} {bus : CpuBus}

/-- The PPU answers on a pair at its next edge, paused or not. -/
def answers (pins : Pins) (bus : CpuBus) (nes : Nes) (l : Lane) : Bool :=
  nes.ready bus l && (pins.enable || !l.gated)

/-! ## One dot -/

/-- A paused edge that finds the handles low: the gated pairs are not answered, and the others
are. -/
theorem lane_paused (nes : Nes) (released : pins.reset = false) (paused : pins.enable = false)
    (low : nes.ppu.HandlesLow) (cpuEdge : Bool) (l : Lane) :
    (nes.ppuClock pins bus cpuEdge).ppu.lane l =
      (nes.ppu.lane l).step (cpuEdge && nes.asks bus l) (nes.answers pins bus l) := by
  have ungated : ∀ l, l.gated = false → nes.answers pins bus l = nes.ready bus l := by
    intro l free
    rw [answers, free, Bool.not_false, Bool.or_true, Bool.and_true]
  have quiet : ∀ l, l.gated = true → nes.answers pins bus l = false := by
    intro l gated
    rw [answers, gated, paused, Bool.not_true, Bool.or_false, Bool.and_false]
  apply lane_of_handles released cpuEdge (nes.answers pins bus) ungated
  · rw [quiet .write rfl, Bool.and_false, Bool.xor_false, low.1, ppuClock_access, released,
      paused]
    rfl
  · rw [quiet .read rfl, Bool.and_false, Bool.xor_false, low.2, ppuClock_access, released,
      paused]
    rfl

/-- Each pair makes one step of the toggle handshake over a dot, unless a pause clears a handle
that is set. -/
theorem lane_dot (nes : Nes) (released : pins.reset = false)
    (low : pins.enable = false → nes.ppu.HandlesLow) (cpuEdge : Bool) (l : Lane) :
    (nes.ppuClock pins bus cpuEdge).ppu.lane l =
      (nes.ppu.lane l).step (cpuEdge && nes.asks bus l) (nes.answers pins bus l) := by
  cases enable : pins.enable with
  | false => exact lane_paused nes released enable (low enable) cpuEdge l
  | true =>
    rw [lane_ppuClock ⟨released, enable⟩, answers, enable, Bool.true_or, Bool.and_true]

/-- What waits on a pair after a dot. -/
theorem waiting_dot (nes : Nes) (released : pins.reset = false)
    (low : pins.enable = false → nes.ppu.HandlesLow) (cpuEdge : Bool) (l : Lane) :
    (nes.ppuClock pins bus cpuEdge).ppu.waiting l =
      ((cpuEdge && nes.asks bus l) ^^ (nes.ppu.waiting l && !nes.answers pins bus l)) := by
  rw [Ppu.waiting, lane_dot nes released low, Handshake.pending_step]
  rfl

/-- An answered request takes effect on the edge that answers it, paused or not. -/
theorem effect_of_answered (nes : Nes) (released : pins.reset = false) (cpuEdge : Bool) (l : Lane)
    (served : (nes.ppu.waiting l && nes.answers pins bus l) = true) :
    Ppu.effect nes.ppu (nes.ppuClock pins bus cpuEdge).ppu l := by
  cases enable : pins.enable with
  | true =>
    rw [answers, enable, Bool.true_or, Bool.and_true] at served
    exact effect_of_served nes ⟨released, enable⟩ cpuEdge l served
  | false =>
    rw [answers, enable, Bool.false_or, ← Bool.and_assoc, Bool.and_eq_true,
      Bool.not_eq_true'] at served
    exact effect_of_ungated nes released cpuEdge l served.2 served.1

/-- A dot performs a request exactly when it was waiting and the PPU answers. -/
theorem performs_dot (nes : Nes) (released : pins.reset = false)
    (low : pins.enable = false → nes.ppu.HandlesLow) (cpuEdge : Bool) (l : Lane) :
    Ppu.Performs nes.ppu (nes.ppuClock pins bus cpuEdge).ppu l ↔
      (nes.ppu.waiting l && nes.answers pins bus l) = true := by
  have moved : ((nes.ppuClock pins bus cpuEdge).ppu.lane l).handle ≠ (nes.ppu.lane l).handle ↔
      (nes.ppu.waiting l && nes.answers pins bus l) = true := by
    rw [lane_dot nes released low]
    exact Handshake.handle_step _ _ _
  exact ⟨fun performed => moved.mp performed.1,
    fun served => ⟨moved.mpr served, effect_of_answered nes released cpuEdge l served⟩⟩

/-! ## Transparent pauses -/

/-- The processor ends its bus cycle on the edge that ends the dot. -/
def completes (dot : Dot) (nes : Nes) : Bool := dot.cpuEdge && nes.cpuEnable dot.pins

/-- A completed bus cycle asks for service on a pair. -/
def requests (dot : Dot) (nes : Nes) (l : Lane) : Bool :=
  nes.completes dot && nes.asks dot.bus l

/-- The CPU interface acts on the bus cycle, completed or not. -/
def asked (dot : Dot) (nes : Nes) (l : Lane) : Bool := dot.cpuEdge && nes.asks dot.bus l

/-- The PPU leaves a request waiting over the dot. -/
def left (dot : Dot) (nes : Nes) (l : Lane) : Bool :=
  nes.ppu.waiting l && !nes.answers dot.pins dot.bus l

/-- `PPU_READ` after an edge that is not paused. -/
theorem accessNext_ppuRead (ppu : Ppu) (port : CpuPort) (data : Byte) :
    (ppu.accessNext false true port data).ppuRead =
      if ppu.cpuFramePaletteRead port then ppu.access.ppuRead
      else ppu.readPending || ppu.ppuReadRequest := by
  cases live : ppu.cpuFramePaletteRead port <;> cases pending : ppu.readPending <;>
    cases fetch : ppu.ppuReadRequest <;> cases one : ppu.access.oneAfterRead <;>
    cases write : ppu.writePending <;>
    simp [Ppu.accessNext, Ppu.writeHalf, Ppu.readHalf, live, pending, fetch, one, write]

/-- A read is asked for on one edge and its data taken on the next. -/
theorem accessNext_oneAfterRead (ppu : Ppu) (port : CpuPort) (data : Byte)
    (dead : ppu.cpuFramePaletteRead port = false) (idle : ppu.access.oneAfterRead = false) :
    (ppu.accessNext false true port data).oneAfterRead =
      (ppu.readPending || ppu.ppuReadRequest) := by
  cases pending : ppu.readPending <;> cases fetch : ppu.ppuReadRequest <;>
    cases write : ppu.writePending <;>
    simp [Ppu.accessNext, Ppu.writeHalf, Ppu.readHalf, dead, pending, fetch, idle, write]

/-- The edge after a read takes the data bus into the read buffer. -/
theorem accessNext_captures (ppu : Ppu) (port : CpuPort) (data : Byte)
    (after : ppu.access.oneAfterRead = true) :
    (ppu.accessNext false true port data).ppuReadBuffer = data := by
  cases live : ppu.cpuFramePaletteRead port <;> cases write : ppu.writePending <;>
    simp [Ppu.accessNext, Ppu.writeHalf, Ppu.readHalf, live, after, write]

/-- An edge of `MCLK` without `PPU_WRITE` stores nothing on the PPU bus. -/
theorem memNext_kept (nes : Nes) (pins : Pins) (bus : CpuBus) (calm : nes.ppuWrite = false) :
    (nes.memNext pins bus).contents.vram = nes.mem.contents.vram ∧
      (nes.memNext pins bus).contents.palette = nes.mem.contents.palette ∧
        (nes.memNext pins bus).contents.chrRam = nes.mem.contents.chrRam := by
  simp [memNext, Memories.contents, Vram.clock, SyncMemory.clock, Chr.ramClock,
    FramePalette.clock, calm]

/-- A dot without `PPU_WRITE` stores nothing on the PPU bus. -/
theorem ppuClock_kept (nes : Nes) (pins : Pins) (bus : CpuBus) (cpuEdge : Bool)
    (calm : nes.ppuWrite = false) :
    (nes.ppuClock pins bus cpuEdge).mem.contents.vram = nes.mem.contents.vram ∧
      (nes.ppuClock pins bus cpuEdge).mem.contents.palette = nes.mem.contents.palette ∧
        (nes.ppuClock pins bus cpuEdge).mem.contents.chrRam = nes.mem.contents.chrRam := by
  have first := nes.memNext_kept pins bus calm
  have second := (nes.mclkEdge pins bus).memNext_kept pins bus calm
  have third := ((nes.mclkEdge pins bus).mclkEdge pins bus).memNext_kept pins bus calm
  have last := (nes.settle pins bus).memNext_kept pins bus calm
  exact ⟨last.1.trans (third.1.trans (second.1.trans first.1)),
    last.2.1.trans (third.2.1.trans (second.2.1.trans first.2.1)),
    last.2.2.trans (third.2.2.trans (second.2.2.trans first.2.2))⟩

/-- The dot comes right after a paused one, or starts the run. -/
def resumes (io : ℕ → Dot) : ℕ → Bool
  | 0 => true
  | n + 1 => !(io n).pins.enable

/-- The dot before is not paused, and a live palette read holds up the read handler on it. -/
def HeldBefore (io : ℕ → Dot) (start : Nes) : ℕ → Prop
  | 0 => False
  | n + 1 => (io n).pins.enable = true ∧
    (dotRun io start n).ppu.cpuFramePaletteRead ((dotRun io start n).cpuControl (io n).bus) = true

/-- What a dot must meet for pauses to be transparent. -/
structure PauseSafe (io : ℕ → Dot) (start : Nes) (n : ℕ) : Prop where
  /-- A paused dot finds both access handles low: an even number of writes and of reads of
  `$2007` has been performed since they were last cleared. -/
  handles : (io n).pins.enable = false → (dotRun io start n).ppu.HandlesLow
  /-- An edge of `CPU_CLK` in a pause finds a frozen cycle that may be repeated. -/
  frozen : (io n).pins.enable = false → (io n).cpuEdge = true →
    (dotRun io start n).dma.dmaActive = true ∨ (io n).bus.repeats = false
  /-- Right after a pause, an access that moves the VRAM address finds no earlier access of
  `$2007` unanswered. -/
  apart : resumes io n = true → (io n).cpuEdge = true → (io n).pins.enable = true →
    ((dotRun io start n).asks (io n).bus .inc ||
        (dotRun io start n).asks (io n).bus .load) = true →
      (dotRun io start n).ppu.waiting .write = false ∧
        (dotRun io start n).ppu.waiting .read = false
  /-- Right after a paused dot, a write of `$2000` that turns the increment over finds no access
  of `$2007` unanswered. -/
  stride : resumes io n = true → (io n).cpuEdge = true →
    (dotRun io start n).dma.dmaActive = false →
    ((io n).bus.act (dotRun io start n).ppu.cpu).addrIncrement ≠
        (dotRun io start n).ppu.cpu.addrIncrement →
      (dotRun io start n).ppu.waiting .write = false ∧
        (dotRun io start n).ppu.waiting .read = false
  /-- A pause on the dot that is to take the data of a performed read finds that byte in the read
  buffer. -/
  reading : ((dotRun io start n).ppu.waiting .read &&
      (dotRun io start n).answers (io n).pins (io n).bus .read) = true →
    (dotRun io start n).ppu.access.oneAfterRead = false → (io (n + 1)).pins.enable = false →
      (dotRun io start (n + 1)).settledData (io (n + 1)).pins (io (n + 1)).bus =
        (dotRun io start (n + 1)).ppu.access.ppuReadBuffer

/-- The requests that wait come from one register access. -/
structure OneWaiting (ppu : Ppu) : Prop where
  /-- With a write no read and no load waits. -/
  write : ppu.waiting .write = true → ppu.waiting .read = false ∧ ppu.waiting .load = false
  /-- With a read no load waits. -/
  read : ppu.waiting .read = true → ppu.waiting .load = false
  /-- With a load no increment waits. -/
  load : ppu.waiting .load = true → ppu.waiting .inc = false

/-- What waits on a quiet console comes from one access. -/
theorem oneWaiting_of_quiet {ppu : Ppu} (quiet : ppu.Quiet) : OneWaiting ppu :=
  ⟨fun _ => ⟨quiet .read, quiet .load⟩, fun _ => quiet .load, fun _ => quiet .inc⟩

/-- `RESET` clears both sides of the pairs, apart from the handle of vertical blank. -/
theorem oneWaiting_of_reset (nes : Nes) (held : pins.reset = true) :
    OneWaiting (nes.ppuClock pins bus true).ppu := by
  have clear : ∀ l, l ≠ .nmiClear → (nes.ppuClock pins bus true).ppu.waiting l = false := by
    intro l lane
    cases l <;> simp [Ppu.waiting, Ppu.lane, Hdl.Handshake.pending, held, CpuInterface.next,
      Ppu.accessNext, Ppu.vramNext] at lane ⊢
  exact ⟨fun _ => ⟨clear .read Lane.noConfusion, clear .load Lane.noConfusion⟩,
    fun _ => clear .load Lane.noConfusion, fun _ => clear .inc Lane.noConfusion⟩

/-- While an access of `$2007` waits, no load does. -/
theorem OneWaiting.free_load {ppu : Ppu} (one : OneWaiting ppu)
    (access : (ppu.waiting .write || ppu.waiting .read) = true) : ppu.waiting .load = false := by
  rcases Bool.or_eq_true_iff.mp access with write | read
  · exact (one.write write).2
  · exact one.read read

/-- A console with DMA running asks for nothing. -/
theorem free_of_asks {nes : Nes} {l : Lane} (asks : nes.asks bus l = true) :
    nes.dma.dmaActive = false := by
  cases active : nes.dma.dmaActive with
  | false => rfl
  | true => cases l <;> simp [Nes.asks, CpuPort.asks, cpuControl, dmaWrite, active] at asks

/-- Every access of `$2007` asks for an increment. -/
theorem asked_inc {dot : Dot} {nes : Nes} {l : Lane} (gated : l.gated = true)
    (now : nes.asked dot l = true) : nes.asked dot .inc = true := by
  rw [asked, Bool.and_eq_true] at now
  rw [asked, now.1, Bool.true_and]
  have asks := now.2
  cases l with
  | write =>
    simp only [Nes.asks, CpuPort.asks, Bool.and_eq_true] at asks ⊢
    simp [asks]
  | read =>
    simp only [Nes.asks, CpuPort.asks, Bool.and_eq_true] at asks ⊢
    simp [asks]
  | load => exact absurd gated Bool.noConfusion
  | inc => exact absurd gated Bool.noConfusion
  | nmiClear => exact absurd gated Bool.noConfusion

/-! ## Runs with pauses -/

/-- The processor presents a bus cycle until it completes it. -/
def Freezes (io : ℕ → Dot) (start : Nes) : Prop :=
  ∀ n, (dotRun io start n).completes (io n) = false → (io (n + 1)).bus = (io n).bus

section Step

variable {io : ℕ → Dot} {start : Nes} {n : ℕ}

/-- A read of `$2007` that a live one holds up on the dot before an edge of `CPU_CLK` is on the
bus, and asks for a read and an increment only. -/
theorem HeldBefore.asks (held : HeldBefore io start n) (freezes : Freezes io start)
    (spaced : Spaced io) (edge : (io n).cpuEdge = true) :
    (dotRun io start n).asks (io n).bus .write = false ∧
      (dotRun io start n).asks (io n).bus .load = false ∧
        (io n).bus.rwN = true ∧ (dotRun io start n).asks (io n).bus .read = true := by
  cases n with
  | zero => exact held.elim
  | succ n =>
    have low : (io n).cpuEdge = false := by
      cases before : (io n).cpuEdge with
      | false => rfl
      | true => exact absurd ((spaced n before).symm.trans edge) Bool.false_ne_true
    have bus := freezes n (by rw [completes, low, Bool.false_and])
    have same : (dotRun io start (n + 1)).asks (io (n + 1)).bus .read =
        (dotRun io start n).asks (io n).bus .read := by
      rw [bus, dotRun_succ, low]
      rfl
    have read := ((live_iff (dotRun io start n) (io n).bus).mp held.2).1
    rw [← same] at read
    obtain ⟨write, load, -, -⟩ := (dotRun io start (n + 1)).asks_one (io (n + 1)).bus
    refine ⟨?_, load read, ?_, read⟩
    · cases written : (dotRun io start (n + 1)).asks (io (n + 1)).bus .write with
      | false => rfl
      | true => exact absurd ((write written).1.symm.trans read) Bool.false_ne_true
    · have free := free_of_asks read
      rw [asks_of_free free, CpuBus.asks, CpuBus.reads_iff] at read
      exact read.1

/-- In a safe run the CPU interface acts for completed cycles only. -/
theorem PauseSafe.asked_eq (safe : PauseSafe io start n) (l : Lane) :
    (dotRun io start n).asked (io n) l = (dotRun io start n).requests (io n) l := by
  rw [asked, requests, completes, cpuEnable, Bool.and_assoc]
  cases edge : (io n).cpuEdge with
  | false => rfl
  | true =>
    rw [Bool.true_and, Bool.true_and]
    cases asks : (dotRun io start n).asks (io n).bus l with
    | false => rw [Bool.and_false]
    | true =>
      have free := free_of_asks asks
      rw [free, Bool.not_false, Bool.and_true, Bool.and_true]
      cases enable : (io n).pins.enable with
      | true => rfl
      | false =>
        rcases safe.frozen enable edge with active | once
        · exact absurd (free.symm.trans active) Bool.false_ne_true
        · rw [asks_of_free free, CpuBus.asks_of_repeats once] at asks
          exact absurd asks Bool.false_ne_true

/-- On an edge of `CPU_CLK` that follows no pause, no access of `$2007` waits but a read that a
palette read has held up. -/
theorem waiting_after (released : ∀ n, (io n).pins.reset = false) (spaced : Spaced io)
    (edge : (io n).cpuEdge = true) (after : resumes io n = false) :
    (dotRun io start n).ppu.waiting .write = false ∧
      ((dotRun io start n).ppu.waiting .read = true → HeldBefore io start n) := by
  cases n with
  | zero => exact absurd after.symm Bool.false_ne_true
  | succ n =>
    have enable : (io n).pins.enable = true := by
      rwa [resumes, Bool.not_eq_false'] at after
    have low : (io n).cpuEdge = false := by
      cases before : (io n).cpuEdge with
      | false => rfl
      | true => exact absurd ((spaced n before).symm.trans edge) Bool.false_ne_true
    have left (l : Lane) : (dotRun io start (n + 1)).ppu.waiting l =
        ((dotRun io start n).ppu.waiting l && !(dotRun io start n).ready (io n).bus l) := by
      rw [dotRun_succ, waiting_ppuClock _ _ ⟨released n, enable⟩, low, Bool.false_and,
        Bool.false_xor]
    constructor
    · rw [left]
      exact Bool.and_false _
    · intro waits
      rw [left, Bool.and_eq_true, Bool.not_eq_true', ready, Ppu.ready, Bool.not_eq_false'] at waits
      exact ⟨enable, waits.2⟩

/-- A request that moves the VRAM address finds no access of `$2007` waiting but a read that a
palette read has held up. -/
theorem PauseSafe.unasked (safe : PauseSafe io start n) (released : ∀ n, (io n).pins.reset = false)
    (spaced : Spaced io)
    (moves : (dotRun io start n).asked (io n) .inc = true ∨
      (dotRun io start n).asked (io n) .load = true) :
    (dotRun io start n).ppu.waiting .write = false ∧
      ((dotRun io start n).ppu.waiting .read = true → HeldBefore io start n) := by
  have parts : ∀ l, (dotRun io start n).asked (io n) l = true →
      (io n).cpuEdge = true ∧ (io n).pins.enable = true ∧
        (dotRun io start n).asks (io n).bus l = true := by
    intro l now
    have request := now
    rw [safe.asked_eq, requests, completes, cpuEnable, Bool.and_eq_true, Bool.and_eq_true,
      Bool.and_eq_true] at request
    exact ⟨request.1.1, request.1.2.1, request.2⟩
  have now : (io n).cpuEdge = true ∧ (io n).pins.enable = true ∧
      ((dotRun io start n).asks (io n).bus .inc ||
        (dotRun io start n).asks (io n).bus .load) = true := by
    rcases moves with inc | load
    · obtain ⟨edge, enable, asks⟩ := parts .inc inc
      exact ⟨edge, enable, by rw [asks, Bool.true_or]⟩
    · obtain ⟨edge, enable, asks⟩ := parts .load load
      exact ⟨edge, enable, by rw [asks, Bool.or_true]⟩
  cases after : resumes io n with
  | true =>
    obtain ⟨write, read⟩ := safe.apart after now.1 now.2.1 now.2.2
    exact ⟨write, fun waits => absurd (read.symm.trans waits) Bool.false_ne_true⟩
  | false => exact waiting_after released spaced now.1 after

/-- When the VRAM address is to move, only a read that a palette read has held up, and its
increment, are left waiting. -/
theorem PauseSafe.left_moves (safe : PauseSafe io start n)
    (released : ∀ n, (io n).pins.reset = false) (spaced : Spaced io)
    (one : OneWaiting (dotRun io start n).ppu)
    (moves : (dotRun io start n).asked (io n) .inc = true ∨
      (dotRun io start n).asked (io n) .load = true) {l : Lane}
    (stays : (dotRun io start n).left (io n) l = true) :
    HeldBefore io start n ∧ (l = .read ∨ l = .inc) := by
  obtain ⟨write, held⟩ := safe.unasked released spaced moves
  rw [left, Bool.and_eq_true] at stays
  obtain ⟨waits, unanswered⟩ := stays
  cases read : (dotRun io start n).ppu.waiting .read with
  | true =>
    refine ⟨held read, ?_⟩
    cases l with
    | write => exact absurd (write.symm.trans waits) Bool.false_ne_true
    | read => exact .inl rfl
    | load => exact absurd ((one.read read).symm.trans waits) Bool.false_ne_true
    | inc => exact .inr rfl
    | nmiClear => simp [answers, ready, Ppu.ready, Lane.gated] at unanswered
  | false =>
    cases l with
    | write => exact absurd (write.symm.trans waits) Bool.false_ne_true
    | read => exact absurd (read.symm.trans waits) Bool.false_ne_true
    | load => simp [answers, ready, Ppu.ready, Lane.gated, write, read] at unanswered
    | inc =>
      cases load : (dotRun io start n).ppu.waiting .load with
      | true => exact absurd ((one.load load).symm.trans waits) Bool.false_ne_true
      | false => simp [answers, ready, Ppu.ready, Lane.gated, write, read, load] at unanswered
    | nmiClear => simp [answers, ready, Ppu.ready, Lane.gated] at unanswered

/-- A request other than a clear of vertical blank moves the VRAM address, or comes with one
that does. -/
theorem asked_moves {dot : Dot} {nes : Nes} {l : Lane} (lane : l ≠ .nmiClear)
    (now : nes.asked dot l = true) : nes.asked dot .inc = true ∨ nes.asked dot .load = true := by
  cases l with
  | write => exact Or.inl (asked_inc rfl now)
  | read => exact Or.inl (asked_inc rfl now)
  | load => exact Or.inr now
  | inc => exact Or.inl now
  | nmiClear => exact absurd rfl lane

/-- What waits after a dot of a run. -/
theorem PauseSafe.waiting_succ (safe : PauseSafe io start n)
    (released : (io n).pins.reset = false) (l : Lane) :
    (dotRun io start (n + 1)).ppu.waiting l =
      ((dotRun io start n).asked (io n) l ^^ (dotRun io start n).left (io n) l) :=
  waiting_dot (dotRun io start n) released safe.handles (io n).cpuEdge l

/-- What waits after a dot comes from one access again. -/
theorem PauseSafe.oneWaiting (safe : PauseSafe io start n)
    (released : ∀ n, (io n).pins.reset = false) (freezes : Freezes io start) (spaced : Spaced io)
    (one : OneWaiting (dotRun io start n).ppu) :
    OneWaiting (dotRun io start (n + 1)).ppu := by
  have next := fun l => safe.waiting_succ (released n) l
  by_cases moves : (dotRun io start n).asked (io n) .inc = true ∨
      (dotRun io start n).asked (io n) .load = true
  · -- what waits is what the one access of the bus cycle asked for, less what it takes back
    have edge : (io n).cpuEdge = true := by
      rcases moves with inc | load
      · exact (Bool.and_eq_true_iff.mp inc).1
      · exact (Bool.and_eq_true_iff.mp load).1
    have left {l : Lane} (other : ¬ (l = .read ∨ l = .inc)) :
        (dotRun io start n).left (io n) l = false :=
      Bool.eq_false_iff.mpr fun stays =>
        other (safe.left_moves released spaced one moves stays).2
    by_cases held : HeldBefore io start n
    · obtain ⟨write, load, -⟩ := held.asks freezes spaced edge
      have unwritten : (dotRun io start (n + 1)).ppu.waiting .write = false := by
        rw [next, left (by decide), asked, write, Bool.and_false]
        rfl
      have unloaded : (dotRun io start (n + 1)).ppu.waiting .load = false := by
        rw [next, left (by decide), asked, load, Bool.and_false]
        rfl
      exact ⟨fun waits => absurd (unwritten.symm.trans waits) Bool.false_ne_true,
        fun _ => unloaded, fun waits => absurd (unloaded.symm.trans waits) Bool.false_ne_true⟩
    · have now : ∀ l, (dotRun io start (n + 1)).ppu.waiting l =
          ((io n).cpuEdge && (dotRun io start n).asks (io n).bus l) := by
        intro l
        have none : (dotRun io start n).left (io n) l = false :=
          Bool.eq_false_iff.mpr fun stays =>
            held (safe.left_moves released spaced one moves stays).1
        rw [next, none, Bool.xor_false, asked]
      obtain ⟨write, read, load, -⟩ := (dotRun io start n).asks_one (io n).bus
      refine ⟨fun waits => ?_, fun waits => ?_, fun waits => ?_⟩
      · rw [now, Bool.and_eq_true] at waits
        rw [now, now, (write waits.2).1, (write waits.2).2, Bool.and_false]
        exact ⟨rfl, rfl⟩
      · rw [now, Bool.and_eq_true] at waits
        rw [now, read waits.2, Bool.and_false]
      · rw [now, Bool.and_eq_true] at waits
        rw [now, load waits.2, Bool.and_false]
  · -- nothing is asked for: what waits was waiting before
    have quiet : ∀ l, l ≠ .nmiClear → (dotRun io start n).asked (io n) l = false := by
      intro l lane
      apply Bool.eq_false_iff.mpr
      intro now
      exact moves (asked_moves lane now)
    have before : ∀ l, l ≠ .nmiClear → (dotRun io start (n + 1)).ppu.waiting l = true →
        (dotRun io start n).ppu.waiting l = true := by
      intro l lane waits
      rw [next, quiet l lane, Bool.false_xor, left, Bool.and_eq_true] at waits
      exact waits.1
    have after : ∀ l, l ≠ .nmiClear → (dotRun io start n).ppu.waiting l = false →
        (dotRun io start (n + 1)).ppu.waiting l = false := by
      intro l lane clear
      rw [next, quiet l lane, left, clear]
      rfl
    refine ⟨fun waits => ?_, fun waits => ?_, fun waits => ?_⟩
    · have clear := one.write (before .write Lane.noConfusion waits)
      exact ⟨after .read Lane.noConfusion clear.1, after .load Lane.noConfusion clear.2⟩
    · exact after .load Lane.noConfusion (one.read (before .read Lane.noConfusion waits))
    · exact after .inc Lane.noConfusion (one.load (before .load Lane.noConfusion waits))

end Step

/-- The CPU interface as the completed bus cycles and the DMA make it. -/
def completedCpu (io : ℕ → Dot) (start : Nes) : ℕ → CpuInterface
  | 0 => start.ppu.cpu
  | n + 1 =>
    let nes := dotRun io start n
    if (io n).cpuEdge && ((io n).pins.enable || nes.dma.dmaActive) then
      (completedCpu io start n).next (io n).pins.reset (nes.settledPort (io n).pins (io n).bus)
    else completedCpu io start n

/-- How many completed bus cycles have asked for service on a pair. -/
def requestCount (io : ℕ → Dot) (start : Nes) (l : Lane) (n : ℕ) : ℕ :=
  Nat.count (fun i => (dotRun io start i).requests (io i) l = true) n

/-- How many requests on a pair the PPU has performed. -/
def performCount (io : ℕ → Dot) (start : Nes) (l : Lane) (n : ℕ) : ℕ :=
  Nat.count (fun i => Ppu.Performs (dotRun io start i).ppu (dotRun io start (i + 1)).ppu l) n

/-- How many requests on a pair were made while an earlier one was left waiting: each takes that
one back, and both are lost. -/
def cancelCount (io : ℕ → Dot) (start : Nes) (l : Lane) (n : ℕ) : ℕ :=
  Nat.count (fun i => ((dotRun io start i).requests (io i) l &&
    (dotRun io start i).left (io i) l) = true) n

/-- Pauses change nothing that the processor did not ask for, and lose nothing that it did. -/
structure PauseTransparent (io : ℕ → Dot) (start : Nes) : Prop where
  /-- After each completed bus cycle the CPU interface is what the completed cycles make it,
  however often it has acted on a frozen one. -/
  once : ∀ n, (dotRun io start n).completes (io n) = true →
    (dotRun io start (n + 1)).ppu.cpu = completedCpu io start (n + 1)
  /-- Each request, and what waited at the start, is performed once or waits or is lost to the
  next, and nothing else is performed. -/
  served : ∀ l n, (start.ppu.waiting l).toNat + requestCount io start l n =
    performCount io start l n + ((dotRun io start n).ppu.waiting l).toNat +
      2 * cancelCount io start l n
  /-- What is left over when the next request that moves the VRAM address is made was held up by a
  palette read on the dot before, which is not paused: no pause loses a request. -/
  ordered : ∀ n, ((dotRun io start n).requests (io n) .inc ||
      (dotRun io start n).requests (io n) .load) = true →
    ∀ l, (dotRun io start n).left (io n) l = true → HeldBefore io start n
  /-- Two dots without a pause perform all that waits and is not lost. -/
  resumed : ∀ n, (io n).pins.enable = true → (io (n + 1)).pins.enable = true →
    (dotRun io start n).ppu.cpuFramePaletteRead ((dotRun io start n).cpuControl (io n).bus) =
        false →
      ∀ l, (dotRun io start n).ppu.waiting l = true →
        ((dotRun io start n).requests (io n) l && (dotRun io start n).left (io n) l) = false →
        Ppu.Performs (dotRun io start n).ppu (dotRun io start (n + 1)).ppu l ∨
          Ppu.Performs (dotRun io start (n + 1)).ppu (dotRun io start (n + 2)).ppu l
  /-- `PPU_WRITE` is high after a performed write, and at no other time. -/
  pulse : ∀ n, (dotRun io start (n + 1)).ppuWrite = true ↔
    Ppu.Performs (dotRun io start n).ppu (dotRun io start (n + 1)).ppu .write
  /-- `PPU_READ` is high after a performed read or a fetch, and while a palette read holds
  it. -/
  reading : ∀ n, (dotRun io start (n + 1)).ppu.access.ppuRead = true →
    Ppu.Performs (dotRun io start n).ppu (dotRun io start (n + 1)).ppu .read ∨
      (dotRun io start n).ppu.ppuReadRequest = true ∨
        (dotRun io start n).ppu.access.ppuRead = true
  /-- The dot after a performed read takes the data bus into the read buffer. -/
  captured : ∀ n, (dotRun io start n).ppu.access.oneAfterRead = false →
    Ppu.Performs (dotRun io start n).ppu (dotRun io start (n + 1)).ppu .read →
      (dotRun io start (n + 2)).ppu.access.ppuReadBuffer =
        (dotRun io start (n + 1)).settledData (io (n + 1)).pins (io (n + 1)).bus
  /-- While a write waits, its data stays. -/
  data : ∀ n, (dotRun io start n).ppu.waiting .write = true →
    (dotRun io start (n + 1)).ppu.cpu.ppuWriteBuffer =
      (dotRun io start n).ppu.cpu.ppuWriteBuffer
  /-- While an access of `$2007` waits, its address stays. -/
  held : ∀ n, ((dotRun io start n).ppu.waiting .write ||
      (dotRun io start n).ppu.waiting .read) = true →
    (dotRun io start (n + 1)).ppu.vram.activeVramAddress =
      (dotRun io start n).ppu.vram.activeVramAddress
  /-- While an increment is left waiting, its stride stays. -/
  stride : ∀ n, (dotRun io start n).left (io n) .inc = true →
    (dotRun io start (n + 1)).ppu.cpu.addrIncrement = (dotRun io start n).ppu.cpu.addrIncrement
  /-- The VRAM address moves when a request is performed, or by rendering. -/
  address : ∀ n, (dotRun io start (n + 1)).ppu.vram.activeVramAddress ≠
      (dotRun io start n).ppu.vram.activeVramAddress →
    Ppu.Performs (dotRun io start n).ppu (dotRun io start (n + 1)).ppu .load ∨
      Ppu.Performs (dotRun io start n).ppu (dotRun io start (n + 1)).ppu .inc ∨
        (dotRun io start n).ppu.renderEnable = true
  /-- The memories of the PPU bus change under `PPU_WRITE` only. -/
  memory : ∀ n, (dotRun io start n).ppuWrite = false →
    (dotRun io start (n + 1)).mem.contents.vram = (dotRun io start n).mem.contents.vram ∧
      (dotRun io start (n + 1)).mem.contents.palette =
          (dotRun io start n).mem.contents.palette ∧
        (dotRun io start (n + 1)).mem.contents.chrRam =
          (dotRun io start n).mem.contents.chrRam
  /-- The DMA starts for completed bus cycles only. -/
  dma : ∀ n, (dotRun io start n).dma.dmaActive = false →
    (dotRun io start (n + 1)).dma.dmaActive = true →
      (dotRun io start n).completes (io n) = true

section Runs

variable {io : ℕ → Dot} {start : Nes}

/-- A request is performed on a dot of a safe run when it waits and the PPU answers. -/
theorem PauseSafe.performs_iff {n : ℕ} (safe : PauseSafe io start n)
    (released : (io n).pins.reset = false) (l : Lane) :
    Ppu.Performs (dotRun io start n).ppu (dotRun io start (n + 1)).ppu l ↔
      ((dotRun io start n).ppu.waiting l &&
        (dotRun io start n).answers (io n).pins (io n).bus l) = true :=
  performs_dot (dotRun io start n) released safe.handles (io n).cpuEdge l

/-- In a safe run what waits comes from one access, when it does at the start. -/
theorem oneWaiting_run (released : ∀ n, (io n).pins.reset = false) (freezes : Freezes io start)
    (spaced : Spaced io) (one : OneWaiting start.ppu) (safe : ∀ n, PauseSafe io start n) (n : ℕ) :
    OneWaiting (dotRun io start n).ppu := by
  induction n with
  | zero => exact one
  | succ n ih => exact (safe n).oneWaiting released freezes spaced ih

/-- Each request is performed once, or waits, or is lost to the next. -/
theorem served_run (released : ∀ n, (io n).pins.reset = false)
    (safe : ∀ n, PauseSafe io start n) (l : Lane) (n : ℕ) :
    (start.ppu.waiting l).toNat + requestCount io start l n =
      performCount io start l n + ((dotRun io start n).ppu.waiting l).toNat +
        2 * cancelCount io start l n := by
  induction n with
  | zero =>
    show _ + 0 = 0 + _ + 2 * 0
    rw [Nat.add_zero, Nat.mul_zero, Nat.add_zero, Nat.zero_add]
    rfl
  | succ n ih =>
    have balance := Hdl.Handshake.balance_step ((dotRun io start n).ppu.lane l)
      ((dotRun io start n).asked (io n) l)
      ((dotRun io start n).answers (io n).pins (io n).bus l)
    have asks : (if (dotRun io start n).requests (io n) l = true then 1 else 0) =
        ((dotRun io start n).asked (io n) l).toNat := by
      rw [← (safe n).asked_eq]
      cases (dotRun io start n).asked (io n) l <;> rfl
    have performs : (if Ppu.Performs (dotRun io start n).ppu (dotRun io start (n + 1)).ppu l
        then 1 else 0) = (((dotRun io start n).ppu.lane l).served
          ((dotRun io start n).answers (io n).pins (io n).bus l)).toNat := by
      rw [Hdl.Handshake.served, ← Ppu.waiting]
      simp only [(safe n).performs_iff (released n)]
      cases (dotRun io start n).ppu.waiting l && _ <;> rfl
    have cancels : (if ((dotRun io start n).requests (io n) l &&
        (dotRun io start n).left (io n) l) = true then 1 else 0) =
        ((dotRun io start n).asked (io n) l && ((dotRun io start n).ppu.waiting l &&
          !(dotRun io start n).answers (io n).pins (io n).bus l)).toNat := by
      rw [← (safe n).asked_eq, left]
      cases (dotRun io start n).asked (io n) l && _ <;> rfl
    have after : (dotRun io start (n + 1)).ppu.waiting l = _ :=
      congrArg Hdl.Handshake.pending
        (lane_dot (dotRun io start n) (released n) (safe n).handles (io n).cpuEdge l)
    rw [requestCount, performCount, cancelCount, Nat.count_succ, Nat.count_succ, Nat.count_succ,
      ← requestCount, ← performCount, ← cancelCount, asks, performs, cancels, after]
    simp only [Ppu.waiting, asked] at ih balance ⊢
    omega

/-- With no DMA, the CPU interface makes the register access of the bus cycle. -/
theorem next_settledPort {n : ℕ} (released : (io n).pins.reset = false)
    (free : (dotRun io start n).dma.dmaActive = false) (r : CpuInterface) :
    r.next (io n).pins.reset ((dotRun io start n).settledPort (io n).pins (io n).bus) =
      (io n).bus.act r :=
  next_cpuPort (io n).bus ((dotRun io start n).settle (io n).pins (io n).bus) released free r

/-- The DMA stores one byte of object memory in the CPU interface. -/
theorem next_of_dma {n : ℕ} (released : (io n).pins.reset = false)
    (active : (dotRun io start n).dma.dmaActive = true) (r : CpuInterface) :
    ∃ oam, r.next (io n).pins.reset ((dotRun io start n).settledPort (io n).pins (io n).bus) =
      { r with oam := oam } := by
  have write : ((dotRun io start n).settledPort (io n).pins (io n).bus).dmaWrite = true := active
  simp [CpuInterface.next, released, write]

/-- A register of the CPU interface, other than object memory, that the register access of the
bus cycle leaves alone stays over the dot. -/
theorem cpu_kept {α : Type*} {n : ℕ} (view : CpuInterface → α)
    (apart : ∀ r oam, view { r with oam := oam } = view r)
    (released : (io n).pins.reset = false)
    (acts : (io n).cpuEdge = true → (dotRun io start n).dma.dmaActive = false →
      view ((io n).bus.act (dotRun io start n).ppu.cpu) = view (dotRun io start n).ppu.cpu) :
    view (dotRun io start (n + 1)).ppu.cpu = view (dotRun io start n).ppu.cpu := by
  rw [dotRun_succ, ppuClock_cpu]
  cases edge : (io n).cpuEdge with
  | false => rfl
  | true =>
    rw [if_pos rfl]
    cases free : (dotRun io start n).dma.dmaActive with
    | true =>
      obtain ⟨oam, same⟩ := next_of_dma released free (dotRun io start n).ppu.cpu
      rw [same, apart]
    | false =>
      rw [next_settledPort released free]
      exact acts edge free

/-- The CPU interface and the completed cycles, at one time of a run: they agree, or the
interface is ahead by a frozen access that may be repeated. -/
def Ahead (io : ℕ → Dot) (start : Nes) (n : ℕ) : Prop :=
  (dotRun io start n).ppu.cpu = completedCpu io start n ∨
    ((dotRun io start n).dma.dmaActive = false ∧ (io n).bus.repeats = false ∧
      (dotRun io start n).ppu.cpu = (io n).bus.act (completedCpu io start n))

/-- On an edge that completes a cycle, and while the DMA runs, the two come together. -/
theorem Ahead.together {n : ℕ} (ahead : Ahead io start n) (released : (io n).pins.reset = false)
    (edge : (io n).cpuEdge = true)
    (acts : ((io n).pins.enable || (dotRun io start n).dma.dmaActive) = true) :
    (dotRun io start (n + 1)).ppu.cpu = completedCpu io start (n + 1) := by
  rw [dotRun_succ, ppuClock_cpu, edge, if_pos rfl, completedCpu, edge, acts, Bool.true_and,
    if_pos rfl]
  rcases ahead with same | ⟨free, once, same⟩
  · rw [same]
  · rw [same, next_settledPort released free, next_settledPort released free,
      CpuBus.act_act once]

/-- A dot keeps the interface ahead by one frozen access at most. -/
theorem Ahead.step {n : ℕ} (ahead : Ahead io start n) (released : (io n).pins.reset = false)
    (freezes : Freezes io start) (safe : PauseSafe io start n) : Ahead io start (n + 1) := by
  cases edge : (io n).cpuEdge with
  | false =>
    have cpu : (dotRun io start (n + 1)).ppu.cpu = (dotRun io start n).ppu.cpu := by
      rw [dotRun_succ, ppuClock_cpu, edge, if_neg Bool.false_ne_true]
    have dma : (dotRun io start (n + 1)).dma = (dotRun io start n).dma := by
      rw [dotRun_succ, ppuClock_dma, edge, if_neg Bool.false_ne_true]
    have bus := freezes n (by rw [completes, edge, Bool.false_and])
    have made : completedCpu io start (n + 1) = completedCpu io start n := by
      rw [completedCpu, edge]
      rfl
    rw [Ahead, cpu, dma, bus, made]
    exact ahead
  | true =>
    cases acts : (io n).pins.enable || (dotRun io start n).dma.dmaActive with
    | true => exact Or.inl (ahead.together released edge acts)
    | false =>
      rw [Bool.or_eq_false_iff] at acts
      have once : (io n).bus.repeats = false := by
        rcases safe.frozen acts.1 edge with active | once
        · exact absurd (acts.2.symm.trans active) Bool.false_ne_true
        · exact once
      have made : completedCpu io start (n + 1) = completedCpu io start n := by
        rw [completedCpu, acts.1, acts.2, Bool.or_false, Bool.and_false,
          if_neg Bool.false_ne_true]
      have cpu : (dotRun io start (n + 1)).ppu.cpu =
          (io n).bus.act (completedCpu io start n) := by
        rw [dotRun_succ, ppuClock_cpu, edge, if_pos rfl, next_settledPort released acts.2]
        rcases ahead with same | ⟨-, -, same⟩
        · rw [same]
        · rw [same, CpuBus.act_act once]
      cases inside : ppuRange (io n).bus.addr with
      | false =>
        left
        rw [cpu, made, CpuBus.act, inside, if_neg Bool.false_ne_true]
      | true =>
        right
        have dma : (dotRun io start (n + 1)).dma = (dotRun io start n).dma := by
          rw [dotRun_succ, ppuClock_dma, edge, if_pos rfl]
          exact dmaNext_of_free _ _ acts.2 (CpuBus.startsDma_of_range inside)
        have bus := freezes n (by rw [completes, cpuEnable, acts.1, Bool.false_and, Bool.and_false])
        rw [dma, bus, made]
        exact ⟨acts.2, once, cpu⟩

/-- In a safe run the interface is never ahead by more than one frozen access. -/
theorem ahead_run (released : ∀ n, (io n).pins.reset = false) (freezes : Freezes io start)
    (safe : ∀ n, PauseSafe io start n) (n : ℕ) : Ahead io start n := by
  induction n with
  | zero => exact Or.inl rfl
  | succ n ih => exact ih.step (released n) freezes (safe n)

/-- A dot without a pause that asks for nothing answers an access of `$2007` that waits, and leaves
its increment for the next dot. -/
theorem PauseSafe.access_answered {n : ℕ} (safe : PauseSafe io start n)
    (released : (io n).pins.reset = false) (one : OneWaiting (dotRun io start n).ppu)
    (enable : (io n).pins.enable = true)
    (dead : (dotRun io start n).ppu.cpuFramePaletteRead
      ((dotRun io start n).cpuControl (io n).bus) = false)
    (access : ((dotRun io start n).ppu.waiting .write ||
      (dotRun io start n).ppu.waiting .read) = true)
    (still : ¬ ((dotRun io start n).asked (io n) .inc = true ∨
      (dotRun io start n).asked (io n) .load = true)) :
    (dotRun io start (n + 1)).ppu.waiting .write = false ∧
      (dotRun io start (n + 1)).ppu.waiting .read = false ∧
        (dotRun io start (n + 1)).ppu.waiting .load = false ∧
          (dotRun io start (n + 1)).ppu.waiting .inc =
            (dotRun io start n).ppu.waiting .inc := by
  have later : ∀ l, l ≠ .nmiClear → (dotRun io start (n + 1)).ppu.waiting l =
      ((dotRun io start n).ppu.waiting l && !(dotRun io start n).ready (io n).bus l) := by
    intro l lane
    have unasked : (dotRun io start n).asked (io n) l = false :=
      Bool.eq_false_iff.mpr fun asks => still (asked_moves lane asks)
    rw [safe.waiting_succ released, unasked, Bool.false_xor, left, answers, enable,
      Bool.true_or, Bool.and_true]
  have stays : (dotRun io start n).ready (io n).bus .inc = false := by
    rcases Bool.or_eq_true_iff.mp access with write | read
    · simp [ready, Ppu.ready, write]
    · simp [ready, Ppu.ready, read]
  refine ⟨?_, ?_, ?_, ?_⟩
  · rw [later .write Lane.noConfusion, show (dotRun io start n).ready (io n).bus .write = true
      from rfl, Bool.not_true, Bool.and_false]
  · rw [later .read Lane.noConfusion, ready, Ppu.ready, dead, Bool.not_false, Bool.not_true,
      Bool.and_false]
  · rw [later .load Lane.noConfusion, one.free_load access, Bool.false_and]
  · rw [later .inc Lane.noConfusion, stays, Bool.not_false, Bool.and_true]

/-- Two dots without a pause perform all that waits and is not lost. -/
theorem PauseSafe.resumed {n : ℕ} (safe : PauseSafe io start n)
    (next : PauseSafe io start (n + 1)) (released : ∀ n, (io n).pins.reset = false)
    (freezes : Freezes io start) (spaced : Spaced io) (one : OneWaiting (dotRun io start n).ppu)
    (first : (io n).pins.enable = true) (second : (io (n + 1)).pins.enable = true)
    (dead : (dotRun io start n).ppu.cpuFramePaletteRead
      ((dotRun io start n).cpuControl (io n).bus) = false)
    (l : Lane) (waits : (dotRun io start n).ppu.waiting l = true)
    (kept : ((dotRun io start n).requests (io n) l && (dotRun io start n).left (io n) l) = false) :
    Ppu.Performs (dotRun io start n).ppu (dotRun io start (n + 1)).ppu l ∨
      Ppu.Performs (dotRun io start (n + 1)).ppu (dotRun io start (n + 2)).ppu l := by
  have now : ∀ l, (dotRun io start n).answers (io n).pins (io n).bus l =
      (dotRun io start n).ready (io n).bus l := by
    intro l
    rw [answers, first, Bool.true_or, Bool.and_true]
  rw [safe.performs_iff (released n), next.performs_iff (released (n + 1)), waits, Bool.true_and,
    now]
  rw [← safe.asked_eq, left, waits, Bool.true_and, now] at kept
  cases access : (dotRun io start n).ppu.waiting .write ||
      (dotRun io start n).ppu.waiting .read with
  | false =>
    left
    rw [Bool.or_eq_false_iff] at access
    cases l with
    | write => rfl
    | read => simp [ready, Ppu.ready, dead]
    | load => simp [ready, Ppu.ready, access]
    | inc =>
      cases load : (dotRun io start n).ppu.waiting .load with
      | false => simp [ready, Ppu.ready, access, load]
      | true => exact absurd ((one.load load).symm.trans waits) Bool.false_ne_true
    | nmiClear => rfl
  | true =>
    by_cases still : (dotRun io start n).asked (io n) .inc = true ∨
        (dotRun io start n).asked (io n) .load = true
    · -- a read held up until this dot is answered, and its increment is lost to the new one
      obtain ⟨write, held⟩ := safe.unasked released spaced still
      have read : (dotRun io start n).ppu.waiting .read = true := by
        rwa [write, Bool.false_or] at access
      have edge : (io n).cpuEdge = true := by
        rcases still with inc | load
        · exact (Bool.and_eq_true_iff.mp inc).1
        · exact (Bool.and_eq_true_iff.mp load).1
      obtain ⟨-, -, -, again⟩ := (held read).asks freezes spaced edge
      cases l with
      | write => exact absurd (write.symm.trans waits) Bool.false_ne_true
      | read => exact Or.inl (by simp [ready, Ppu.ready, dead])
      | load => exact absurd ((one.read read).symm.trans waits) Bool.false_ne_true
      | inc =>
        have inc : (dotRun io start n).asked (io n) .inc = true :=
          asked_inc rfl (by rw [asked, edge, again, Bool.and_self] :
            (dotRun io start n).asked (io n) .read = true)
        simp [inc, ready, Ppu.ready, read] at kept
      | nmiClear => exact Or.inl rfl
    · obtain ⟨write, read, load, inc⟩ :=
        safe.access_answered (released n) one first dead access still
      cases l with
      | write => exact Or.inl rfl
      | read => exact Or.inl (by simp [ready, Ppu.ready, dead])
      | load => exact absurd ((one.free_load access).symm.trans waits) Bool.false_ne_true
      | nmiClear => exact Or.inl rfl
      | inc =>
        -- the access is answered first, and its increment on the next dot
        right
        rw [inc, waits, answers, second]
        simp [ready, Ppu.ready, write, read, load]

/-- `PPU_WRITE` is high after a performed write. -/
theorem PauseSafe.pulse {n : ℕ} (safe : PauseSafe io start n)
    (released : (io n).pins.reset = false) :
    (dotRun io start (n + 1)).ppuWrite = true ↔
      Ppu.Performs (dotRun io start n).ppu (dotRun io start (n + 1)).ppu .write := by
  rw [safe.performs_iff released, answers, show (dotRun io start n).ready (io n).bus .write = true
    from rfl, Bool.true_and]
  cases enable : (io n).pins.enable with
  | true =>
    rw [dotRun_succ, ppuClock_pulse _ ⟨released, enable⟩, Bool.true_or, Bool.and_true]
  | false =>
    rw [dotRun_succ, ppuWrite, ppuClock_access, released, enable]
    simp [Ppu.accessNext, Lane.gated]

/-- `PPU_READ` is high after a performed read or a fetch, and while a palette read holds it. -/
theorem PauseSafe.reads {n : ℕ} (safe : PauseSafe io start n)
    (released : (io n).pins.reset = false)
    (high : (dotRun io start (n + 1)).ppu.access.ppuRead = true) :
    Ppu.Performs (dotRun io start n).ppu (dotRun io start (n + 1)).ppu .read ∨
      (dotRun io start n).ppu.ppuReadRequest = true ∨
        (dotRun io start n).ppu.access.ppuRead = true := by
  rw [safe.performs_iff released, answers, ready, Ppu.ready, Ppu.waiting_read]
  rw [dotRun_succ, ppuClock_access, released] at high
  cases enable : (io n).pins.enable with
  | false => simp [Ppu.accessNext, enable] at high
  | true =>
    rw [enable, accessNext_ppuRead] at high
    cases live : (dotRun io start n).ppu.cpuFramePaletteRead
        ((dotRun io start n).cpuControl (io n).bus) with
    | true =>
      rw [live, if_pos rfl] at high
      exact Or.inr (Or.inr high)
    | false =>
      rw [live, if_neg Bool.false_ne_true, Bool.or_eq_true] at high
      rcases high with pending | fetch
      · left
        rw [pending]
        rfl
      · exact Or.inr (Or.inl fetch)

/-- The dot after a performed read takes the data bus into the read buffer. -/
theorem PauseSafe.captured {n : ℕ} (safe : PauseSafe io start n)
    (released : ∀ n, (io n).pins.reset = false)
    (idle : (dotRun io start n).ppu.access.oneAfterRead = false)
    (performed : Ppu.Performs (dotRun io start n).ppu (dotRun io start (n + 1)).ppu .read) :
    (dotRun io start (n + 2)).ppu.access.ppuReadBuffer =
      (dotRun io start (n + 1)).settledData (io (n + 1)).pins (io (n + 1)).bus := by
  have answered := (safe.performs_iff (released n) .read).mp performed
  rw [dotRun_succ io start (n + 1), ppuClock_access, released]
  cases next : (io (n + 1)).pins.enable with
  | false =>
    rw [safe.reading answered idle next]
    rfl
  | true =>
    apply accessNext_captures
    rw [answers, ready, Ppu.ready, Bool.and_eq_true, Bool.and_eq_true, Bool.not_eq_true',
      Lane.gated, Bool.not_true, Bool.or_false] at answered
    obtain ⟨waits, dead, enable⟩ := answered
    rw [dotRun_succ, ppuClock_access, released, enable, accessNext_oneAfterRead _ _ _ dead idle,
      show (dotRun io start n).ppu.readPending = true from waits, Bool.true_or]

/-- While a write waits, its data stays. -/
theorem PauseSafe.data {n : ℕ} (safe : PauseSafe io start n)
    (released : ∀ n, (io n).pins.reset = false) (spaced : Spaced io)
    (waits : (dotRun io start n).ppu.waiting .write = true) :
    (dotRun io start (n + 1)).ppu.cpu.ppuWriteBuffer =
      (dotRun io start n).ppu.cpu.ppuWriteBuffer := by
  apply cpu_kept CpuInterface.ppuWriteBuffer (fun _ _ => rfl) (released n)
  intro edge free
  apply CpuBus.act_writeBuffer
  apply Bool.eq_false_iff.mpr
  intro writes
  have asks : (dotRun io start n).asked (io n) .inc = true := by
    rw [asked, edge, asks_of_free free, CpuBus.asks, writes, Bool.true_or, Bool.and_self]
  exact absurd ((safe.unasked released spaced (Or.inl asks)).1.symm.trans waits)
    Bool.false_ne_true

/-- Only a write turns the stride of the increment over. -/
theorem write_of_stride {bus : CpuBus} {r : CpuInterface}
    (turns : (bus.act r).addrIncrement ≠ r.addrIncrement) : bus.rwN = false := by
  cases direction : bus.rwN with
  | false => rfl
  | true =>
    refine absurd ?_ turns
    rw [CpuBus.act, direction]
    split
    · rw [if_pos rfl, CpuInterface.read]
      split <;> rfl
    · rfl

/-- While an increment is left waiting, its stride stays. -/
theorem PauseSafe.strides {n : ℕ} (safe : PauseSafe io start n)
    (released : ∀ n, (io n).pins.reset = false) (freezes : Freezes io start) (spaced : Spaced io)
    (one : OneWaiting (dotRun io start n).ppu)
    (stays : (dotRun io start n).left (io n) .inc = true) :
    (dotRun io start (n + 1)).ppu.cpu.addrIncrement =
      (dotRun io start n).ppu.cpu.addrIncrement := by
  apply cpu_kept CpuInterface.addrIncrement (fun _ _ => rfl) (released n)
  intro edge free
  apply Classical.byContradiction
  intro turns
  have writes := write_of_stride turns
  have clear : (dotRun io start n).ppu.waiting .write = false ∧
      (dotRun io start n).ppu.waiting .read = false := by
    cases after : resumes io n with
    | true => exact safe.stride after edge free turns
    | false =>
      obtain ⟨write, held⟩ := waiting_after released spaced edge after
      refine ⟨write, Bool.eq_false_iff.mpr fun read => ?_⟩
      obtain ⟨-, -, reads, -⟩ := (held read).asks freezes spaced edge
      exact Bool.false_ne_true (writes.symm.trans reads)
  rw [left, Bool.and_eq_true] at stays
  cases load : (dotRun io start n).ppu.waiting .load with
  | true => exact absurd ((one.load load).symm.trans stays.1) Bool.false_ne_true
  | false => simp [answers, ready, Ppu.ready, Lane.gated, clear, load] at stays

/-- While an access of `$2007` waits, its address stays. -/
theorem address_held {n : ℕ} (released : (io n).pins.reset = false)
    (waits : ((dotRun io start n).ppu.waiting .write ||
      (dotRun io start n).ppu.waiting .read) = true) :
    (dotRun io start (n + 1)).ppu.vram.activeVramAddress =
      (dotRun io start n).ppu.vram.activeVramAddress := by
  rw [dotRun_succ, ppuClock_vram, released, Ppu.vramNext]
  rcases Bool.or_eq_true_iff.mp waits with write | read
  · simp [← Ppu.waiting_write, write]
  · simp [← Ppu.waiting_read, read]

/-- The VRAM address moves when a request is performed, or by rendering. -/
theorem PauseSafe.address {n : ℕ} (safe : PauseSafe io start n)
    (released : (io n).pins.reset = false)
    (moved : (dotRun io start (n + 1)).ppu.vram.activeVramAddress ≠
      (dotRun io start n).ppu.vram.activeVramAddress) :
    Ppu.Performs (dotRun io start n).ppu (dotRun io start (n + 1)).ppu .load ∨
      Ppu.Performs (dotRun io start n).ppu (dotRun io start (n + 1)).ppu .inc ∨
        (dotRun io start n).ppu.renderEnable = true := by
  rw [safe.performs_iff released, safe.performs_iff released]
  cases access : (dotRun io start n).ppu.waiting .write ||
      (dotRun io start n).ppu.waiting .read with
  | true => exact absurd (address_held released access) moved
  | false =>
    rw [Bool.or_eq_false_iff] at access
    cases load : (dotRun io start n).ppu.waiting .load with
    | true =>
      left
      simp [answers, ready, Ppu.ready, Lane.gated, access]
    | false =>
      right
      cases inc : (dotRun io start n).ppu.waiting .inc with
      | true =>
        left
        simp [answers, ready, Ppu.ready, Lane.gated, access, load]
      | false =>
        right
        apply Classical.byContradiction
        intro blank
        rw [dotRun_succ, ppuClock_vram, released, Ppu.vramNext] at moved
        simp [← Ppu.waiting_write, ← Ppu.waiting_read, ← Ppu.waiting_load,
          ← Ppu.waiting_inc, access, load, inc, blank] at moved

/-- The DMA starts for completed bus cycles only. -/
theorem PauseSafe.starts {n : ℕ} (safe : PauseSafe io start n)
    (free : (dotRun io start n).dma.dmaActive = false)
    (active : (dotRun io start (n + 1)).dma.dmaActive = true) :
    (dotRun io start n).completes (io n) = true := by
  have kept (same : (dotRun io start (n + 1)).dma = (dotRun io start n).dma) : False := by
    rw [same, free] at active
    exact Bool.false_ne_true active
  rw [completes, cpuEnable, free]
  cases edge : (io n).cpuEdge with
  | false => exact (kept (by rw [dotRun_succ, ppuClock_dma, edge, if_neg Bool.false_ne_true])).elim
  | true =>
    cases enable : (io n).pins.enable with
    | true => rfl
    | false =>
      rcases safe.frozen enable edge with busy | once
      · exact absurd (free.symm.trans busy) Bool.false_ne_true
      · have other := CpuBus.startsDma_of_once once
        refine (kept ?_).elim
        rw [dotRun_succ, ppuClock_dma, edge, if_pos rfl]
        exact dmaNext_of_free _ _ free other

/-- Safe runs are transparent to their pauses. -/
theorem transparent_of_safe (released : ∀ n, (io n).pins.reset = false)
    (freezes : Freezes io start) (spaced : Spaced io) (one : OneWaiting start.ppu)
    (safe : ∀ n, PauseSafe io start n) : PauseTransparent io start where
  once n ends := by
    rw [completes, cpuEnable, Bool.and_eq_true, Bool.and_eq_true] at ends
    exact (ahead_run released freezes safe n).together (released n) ends.1
      (by rw [ends.2.1, Bool.true_or])
  served := served_run released safe
  ordered n moves l stays := by
    rw [Bool.or_eq_true, ← (safe n).asked_eq, ← (safe n).asked_eq] at moves
    exact ((safe n).left_moves released spaced
      (oneWaiting_run released freezes spaced one safe n) moves stays).1
  resumed n first second dead :=
    (safe n).resumed (safe (n + 1)) released freezes spaced
      (oneWaiting_run released freezes spaced one safe n) first second dead
  pulse n := (safe n).pulse (released n)
  reading n := (safe n).reads (released n)
  captured n idle performed := (safe n).captured released idle performed
  data n := (safe n).data released spaced
  held n := address_held (released n)
  stride n := (safe n).strides released freezes spaced
    (oneWaiting_run released freezes spaced one safe n)
  address n := (safe n).address (released n)
  memory n calm := (dotRun io start n).ppuClock_kept _ _ _ calm
  dma n := (safe n).starts

/-! ## What a transparent run meets -/

/-- An increment that is answered is behind no access of `$2007`. -/
theorem clear_of_answered {dot : Dot} {nes : Nes} (waits : nes.ppu.waiting .inc = true)
    (answered : nes.left dot .inc = false) :
    nes.ppu.waiting .write = false ∧ nes.ppu.waiting .read = false := by
  rw [left, waits, Bool.true_and, Bool.not_eq_false', answers, ready, Ppu.ready] at answered
  simp only [Bool.and_eq_true, Bool.not_eq_true'] at answered
  exact answered.1.1

/-- What a dot of a transparent run meets. -/
structure PauseNeeds (io : ℕ → Dot) (start : Nes) (n : ℕ) : Prop where
  /-- A paused dot finds both access handles low. -/
  handles : (io n).pins.enable = false → (dotRun io start n).ppu.HandlesLow
  /-- A frozen cycle that the CPU interface acts on asks for no service and starts no DMA. -/
  frozen : (io n).pins.enable = false → (io n).cpuEdge = true →
    (dotRun io start n).dma.dmaActive = true ∨
      (∀ l, (dotRun io start n).asks (io n).bus l = false) ∧ (io n).bus.startsDma = false
  /-- Unless a palette read on the unpaused dot before has held it up, an access that moves the
  VRAM address finds no increment behind an access of `$2007`. -/
  apart : ¬ HeldBefore io start n → (io n).cpuEdge = true → (io n).pins.enable = true →
    ((dotRun io start n).asks (io n).bus .inc ||
        (dotRun io start n).asks (io n).bus .load) = true →
      (dotRun io start n).ppu.waiting .inc = true →
        (dotRun io start n).ppu.waiting .write = false ∧
          (dotRun io start n).ppu.waiting .read = false
  /-- A write of `$2000` that turns the increment over finds none either. -/
  stride : (io n).cpuEdge = true → (dotRun io start n).dma.dmaActive = false →
    ((io n).bus.act (dotRun io start n).ppu.cpu).addrIncrement ≠
        (dotRun io start n).ppu.cpu.addrIncrement →
      (dotRun io start n).ppu.waiting .inc = true →
        (dotRun io start n).ppu.waiting .write = false ∧
          (dotRun io start n).ppu.waiting .read = false
  /-- A pause on the dot that is to take the data of a performed read finds that byte in the read
  buffer. -/
  reading : ((dotRun io start n).ppu.waiting .read &&
      (dotRun io start n).answers (io n).pins (io n).bus .read) = true →
    (dotRun io start n).ppu.access.oneAfterRead = false → (io (n + 1)).pins.enable = false →
      (dotRun io start (n + 1)).settledData (io (n + 1)).pins (io (n + 1)).bus =
        (dotRun io start (n + 1)).ppu.access.ppuReadBuffer

/-- The pairs of the VRAM address and of vertical blank make a step of the handshake over every
dot, whatever a pause finds. -/
theorem lane_ungated (nes : Nes) (released : pins.reset = false) (cpuEdge : Bool) {l : Lane}
    (ungated : l.gated = false) :
    (nes.ppuClock pins bus cpuEdge).ppu.lane l =
      (nes.ppu.lane l).step (cpuEdge && nes.asks bus l) (nes.ready bus l) := by
  obtain ⟨-, -, load, inc, nmi⟩ :=
    CpuInterface.next_requests nes.ppu.cpu (nes.settledPort pins bus)
  obtain ⟨loadHandle, incHandle⟩ := nes.ppu.vramNext_handles (nes.cpuControl bus)
  have nmiHandle := nes.ppu.nmiNext_handle
  have port : ∀ l, (nes.settledPort pins bus).asks nes.ppu.cpu.ppuLatch l = nes.asks bus l := by
    intro l
    cases l <;> rfl
  simp only [port] at load inc nmi
  cases l with
  | write => exact absurd ungated Bool.noConfusion
  | read => exact absurd ungated Bool.noConfusion
  | load | inc | nmiClear =>
    cases cpuEdge <;>
      simp only [Ppu.lane, ppuClock_cpu, ppuClock_vram, ppuClock_nmi, released, Handshake.step,
        Handshake.served, Bool.false_and, Bool.true_and, Bool.xor_false, if_true,
        Bool.false_eq_true, if_false, load, inc, nmi, loadHandle, incHandle, nmiHandle, ready,
        Ppu.ready, Ppu.waiting, Bool.and_true]

/-- The account of a transparent run over one dot. -/
theorem PauseTransparent.balance (transparent : PauseTransparent io start) (l : Lane) (n : ℕ) :
    ((dotRun io start n).ppu.waiting l).toNat + ((dotRun io start n).requests (io n) l).toNat =
      (if Ppu.Performs (dotRun io start n).ppu (dotRun io start (n + 1)).ppu l then 1 else 0) +
        ((dotRun io start (n + 1)).ppu.waiting l).toNat +
          2 * ((dotRun io start n).requests (io n) l &&
            (dotRun io start n).left (io n) l).toNat := by
  have before := transparent.served l n
  have after := transparent.served l (n + 1)
  have asks : (if (dotRun io start n).requests (io n) l = true then 1 else 0) =
      ((dotRun io start n).requests (io n) l).toNat := by
    cases (dotRun io start n).requests (io n) l <;> rfl
  have cancels : (if ((dotRun io start n).requests (io n) l &&
      (dotRun io start n).left (io n) l) = true then 1 else 0) =
      ((dotRun io start n).requests (io n) l && (dotRun io start n).left (io n) l).toNat := by
    cases (dotRun io start n).requests (io n) l && _ <;> rfl
  rw [requestCount, performCount, cancelCount, Nat.count_succ, Nat.count_succ, Nat.count_succ,
    ← requestCount, ← performCount, ← cancelCount, asks, cancels] at after
  omega

/-- No completed cycle asks for service on a paused dot. -/
theorem requests_paused {n : ℕ} (paused : (io n).pins.enable = false) (l : Lane) :
    (dotRun io start n).requests (io n) l = false := by
  rw [requests, completes, cpuEnable, paused, Bool.false_and, Bool.and_false, Bool.false_and]

/-- In a transparent run no frozen cycle asks for service. -/
theorem PauseTransparent.unasked (transparent : PauseTransparent io start) {n : ℕ}
    (released : (io n).pins.reset = false) (paused : (io n).pins.enable = false) (l : Lane) :
    (dotRun io start n).asked (io n) l = false := by
  have ungated (l : Lane) (free : l.gated = false) :
      (dotRun io start n).asked (io n) l = false := by
    have balance := transparent.balance l n
    have lane : (dotRun io start (n + 1)).ppu.lane l = ((dotRun io start n).ppu.lane l).step
        ((dotRun io start n).asked (io n) l) ((dotRun io start n).ready (io n).bus l) :=
      lane_ungated (dotRun io start n) released (io n).cpuEdge free
    have next : (dotRun io start (n + 1)).ppu.waiting l =
        ((dotRun io start n).asked (io n) l ^^
          ((dotRun io start n).ppu.waiting l && !(dotRun io start n).ready (io n).bus l)) :=
      (congrArg Handshake.pending lane).trans (Handshake.pending_step _ _ _)
    have performs : Ppu.Performs (dotRun io start n).ppu (dotRun io start (n + 1)).ppu l ↔
        ((dotRun io start n).ppu.waiting l && (dotRun io start n).ready (io n).bus l) = true := by
      have moved := Handshake.handle_step ((dotRun io start n).ppu.lane l)
        ((dotRun io start n).asked (io n) l) ((dotRun io start n).ready (io n).bus l)
      rw [← lane] at moved
      exact ⟨fun performed => moved.mp performed.1, fun served =>
        ⟨moved.mpr served, effect_of_ungated _ released (io n).cpuEdge l free served⟩⟩
    rw [requests_paused paused, next] at balance
    simp only [performs] at balance
    cases asked : (dotRun io start n).asked (io n) l with
    | false => rfl
    | true =>
      rw [asked] at balance
      cases waits : (dotRun io start n).ppu.waiting l <;>
        cases ready : (dotRun io start n).ready (io n).bus l <;>
        simp [waits, ready] at balance
  cases gated : l.gated with
  | false => exact ungated l gated
  | true =>
    exact Bool.eq_false_iff.mpr fun now =>
      Bool.false_ne_true ((ungated .inc rfl).symm.trans (asked_inc gated now))

/-- A paused dot lowers the pulses and the handles of the accesses. -/
theorem access_paused {n : ℕ} (released : (io n).pins.reset = false)
    (paused : (io n).pins.enable = false) :
    (dotRun io start (n + 1)).ppu.access =
      { (dotRun io start n).ppu.access with
        ppuRead := false
        ppuWrite := false
        ppuWriteHandle := false
        ppuReadHandle := false
        oneAfterRead := false } := by
  rw [dotRun_succ, ppuClock_access, released, paused]
  rfl

/-- A paused dot performs no access. -/
theorem not_performs_paused {n : ℕ} (released : (io n).pins.reset = false)
    (paused : (io n).pins.enable = false) {l : Lane} (gated : l.gated = true) :
    ¬ Ppu.Performs (dotRun io start n).ppu (dotRun io start (n + 1)).ppu l := by
  rintro ⟨-, effect⟩
  cases l with
  | write =>
    have pulse : (dotRun io start (n + 1)).ppu.access.ppuWrite = true := effect
    rw [access_paused released paused] at pulse
    exact Bool.false_ne_true pulse
  | read =>
    have pulse : (dotRun io start (n + 1)).ppu.access.ppuRead = true := effect
    rw [access_paused released paused] at pulse
    exact Bool.false_ne_true pulse
  | load => exact absurd gated Bool.noConfusion
  | inc => exact absurd gated Bool.noConfusion
  | nmiClear => exact absurd gated Bool.noConfusion

/-- A paused dot that asks for no access leaves the request and lowers the handle. -/
theorem handle_cleared {n : ℕ} (released : (io n).pins.reset = false)
    (paused : (io n).pins.enable = false) {l : Lane} (gated : l.gated = true)
    (unasked : (dotRun io start n).asked (io n) l = false) :
    (dotRun io start (n + 1)).ppu.lane l =
      ⟨((dotRun io start n).ppu.lane l).request, false⟩ := by
  obtain ⟨write, read, -⟩ := CpuInterface.next_requests (dotRun io start n).ppu.cpu
    ((dotRun io start n).settledPort (io n).pins (io n).bus)
  rw [Nes.asked] at unasked
  change (_ && ((dotRun io start n).settledPort (io n).pins (io n).bus).asks
    (dotRun io start n).ppu.cpu.ppuLatch l) = false at unasked
  cases l with
  | write =>
    rw [Ppu.lane, access_paused released paused, dotRun_succ, ppuClock_cpu, released]
    cases edge : (io n).cpuEdge with
    | false => rfl
    | true =>
      rw [edge, Bool.true_and] at unasked
      rw [if_pos rfl, write, unasked, Bool.xor_false]
      rfl
  | read =>
    rw [Ppu.lane, access_paused released paused, dotRun_succ, ppuClock_cpu, released]
    cases edge : (io n).cpuEdge with
    | false => rfl
    | true =>
      rw [edge, Bool.true_and] at unasked
      rw [if_pos rfl, read, unasked, Bool.xor_false]
      rfl
  | load => exact absurd gated Bool.noConfusion
  | inc => exact absurd gated Bool.noConfusion
  | nmiClear => exact absurd gated Bool.noConfusion

/-- A paused dot of a transparent run clears no handle that is high. -/
theorem PauseTransparent.handle_low (transparent : PauseTransparent io start) {n : ℕ}
    (released : (io n).pins.reset = false) (paused : (io n).pins.enable = false) {l : Lane}
    (gated : l.gated = true) : ((dotRun io start n).ppu.lane l).handle = false := by
  have next := handle_cleared released paused gated (transparent.unasked released paused l)
  have idle : ¬ Ppu.Performs (dotRun io start n).ppu (dotRun io start (n + 1)).ppu l :=
    not_performs_paused released paused gated
  have balance := transparent.balance l n
  rw [requests_paused paused, if_neg idle, Ppu.waiting, Ppu.waiting, next] at balance
  generalize (dotRun io start n).ppu.lane l = pair at balance
  obtain ⟨request, handle⟩ := pair
  cases handle with
  | false => rfl
  | true => cases request <;> simp [Handshake.pending] at balance

/-- A run that is transparent to its pauses meets all that it needs. -/
theorem PauseTransparent.needs (transparent : PauseTransparent io start)
    (released : ∀ n, (io n).pins.reset = false) (n : ℕ) : PauseNeeds io start n where
  handles paused :=
    ⟨transparent.handle_low (released n) paused (show Lane.write.gated = true from rfl),
      transparent.handle_low (released n) paused (show Lane.read.gated = true from rfl)⟩
  frozen paused edge := by
    cases free : (dotRun io start n).dma.dmaActive with
    | true => exact .inl rfl
    | false =>
      refine .inr ⟨fun l => ?_, ?_⟩
      · have unasked := transparent.unasked (released n) paused l
        rwa [asked, edge, Bool.true_and] at unasked
      · cases starts : (io n).bus.startsDma with
        | false => rfl
        | true =>
          have active : (dotRun io start (n + 1)).dma.dmaActive = true := by
            have addr : ((dotRun io start n).settle (io n).pins (io n).bus).cpuAddrBus (io n).bus =
                (io n).bus.addr := by
              show (if (dotRun io start n).dma.dmaActive then _ else _) = _
              rw [free]
              rfl
            rw [CpuBus.startsDma] at starts
            rw [dotRun_succ, ppuClock_dma, edge, if_pos rfl, dmaNext, addr, if_pos starts]
          have completed := transparent.dma n free active
          rw [completes, cpuEnable, paused, Bool.false_and, Bool.and_false] at completed
          exact absurd completed Bool.false_ne_true
  apart apart edge enable asks waits := by
    have now : (dotRun io start n).requests (io n) .inc = true ∨
        (dotRun io start n).requests (io n) .load = true := by
      rw [Bool.or_eq_true] at asks
      rw [requests, requests, completes, cpuEnable, edge, enable]
      refine asks.imp (fun asks => ?_) fun asks => ?_
      · rw [free_of_asks asks, asks]
        rfl
      · rw [free_of_asks asks, asks]
        rfl
    have none : (dotRun io start n).left (io n) .inc = false :=
      Bool.eq_false_iff.mpr fun stays =>
        apart (transparent.ordered n (Bool.or_eq_true_iff.mpr now) .inc stays)
    exact clear_of_answered waits none
  stride edge free turns waits := by
    have none : (dotRun io start n).left (io n) .inc = false := by
      refine Bool.eq_false_iff.mpr fun stays => turns ?_
      have kept := transparent.stride n stays
      rwa [dotRun_succ, ppuClock_cpu, edge, if_pos rfl, next_settledPort (released n) free] at kept
    exact clear_of_answered waits none
  reading answered idle next := by
    have enable : (io n).pins.enable = true := by
      rw [answers, Lane.gated, Bool.not_true, Bool.or_false, Bool.and_eq_true,
        Bool.and_eq_true] at answered
      exact answered.2.2
    have performed : Ppu.Performs (dotRun io start n).ppu (dotRun io start (n + 1)).ppu .read :=
      (performs_dot (dotRun io start n) (released n)
        (fun paused => absurd (enable.symm.trans paused) Bool.noConfusion) (io n).cpuEdge
        .read).mpr answered
    have captured := transparent.captured n idle performed
    rw [← captured, dotRun_succ io start (n + 1), ppuClock_access, released, next]
    rfl

/-- A run is transparent to its pauses when every pause finds both access handles low and a
frozen cycle that may be repeated, no access that moves the VRAM address or turns its stride
over finds one unanswered that a pause has held up, and no read is cut off from its data.
Conversely a transparent run meets these conditions, but for frozen accesses that ask for no
service. -/
theorem pause_transparent (released : ∀ n, (io n).pins.reset = false)
    (freezes : Freezes io start) (spaced : Spaced io) (one : OneWaiting start.ppu) :
    ((∀ n, PauseSafe io start n) → PauseTransparent io start) ∧
      (PauseTransparent io start → ∀ n, PauseNeeds io start n) :=
  ⟨transparent_of_safe released freezes spaced one,
    fun transparent => transparent.needs released⟩

end Runs

/-! ## One write and one pause -/

/-- A console in play, paused from one dot to another. -/
def pausedPins (first last n : ℕ) : Pins :=
  { Pins.playing with enable := !(decide (first ≤ n) && decide (n ≤ last)) }

/-- A write of `$2007` that completes on the third dot, then reads of program memory. -/
def oneWrite (n : ℕ) : CpuBus :=
  if n ≤ 2 then ⟨0x2007, 0x5A, false⟩ else ⟨0x8000, 0, true⟩

/-- One write, and a pause. -/
def pausedWrite (first last n : ℕ) : Dot where
  pins := pausedPins first last n
  bus := oneWrite n
  cpuEdge := n % 3 == 2

/-- From the fourth dot on the processor reads program memory. -/
theorem pausedWrite_bus {first last n : ℕ} (late : 2 < n) :
    (pausedWrite first last n).bus = ⟨0x8000, 0, true⟩ :=
  if_neg (Nat.not_le.mpr late)

/-- A pause after the write freezes the processor in a read of program memory. -/
theorem pausedWrite_freezes (first last : ℕ) (late : 2 < first) :
    Freezes (pausedWrite first last) (powerUp .blank) := by
  intro n stays
  have running : pausedPins first last 2 = .playing := by
    simp [pausedPins, Pins.playing, Nat.not_le.mpr late]
  rcases Nat.lt_trichotomy n 2 with before | rfl | after
  · show oneWrite (n + 1) = oneWrite n
    rw [oneWrite, oneWrite, if_pos (by omega), if_pos (by omega)]
  · have idle : (dotRun (pausedWrite first last) (powerUp .blank) 2).dma.dmaActive = false := rfl
    simp [completes, cpuEnable, idle, pausedWrite, running, Pins.playing] at stays
  · rw [pausedWrite_bus after, pausedWrite_bus (Nat.lt_succ_of_lt after)]

/-- A dot between two that are not paused is safe when it is not paused either. -/
theorem pauseSafe_of_running {io : ℕ → Dot} {start : Nes} {n : ℕ}
    (before : (io n).pins.enable = true) (running : (io (n + 1)).pins.enable = true)
    (next : (io (n + 2)).pins.enable = true) : PauseSafe io start (n + 1) where
  handles paused := absurd (running.symm.trans paused) Bool.noConfusion
  frozen paused := absurd (running.symm.trans paused) Bool.noConfusion
  apart resumed := by
    rw [resumes, before] at resumed
    exact absurd resumed Bool.false_ne_true
  stride resumed := by
    rw [resumes, before] at resumed
    exact absurd resumed Bool.false_ne_true
  reading _ _ paused := absurd (next.symm.trans paused) Bool.noConfusion

/-- `CPU_CLK` rises on every third dot. -/
theorem pausedWrite_spaced (first last : ℕ) : Spaced (pausedWrite first last) := by
  intro n edge
  have third : n % 3 = 2 := beq_iff_eq.mp edge
  exact beq_eq_false_iff_ne.mpr (by omega)

/-- A pause that starts while the write waits finds both handles low. -/
theorem pausedWrite_safe (n : ℕ) : PauseSafe (pausedWrite 3 7) (powerUp .blank) n := by
  by_cases late : 9 ≤ n
  · have enable (k : ℕ) (past : 8 ≤ k) : (pausedWrite 3 7 k).pins.enable = true := by
      simp [pausedWrite, pausedPins, Nat.not_le.mpr past]
    obtain ⟨n, rfl⟩ : ∃ k, n = k + 1 := ⟨n - 1, by omega⟩
    exact pauseSafe_of_running (enable n (by omega)) (enable (n + 1) (by omega))
      (enable (n + 2) (by omega))
  · have low : n < 9 := Nat.not_le.mp late
    interval_cases n <;> constructor <;> decide +kernel

/-- A pause between a write and its answer is transparent. -/
theorem pausedWrite_transparent : PauseTransparent (pausedWrite 3 7) (powerUp .blank) :=
  (pause_transparent (fun _ => rfl) (pausedWrite_freezes 3 7 (by decide))
    (pausedWrite_spaced 3 7) (oneWaiting_of_quiet fun l => by cases l <;> rfl)).1 pausedWrite_safe

/-- A pause after the answer is not: the write is performed a second time. -/
theorem pausedWrite_again :
    (∀ n, (pausedWrite 6 8 n).pins.reset = false) ∧
      Freezes (pausedWrite 6 8) (powerUp .blank) ∧ Spaced (pausedWrite 6 8) ∧
        OneWaiting (powerUp .blank).ppu ∧
          requestCount (pausedWrite 6 8) (powerUp .blank) .write 11 = 1 ∧
            performCount (pausedWrite 6 8) (powerUp .blank) .write 11 = 2 ∧
              ¬ PauseTransparent (pausedWrite 6 8) (powerUp .blank) := by
  have asked : requestCount (pausedWrite 6 8) (powerUp .blank) .write 11 = 1 := by
    decide +kernel
  have twice : performCount (pausedWrite 6 8) (powerUp .blank) .write 11 = 2 := by
    decide +kernel
  refine ⟨fun _ => rfl, pausedWrite_freezes 6 8 (by decide), pausedWrite_spaced 6 8,
    oneWaiting_of_quiet fun l => by cases l <;> rfl, asked, twice, fun transparent => ?_⟩
  have balance := transparent.served .write 11
  rw [asked, twice, show (powerUp .blank).ppu.waiting .write = false from rfl,
    Bool.toNat_false] at balance
  omega

end Nes

end FpgaNes
