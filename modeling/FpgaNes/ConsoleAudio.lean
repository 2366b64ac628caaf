import FpgaNes.ConsoleProgram

/-!
# The length counters of the console

The processor never writes one register of the APU for eight cycles in a row, so on the console
every half-frame event is counted.
-/

namespace FpgaNes

open Hdl

namespace Console

variable {io : ℕ → ConsoleInput} {start : Console}

/-- The console is reset once, and is not paused in a write of the APU. -/
structure Sounding (io : ℕ → ConsoleInput) (start : Console) : Prop where
  /-- `RESET` is high for one clock. -/
  asserted : (io 0).reset = true
  /-- It is low ever after. -/
  released : ∀ n, (io (n + 1)).reset = false
  /-- `ENABLE` is high in every write of the APU. -/
  enabled : ∀ n, (apuPorts io start n).cpuWren = true → (io n).enable = true

/-- What the APU sees from the first machine cycle of the processor on. -/
def soundPorts (io : ℕ → ConsoleInput) (start : Console) (n : ℕ) : ApuPort :=
  apuPorts io start (3 + n)

/-- The APU of the console makes a run of its own. -/
theorem run_apu (io : ℕ → ConsoleInput) (start : Console) (n : ℕ) :
    (run io start (3 + n)).apu = apuRun (soundPorts io start) (run io start 3).apu n := by
  induction n with
  | zero => rfl
  | succ n ih =>
    rw [apuRun_succ, ← ih]
    rfl

/-- An access of the APU is one of a register only in a write of it. -/
theorem unwritten_of_reads {n : ℕ} (reads : (run io start n).cpu.core.wrN = true)
    (register : BitVec 5) : (apuPorts io start n).writes register = false := by
  apply Bool.eq_false_iff.mpr
  intro written
  rw [ApuPort.writes, Bool.and_eq_true] at written
  exact Bool.false_ne_true ((apuPorts_wren written.1).2.1.symm.trans reads)

/-- A write of the APU comes from a processor that goes on. -/
theorem Sounding.goes (sounding : Sounding io start) {n : ℕ}
    (writes : (apuPorts io start n).cpuWren = true) : (drives io start n).enable = true := by
  have wren : ((run io start n).sampled (io n)).apuWren ((run io start n).bus (io n)) = true :=
    writes
  rw [Nes.apuWren, Bool.and_eq_true, Bool.and_eq_true] at wren
  show ((io n).enable && !(run io start n).nes.dma.dmaActive) = true
  rw [sounding.enabled n writes]
  exact wren.1.1

/-- On eight clocks in a row the APU is not written throughout. -/
theorem Sounding.writes_end (sounding : Sounding io start) {n : ℕ} (later : 0 < n) :
    ∃ k ≤ 7, (apuPorts io start (n + k)).cpuWren = false := by
  by_contra none
  have writes : ∀ k ≤ 7, (apuPorts io start (n + k)).cpuWren = true := by
    intro k within
    by_contra free
    exact none ⟨k, within, Bool.eq_false_of_not_eq_true free⟩
  have low : (drives io start 0).resN = false := by
    show (!(io 0).reset) = false
    rw [sounding.asserted]
    rfl
  obtain ⟨k, within, reads⟩ := ResetT65.writes_end (drives io start) start.cpu low later
    fun k within _ => sounding.goes (writes k (Nat.le_of_lt within))
  rw [← run_cpu] at reads
  exact Bool.false_ne_true ((apuPorts_wren (writes k within)).2.1.symm.trans reads)

/-- When the processor makes its first machine cycle, the channels are disabled, and no write of
`$4017` waits. -/
theorem Sounding.silent (sounding : Sounding io start) (channel : Channel) :
    (run io start 3).apu.status.pulseEnable channel = false ∧
      (run io start 3).apu.immediate = false := by
  obtain ⟨one, two, -⟩ := run_reset sounding.asserted sounding.released start
  have reads (n : ℕ) {resND : Bool}
      (held : (run io start n).cpu = ⟨start.cpu.core.reset, false, resND⟩) :
      (run io start n).cpu.core.wrN = true := by
    rw [held]
    rfl
  have released (n : ℕ) : (apuPorts io start (n + 1)).reset = false := sounding.released n
  have kept (n : ℕ) (reads : (run io start (n + 1)).cpu.core.wrN = true) :
      (run io start (n + 1 + 1)).apu.status.pulseEnable channel =
        (run io start (n + 1)).apu.status.pulseEnable channel := by
    show ((run io start (n + 1)).apu.status.next (apuPorts io start (n + 1))).pulseEnable _ = _
    rw [ApuStatus.next_pulseEnable _ _ (released n), unwritten_of_reads reads]
    rfl
  constructor
  · have cleared : (run io start 1).apu.status.pulseEnable channel = false := by
      show (start.apu.status.next (apuPorts io start 0)).pulseEnable channel = false
      have up : (apuPorts io start 0).reset = true := sounding.asserted
      have low : (apuPorts io start 0).cpuWren = false := by
        by_contra writes
        exact Bool.false_ne_true ((apuPorts_wren (Bool.eq_true_of_not_eq_false writes)).1.symm.trans
          sounding.asserted)
      rw [ApuStatus.next, up, ApuPort.writes, ApuPort.writes, low]
      cases (apuPorts io start 0).readsStatus <;> rfl
    rw [kept 1 (reads 2 two), kept 0 (reads 1 one), cleared]
  · show ((run io start 2).apu.clock (apuPorts io start 2)).immediate = false
    rw [Apu.immediate_clock _ (released 1), unwritten_of_reads (reads 2 two)]
    rfl

/-- On the console the length counter of each channel follows its reference, whatever program
runs and whatever transfers stall it: no half-frame event is lost or counted twice. -/
theorem lengthCounters_counted (sounding : Sounding io start) (channel : Channel) :
    (∀ n, (run io start (3 + n)).apu = apuRun (soundPorts io start) (run io start 3).apu n) ∧
      LengthCounted (soundPorts io start) (run io start 3).apu channel := by
  refine ⟨run_apu io start, ?_⟩
  obtain ⟨disabled, still⟩ := sounding.silent channel
  have released (n : ℕ) : (soundPorts io start n).reset = false := by
    rw [soundPorts, show 3 + n = 2 + n + 1 by omega]
    exact sounding.released (2 + n)
  have apart : WritesApart (soundPorts io start) := by
    intro i j before first second differ
    have spaced := apu_writesApart io start sounding.asserted (3 + i) (3 + j) (by omega) first
      second differ
    omega
  have brief (i : ℕ) : ∃ k ≤ 14913, (soundPorts io start (i + k)).pulseLcLoad channel = false := by
    obtain ⟨k, within, free⟩ := sounding.writes_end (n := 3 + i) (by omega)
    refine ⟨k, by omega, ?_⟩
    rw [soundPorts, ApuPort.pulseLcLoad, ApuPort.writes, ← Nat.add_assoc, free]
    rfl
  have ends := loadsEnd_of_brief released apart still brief
  exact LengthTracked.counted (lengthTracked released apart disabled ends)

/-- A program at `$8000` that enables the first channel and loads its length counter: `LDA #$01`,
`STA $4015`, `LDA #$08`, `STA $4003`, and a jump to itself. -/
def loadLength (addr : BitVec 15) : Byte :=
  [0xA9, 0x01, 0x8D, 0x15, 0x40, 0xA9, 0x08, 0x8D, 0x03, 0x40, 0x4C, 0x0A, 0x80].getD addr.toNat
    (if addr.getLsbD 0 then 0x80 else 0x00)

/-- A console with the program in its ROM. -/
def sounded : Console := powerUp { Memories.blank with prgRom := ⟨loadLength, 0⟩ }

/-- The program loads the counter, and the reference with it. -/
theorem sounded_counted :
    (lengthReference (soundPorts playing sounded) (run playing sounded 3).apu .one 20).counter =
      254 := by
  have loaded : (run playing sounded (3 + 20)).apu.pulseLengthCounter .one = 254 := by
    decide +kernel
  have sounding : Sounding playing sounded := ⟨rfl, fun _ => rfl, fun _ _ => rfl⟩
  obtain ⟨same, counted⟩ := lengthCounters_counted sounding .one
  rw [← counted.counter, ← same, loaded]
  rfl

end Console

end FpgaNes
