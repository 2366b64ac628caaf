import FpgaNes.SystemRam
import FpgaNes.Apu
import FpgaNes.Controller
import FpgaNes.LengthCounters
import FpgaNes.T65.Devices
import FpgaNes.T65.NonMaskable

/-!
# The whole console

`NES_ARCHITECTURE.sv` with every module in its place: the processor on the CPU bus, the PPU, the
memories and the DMA, the APU and the two controllers.
-/

namespace FpgaNes

open Hdl
open Mos6502 (Word Memory)

/-- What comes from outside the console over one CPU clock. -/
structure ConsoleInput where
  /-- `RESET`. -/
  reset : Bool
  /-- `ENABLE`. -/
  enable : Bool
  /-- What the game says of its mirroring and CHR memory. -/
  header : Header
  /-- The programmer writes PRG ROM. -/
  prgRomPrgmrWren : Bool
  /-- The programmer writes CHR ROM. -/
  chrRomPrgmrWren : Bool
  /-- The address of the programmer. -/
  romPrgmrAddr : BitVec 16
  /-- The byte of the programmer. -/
  romPrgmrData : Byte
  /-- The buttons of the first player. -/
  controllerOneKeycode : Byte
  /-- The buttons of the second player. -/
  controllerTwoKeycode : Byte

/-- Registers of every module of the console. -/
structure Console where
  /-- The processor. -/
  cpu : ResetT65
  /-- The PPU, the DMA and the memories. -/
  nes : Nes
  /-- The APU. -/
  apu : Apu
  /-- The first controller. -/
  playerOne : Controller
  /-- The second controller. -/
  playerTwo : Controller

namespace Console

variable (input : ConsoleInput) (c : Console)

/-- Registers of the processor in a bus cycle: `RESET` resets them at once. -/
def core : T65 := if input.reset then c.cpu.core.reset else c.cpu.core

/-- `CPU_ADDR`, `CPU_DATA_OUT` and `CPU_RW_n`. -/
def bus : CpuBus := ⟨(c.core input).address, (c.core input).dataOut, (c.core input).wrN⟩

/-- The controllers are written in write cycles, where `CPU_DATA_BUS` is `CPU_DATA_OUT`. -/
def controllerPort (readAddr : Word) (keycode : Byte) : ControllerPort where
  rden := !c.nes.dma.dmaActive && (c.bus input).rwN && (c.bus input).addr == readAddr
  wren := !c.nes.dma.dmaActive && !(c.bus input).rwN && (c.bus input).addr == 0x4016
  reset := input.reset
  dataIn := (c.bus input).dataOut
  keycodesIn := keycode

/-- `playerone` some edges of `MEM_CLK` into a bus cycle. -/
def playerOneAt (edges : ℕ) : Controller :=
  trace (fun port player => player.next port)
    (fun _ => c.controllerPort input 0x4016 input.controllerOneKeycode) c.playerOne edges

/-- `playertwo` some edges of `MEM_CLK` into a bus cycle. -/
def playerTwoAt (edges : ℕ) : Controller :=
  trace (fun port player => player.next port)
    (fun _ => c.controllerPort input 0x4017 input.controllerTwoKeycode) c.playerTwo edges

/-- The port of the APU, without the data it carries. -/
def apuControl : ApuPort where
  reset := input.reset
  cpuDataIn := 0
  cpuAddr := (c.bus input).addr.setWidth 5
  cpuWren := c.nes.apuWren (c.bus input)
  cpuRden := c.nes.apuRden (c.bus input)

/-- The pins of the console, with what the other modules have on the bus at the end of the bus
cycle, after eleven edges of `MEM_CLK`. -/
def pins : Pins where
  reset := input.reset
  enable := input.enable
  header := input.header
  prgRomPrgmrWren := input.prgRomPrgmrWren
  chrRomPrgmrWren := input.chrRomPrgmrWren
  romPrgmrAddr := input.romPrgmrAddr
  romPrgmrData := input.romPrgmrData
  apuDataOut := c.apu.cpuDataOut (c.apuControl input)
  controllerOneDataOut := (c.playerOneAt input 11).dataOut
  controllerTwoDataOut := (c.playerTwoAt input 11).dataOut

/-- The console, but for the processor, just before the edge that ends a bus cycle. -/
def sampled : Nes := c.nes.sample (c.pins input) (c.bus input)

/-- `CPU_DATA_BUS` at the end of a bus cycle. -/
def dataBus : Byte := (c.sampled input).cpuDataBus (c.pins input) (c.bus input)

/-- What the pins of the processor carry at the end of a bus cycle. `IRQ_n` is tied high. -/
def drive : ResetT65.Drive where
  resN := !input.reset
  enable := (c.sampled input).cpuEnable (c.pins input)
  pins := Cpu2A03.pins true (c.sampled input).ppu.nmiN
  di := Cpu2A03.di (c.core input) (c.dataBus input)

/-- One period of `CPU_CLK`. -/
def clock : Console where
  cpu := c.cpu.step (c.drive input)
  nes := c.nes.cpuClock (c.pins input) (c.bus input)
  apu := c.apu.clock ((c.sampled input).apuPort (c.pins input) (c.bus input))
  playerOne := c.playerOneAt input 12
  playerTwo := c.playerTwoAt input 12

/-- The console after each number of CPU clocks. -/
def run (io : ℕ → ConsoleInput) (start : Console) : ℕ → Console := trace clock io start

variable {input c}

/-- What the processor sees along a run. -/
def drives (io : ℕ → ConsoleInput) (start : Console) (n : ℕ) : ResetT65.Drive :=
  (run io start n).drive (io n)

/-- The processor of the console makes a run of its own. -/
theorem run_cpu (io : ℕ → ConsoleInput) (start : Console) (n : ℕ) :
    (run io start n).cpu = ResetT65.run (drives io start) start.cpu n := by
  induction n with
  | zero => rfl
  | succ n ih =>
    show (run io start n).cpu.step _ = (ResetT65.run _ _ n).step _
    rw [ih]
    rfl

/-! ## Writes of the APU -/

/-- The bus interface of the APU along a run. -/
def apuPorts (io : ℕ → ConsoleInput) (start : Console) (n : ℕ) : ApuPort :=
  ((run io start n).sampled (io n)).apuPort ((run io start n).pins (io n))
    ((run io start n).bus (io n))

/-- A write of the APU comes from the processor, out of reset, and is outside the stack. -/
theorem apuPorts_wren {io : ℕ → ConsoleInput} {start : Console} {n : ℕ}
    (writes : (apuPorts io start n).cpuWren = true) :
    (io n).reset = false ∧ (run io start n).cpu.core.wrN = false ∧
      (run io start n).cpu.core.address.extractLsb 15 8 ≠ 0x01 ∧
      (apuPorts io start n).cpuAddr = (run io start n).cpu.core.address.setWidth 5 := by
  have wren : ((run io start n).sampled (io n)).apuWren ((run io start n).bus (io n)) = true :=
    writes
  simp only [Nes.apuWren, Bool.and_eq_true, Bool.or_eq_true, Bool.not_eq_true', decide_eq_true_eq,
    beq_iff_eq] at wren
  obtain ⟨⟨-, low⟩, range⟩ := wren
  have out : (io n).reset = false := by
    by_contra reset
    rw [bus, core, if_pos (Bool.eq_true_of_not_eq_false reset)] at low
    exact Bool.false_ne_true low.symm
  have same : (run io start n).core (io n) = (run io start n).cpu.core := by
    rw [core, out]
    rfl
  have address : (apuPorts io start n).cpuAddr = (run io start n).cpu.core.address.setWidth 5 := by
    rw [← same]
    rfl
  have high : 0x4000 ≤ (run io start n).cpu.core.address.toNat := by
    rw [bus, same] at range
    rcases range with (⟨bound, -⟩ | status) | counter
    · exact bound
    · have value := congrArg BitVec.toNat status
      exact value.symm ▸ by decide
    · have value := congrArg BitVec.toNat counter
      exact value.symm ▸ by decide
  refine ⟨out, by rw [← same]; exact low, ?_, address⟩
  intro stack
  have page := congrArg BitVec.toNat stack
  rw [BitVec.extractLsb, toNat_slice] at page
  change _ = 1 at page
  have bound := (run io start n).cpu.core.address.isLt
  omega

/-- From a reset on, through stalls, transfers and later resets, the APU of the console is not
written at two registers less than three cycles apart. -/
theorem apu_writesApart (io : ℕ → ConsoleInput) (start : Console)
    (asserted : (io 0).reset = true) : WritesApart (apuPorts io start) := by
  intro i j before first second differ
  obtain ⟨out, write, outside, address⟩ := apuPorts_wren first
  obtain ⟨-, write', -, address'⟩ := apuPorts_wren second
  have later : 0 < i := by
    apply Nat.pos_of_ne_zero
    rintro rfl
    exact Bool.false_ne_true (out.symm.trans asserted)
  have low : (drives io start 0).resN = false := by
    show (!(io 0).reset) = false
    rw [asserted]
    rfl
  rw [run_cpu] at write write' outside address address'
  refine ResetT65.writes_apart (drives io start) start.cpu low later before write write' ?_
    (.inl outside)
  intro same
  rw [address, address', same] at differ
  exact differ rfl

end Console

end FpgaNes
