import FpgaNes.T65.MCode
import FpgaNes.T65.Alu

/-!
# The processor

`T65.vhd` as `CPU_2A03.sv` instantiates it: `Mode` is "00", and `Rdy`, `Abort_n` and `SO_n`
are tied high. One function for each register gives its value after an edge of `Clk` with
`Enable` high.
-/

namespace FpgaNes

/-- Registers of `T65`. -/
structure T65 where
  /-- `ABC(7..0)`, the accumulator. -/
  abc : Byte
  /-- `X(7..0)`. -/
  x : Byte
  /-- `Y(7..0)`. -/
  y : Byte
  /-- `P`, the flags. -/
  p : T65.Status
  /-- `AD`. -/
  ad : Byte
  /-- `DL`, the data latch. -/
  dl : Byte
  /-- `BAH`. -/
  bah : Byte
  /-- `BAL`. -/
  bal : BitVec 9
  /-- `PC`. -/
  pc : BitVec 16
  /-- `S`, the stack pointer. -/
  s : BitVec 16
  /-- `IR`, the instruction register. -/
  ir : Byte
  /-- `MCycle`. -/
  mCycle : T65.Cycle
  /-- `BCD_en_r`. -/
  bcdEnR : Bool
  /-- `ALU_Op_r`. -/
  aluOpR : T65.AluOp
  /-- `Write_Data_r`. -/
  writeDataR : T65.WriteData
  /-- `Set_Addr_To_r`. -/
  setAddrToR : T65.AddrTo
  /-- `BusA_r`. -/
  busAR : Byte
  /-- `BusB`. -/
  busB : Byte
  /-- `BusB_r`. -/
  busBR : Byte
  /-- `WRn_i`: read is high, write is low. -/
  wrN : Bool
  /-- `RstCycle`. -/
  rstCycle : Bool
  /-- `IRQCycle`. -/
  irqCycle : Bool
  /-- `NMICycle`. -/
  nmiCycle : Bool
  /-- `IRQ_n_o`. -/
  irqNO : Bool
  /-- `NMI_n_o`. -/
  nmiNO : Bool
  /-- `NMIAct`. -/
  nmiAct : Bool
  /-- `NMI_entered`. -/
  nmiEntered : Bool
  deriving DecidableEq

namespace T65

/-- Input pins of `T65`. -/
structure Pins where
  /-- `BCD_en`. -/
  bcdEn : Bool
  /-- `IRQ_n`. -/
  irqN : Bool
  /-- `NMI_n`. -/
  nmiN : Bool
  deriving DecidableEq

/-! ## Combinational outputs -/

/-- The outputs of the microcode. -/
def micro (s : T65) : Micro := mcode s.ir s.bcdEnR (MCode.branch s.ir s.p) s.mCycle

/-- `P_Out` and `ALU_Q`. -/
def aluOut (s : T65) : Status × Byte := alu s.bcdEnR s.aluOpR s.busAR s.busB s.p

/-- `PCAdder`. -/
def pcAdder (m : Moves) (s : T65) : BitVec 9 :=
  if m.pcAdd then (s.pc.extractLsb 7 0).setWidth 9 + (BitVec.ofBool (s.dl.getLsbD 7) ++ s.dl)
  else 0#1 ++ s.pc.extractLsb 7 0

/-- `Break`. -/
def breaks (m : Moves) (s : T65) : Bool :=
  (m.breakAtNA && !s.bal.getLsbD 8) || (m.pcAdd && !(s.pcAdder m).getLsbD 8)

/-- `BusA`. -/
def busA (u : Micro) (di : Byte) (s : T65) : Byte :=
  match u.setBusATo with
  | .di => di
  | .abc => s.abc
  | .x => s.x
  | .y => s.y
  | .s => s.s.setWidth 8
  | .p => s.p.toByte
  | .da => s.abc &&& di
  | .dao => (s.abc ||| 0xEE) &&& di
  | .dax => (s.abc ||| 0xEE) &&& di &&& s.x
  | .aax => s.abc &&& s.x

/-- The low sixteen bits of `A`. -/
def address (s : T65) : BitVec 16 :=
  match s.setAddrToR with
  | .sp => 0x01#8 ++ s.s.setWidth 8
  | .zpg => 0x00#8 ++ s.ad
  | .ba => s.bah ++ s.bal.setWidth 8
  | .pbr => s.pc.extractLsb 15 8 ++ (s.pcAdder s.micro.toMoves).setWidth 8

/-- `PwithB`. -/
def pWithB (s : T65) : Byte :=
  if s.irqCycle || s.nmiCycle then s.p.toByte &&& 0xEF else s.p.toByte

/-- `DO`. -/
def dataOut (s : T65) : Byte :=
  match s.writeDataR with
  | .dl => s.dl
  | .abc => s.abc
  | .x => s.x
  | .y => s.y
  | .s => s.s.setWidth 8
  | .p => s.pWithB
  | .pcl => s.pc.setWidth 8
  | .pch => s.pc.extractLsb 15 8
  | .ax => s.abc &&& s.x
  | .axb => s.abc &&& s.x &&& s.busBR
  | .xb => s.x &&& s.busBR
  | .yb => s.y &&& s.busBR

/-- `Sync`: the opcode fetch. -/
def sync (s : T65) : Bool := s.mCycle == 0

/-- An interrupt takes the place of the opcode to fetch. -/
def interrupted (s : T65) : Bool := s.irqCycle || s.nmiCycle

/-! ## Program counter and stack pointer -/

/-- `PC` by a relative jump. -/
def pcRelative (m : Moves) (s : T65) : BitVec 16 :=
  let high := s.pc.extractLsb 15 8
  let page :=
    if (s.pcAdder m).getLsbD 8 then if s.dl.getLsbD 7 then high - 1 else high + 1 else high
  page ++ (s.pcAdder m).setWidth 8

/-- `PC`. -/
def pcNext (m : Moves) (di : Byte) (s : T65) : BitVec 16 :=
  match m.jump with
  | .inc => s.pc + 1
  | .diDl => di ++ s.dl
  | .rel => s.pcRelative m
  | .none =>
    if (s.sync || s.ir == 0 && s.mCycle == 1) && !s.interrupted then s.pc + 1 else s.pc

/-- `S`. -/
def sNext (u : Micro) (s : T65) : BitVec 16 :=
  if u.decS then s.s - 1
  else if u.incS then s.s + 1
  else if s.sync && u.lds then s.s.extractLsb 15 8 ++ s.aluOut.2
  else s.s

/-! ## Flags -/

/-- The flag instructions, column `$x8` of the odd rows. -/
def flagOp (ir : Byte) (p : Status) : Status :=
  if ir.extractLsb 4 0 = 0b11000 then
    match ir.extractLsb 7 5 with
    | 0b000 => { p with c := false }
    | 0b001 => { p with c := true }
    | 0b010 => { p with i := false }
    | 0b011 => { p with i := true }
    | 0b101 => { p with v := false }
    | 0b110 => { p with d := false }
    | 0b111 => { p with d := true }
    | _ => p
  else p

/-- `P`. -/
def pNext (u : Micro) (s : T65) : Status :=
  let p := if s.sync && (u.lda || u.ldx || u.ldy) then s.aluOut.1 else s.p
  let p := if u.saveP then s.aluOut.1 else p
  let p := if u.ldp then Status.ofByte s.aluOut.2 else p
  let p := flagOp s.ir p
  let p := { p with b := true }
  let p := if s.ir == 0 && s.mCycle == 4 && !s.rstCycle then { p with i := true } else p
  let p := if s.rstCycle then { p with i := true, d := false } else p
  { p with one := true }

/-! ## Address and data latches -/

/-- `AD`. -/
def adNext (m : Moves) (di : Byte) (s : T65) : Byte :=
  if m.ldad then di
  else if m.adAdd then s.ad + (if m.addY then s.y else s.x)
  else if m.baAdd = .inc then s.ad + 1
  else s.ad

/-- The low bits of the interrupt vector. -/
def vector (s : T65) : BitVec 3 :=
  if s.rstCycle then 0b100
  else if s.nmiCycle || s.nmiAct && s.mCycle == 4 || s.nmiEntered then 0b010
  else 0b110

/-- `BAL`. -/
def balNext (u : Micro) (di : Byte) (s : T65) : BitVec 9 :=
  let bal :=
    match u.baAdd with
    | .inc => s.bal + 1
    | .add => (s.bal.setWidth 8).setWidth 9 + (s.busA u di).setWidth 9
    | _ => s.bal
  let bal :=
    if s.ir = 0 then
      0b111111#6 ++ s.vector.extractLsb 2 1 ++
        BitVec.ofBool (s.setAddrToR == .ba || s.vector.getLsbD 0)
    else bal
  if u.ldbal then bal.extractLsb 8 8 ++ di else bal

/-- `BAH`. -/
def bahNext (m : Moves) (di : Byte) (s : T65) : Byte :=
  if m.ldbah then di
  else if s.ir = 0 then 0xFF
  else if m.baAdd = .adj ∧ s.bal.getLsbD 8 = true then
    match m.baQuirk with
    | .none => s.bah + 1
    | .and => (s.bah + 1) &&& s.dataOut
    | .copy => s.dataOut
  else s.bah

/-- `DL`. -/
def dlNext (m : Moves) (di : Byte) (s : T65) : Byte :=
  if m.ldalu then s.aluOut.2 else if m.lddi then di else s.dl

/-- `BusB_r`. -/
def busBRNext (di : Byte) (s : T65) : Byte :=
  if s.setAddrToR = .pbr ∨ s.setAddrToR = .zpg then di + 1 else s.busBR

/-! ## Machine cycles and interrupts -/

/-- The last machine cycle of the instruction. -/
def done (m : Moves) (s : T65) : Bool := s.mCycle == m.lCycle || s.breaks m

/-- The first cycle of a branch, which looks at no interrupt line. -/
def branching (m : Moves) (s : T65) : Bool := s.ir.extractLsb 4 0 == 0b10000 && m.jump == .inc

/-- An interrupt starts with the next machine cycle: by `NMI_n`, then by `IRQ_n`. -/
def takesNmi (s : T65) : Bool := s.nmiAct && s.ir != 0

/-- `NMIAct`. -/
def nmiActNext (pins : Pins) (m : Moves) (s : T65) : Bool :=
  if s.nmiEntered then false
  else if s.nmiNO && !pins.nmiN && !s.branching m then true
  else if s.done m && s.takesNmi then false
  else s.nmiAct

/-- `NMI_entered`. -/
def nmiEnteredNext (s : T65) : Bool :=
  s.ir == 0 && s.vector == 0b010 && s.mCycle == 4

/-! ## Edges -/

/-- An edge of `Clk` out of reset with `Enable` high. -/
def clock (pins : Pins) (di : Byte) (s : T65) : T65 :=
  let u := s.micro
  let m := u.toMoves
  { abc := if s.sync && u.lda then s.aluOut.2 else s.abc
    x := if s.sync && u.ldx then s.aluOut.2 else s.x
    y := if s.sync && u.ldy then s.aluOut.2 else s.y
    p := s.pNext u
    ad := s.adNext m di
    dl := s.dlNext m di
    bah := s.bahNext m di
    bal := s.balNext u di
    pc := s.pcNext m di
    s := s.sNext u
    ir := if s.sync then if s.interrupted then 0 else di else s.ir
    mCycle := if s.done m then 0 else s.mCycle + 1
    bcdEnR := if s.sync then pins.bcdEn else s.bcdEnR
    aluOpR := u.aluOp
    writeDataR := u.writeData
    setAddrToR := if s.breaks m then .pbr else u.setAddrTo
    busAR := s.busA u di
    busB := di
    busBR := s.busBRNext di
    wrN := !u.write || s.rstCycle
    rstCycle := s.rstCycle && !s.done m
    irqCycle := if s.done m then !s.takesNmi && !s.irqNO && !s.p.i else s.irqCycle
    nmiCycle := if s.done m then s.takesNmi else s.nmiCycle
    irqNO := if s.branching m then s.irqNO else pins.irqN
    nmiNO := if s.branching m then s.nmiNO else pins.nmiN
    nmiAct := s.nmiActNext pins m
    nmiEntered := s.nmiEnteredNext }

/-- The registers while `Res_n_i` is low. -/
def reset (s : T65) : T65 :=
  { s with
    p := .ofByte 0
    ad := 0
    dl := 0
    bah := 0
    bal := 0
    pc := 0
    s := 0
    ir := 0
    mCycle := 1
    bcdEnR := true
    aluOpR := .bit
    writeDataR := .dl
    setAddrToR := .pbr
    busAR := 0
    busB := 0
    busBR := 0
    wrN := true
    rstCycle := true
    irqCycle := false
    nmiCycle := false
    nmiAct := false }

/-- An edge of `Clk` while `Res_n` has been high for two edges. -/
def enabledClock (enable : Bool) (pins : Pins) (di : Byte) (s : T65) : T65 :=
  if enable then s.clock pins di else s

end T65

/-- `T65` with the registers that lengthen its reset. -/
structure ResetT65 where
  /-- The registers. -/
  core : T65
  /-- `Res_n_i`. -/
  resNI : Bool
  /-- `Res_n_d`. -/
  resND : Bool
  deriving DecidableEq

namespace ResetT65

/-- An edge of `Clk`. `Res_n` acts at once, and is released after two edges. -/
def edge (resN enable : Bool) (pins : T65.Pins) (di : Byte) (s : ResetT65) : ResetT65 :=
  if !resN then { core := s.core.reset, resNI := false, resND := false }
  else
    { core := if !s.resNI then s.core.reset else s.core.enabledClock enable pins di
      resNI := s.resND
      resND := true }

/-- Every register low, as the device powers up. -/
def powerUp : ResetT65 where
  core :=
    { abc := 0
      x := 0
      y := 0
      p := .ofByte 0
      ad := 0
      dl := 0
      bah := 0
      bal := 0
      pc := 0
      s := 0
      ir := 0
      mCycle := 0
      bcdEnR := false
      aluOpR := .or
      writeDataR := .dl
      setAddrToR := .sp
      busAR := 0
      busB := 0
      busBR := 0
      wrN := false
      rstCycle := false
      irqCycle := false
      nmiCycle := false
      irqNO := false
      nmiNO := false
      nmiAct := false
      nmiEntered := false }
  resNI := false
  resND := false

end ResetT65

/-- The pins of `T65` in `CPU_2A03`, which ties `BCD_en` low. -/
def Cpu2A03.pins (irqN nmiN : Bool) : T65.Pins := ⟨false, irqN, nmiN⟩

/-- `data_route` of `CPU_2A03`: what a write puts on the bus is read back. -/
def Cpu2A03.di (cpu : T65) (dataIn : Byte) : Byte := if cpu.wrN then dataIn else cpu.dataOut

end FpgaNes
