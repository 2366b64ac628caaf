import FpgaNes.T65.Pack

/-!
# The processor: microcode

`T65_MCode.vhd` with `Mode` "00" and `Rdy_mod` low: what each machine cycle of each of
the 256 opcodes does. The process of the source assigns its outputs group by group, the
last assignment taking effect; here every group is a function on the outputs so far.
-/

namespace FpgaNes

namespace T65

/-- The outputs of the microcode that move addresses and data, at the values the process
starts from. -/
structure Moves where
  /-- `LCycle`, the last cycle. -/
  lCycle : Cycle := 1
  /-- `Set_Addr_To`. -/
  setAddrTo : AddrTo := .pbr
  /-- `Jump`. -/
  jump : Jump := .none
  /-- `BAAdd`. -/
  baAdd : BaAdd := .none
  /-- `BAQuirk`. -/
  baQuirk : BaQuirk := .none
  /-- `BreakAtNA`. -/
  breakAtNA : Bool := false
  /-- `ADAdd`. -/
  adAdd : Bool := false
  /-- `AddY`. -/
  addY : Bool := false
  /-- `PCAdd`. -/
  pcAdd : Bool := false
  /-- `Inc_S`. -/
  incS : Bool := false
  /-- `Dec_S`. -/
  decS : Bool := false
  /-- `LDP`. -/
  ldp : Bool := false
  /-- `LDDI`. -/
  lddi : Bool := false
  /-- `LDALU`. -/
  ldalu : Bool := false
  /-- `LDAD`. -/
  ldad : Bool := false
  /-- `LDBAL`. -/
  ldbal : Bool := false
  /-- `LDBAH`. -/
  ldbah : Bool := false
  /-- `SaveP`. -/
  saveP : Bool := false
  /-- `Write`. -/
  write : Bool := false
  deriving DecidableEq

/-- The outputs of the microcode, and the signal `ALUmore` between its two processes. -/
structure Micro extends Moves where
  /-- `ALU_Op`. -/
  aluOp : AluOp := .eq1
  /-- `Set_BusA_To`. -/
  setBusATo : BusATo := .abc
  /-- `Write_Data`. -/
  writeData : WriteData := .dl
  /-- `LDA`. -/
  lda : Bool := false
  /-- `LDX`. -/
  ldx : Bool := false
  /-- `LDY`. -/
  ldy : Bool := false
  /-- `LDS`. -/
  lds : Bool := false
  /-- `ALUmore`. -/
  aluMore : Bool := false
  deriving DecidableEq

namespace MCode

/-- `Branch`: the condition of a branch opcode. -/
def branch (ir : Byte) (p : Status) : Bool :=
  match ir.extractLsb 7 5 with
  | 0b000 => !p.n
  | 0b001 => p.n
  | 0b010 => !p.v
  | 0b011 => p.v
  | 0b100 => !p.c
  | 0b101 => p.c
  | 0b110 => !p.z
  | _ => p.z

/-- An opcode of the read-modify-write columns outside `$80` to `$BF`, the undocumented
ones included. -/
def modifies (ir : Byte) : Bool := ir.extractLsb 7 6 != 0b10 && ir.getLsbD 1

/-- The rows `$80` to `$FF` select the register of the instruction. -/
def rows (ir : Byte) (u : Micro) : Micro :=
  match ir.extractLsb 7 5 with
  | 0b100 =>
    match ir.extractLsb 1 0 with
    | 0b00 =>
      { u with
        setBusATo := .y
        writeData := if ir.extractLsb 4 2 = 0b111 then .yb else .y }
    | 0b10 =>
      { u with
        setBusATo := .x
        writeData := if ir.extractLsb 4 2 = 0b111 then .xb else .x }
    | 0b11 =>
      let u :=
        if ir.extractLsb 4 2 = 0b110 then { u with setBusATo := .aax, lds := true }
        else { u with setBusATo := .abc }
      if ir.extractLsb 4 2 = 0b111 ∨ ir.extractLsb 4 2 = 0b110 ∨ ir.extractLsb 4 2 = 0b100 then
        { u with writeData := .axb }
      else { u with writeData := .ax }
    | _ => { u with writeData := .abc }
  | 0b101 =>
    let u := { u with setBusATo := .di }
    match ir.extractLsb 1 0 with
    | 0b00 => if !ir.getLsbD 4 || ir.getLsbD 2 then { u with ldy := true } else u
    | 0b01 => { u with lda := true }
    | 0b10 => { u with ldx := true }
    | _ =>
      let u := { u with ldx := true, lda := true }
      if ir.extractLsb 4 2 = 0b110 then { u with setBusATo := .s, lds := true } else u
  | 0b110 =>
    match ir.extractLsb 1 0 with
    | 0b00 =>
      let u := if ir.getLsbD 4 then u else { u with ldy := true }
      { u with setBusATo := .y }
    | _ => { u with setBusATo := .abc }
  | 0b111 =>
    match ir.extractLsb 1 0 with
    | 0b00 =>
      let u := if ir.getLsbD 4 then u else { u with ldx := true }
      { u with setBusATo := .x }
    | _ => { u with setBusATo := .abc }
  | _ => u

/-- The read-modify-write columns take their operand from the data bus. -/
def columns (ir : Byte) (u : Micro) : Micro :=
  if modifies ir then { u with setBusATo := if ir = 0xEB then .abc else .di } else u

/-- Implied: the columns `$x0`, `$x8` and `$xA`. -/
def implied (ir : Byte) (cycle : Cycle) (u : Micro) : Micro :=
  match ir with
  | 0x00 => -- BRK
    let u := { u with lCycle := 6 }
    match cycle with
    | 1 => { u with setAddrTo := .sp, writeData := .pch, write := true }
    | 2 => { u with decS := true, setAddrTo := .sp, writeData := .pcl, write := true }
    | 3 => { u with decS := true, setAddrTo := .sp, writeData := .p, write := true }
    | 4 => { u with decS := true, setAddrTo := .ba }
    | 5 => { u with lddi := true, setAddrTo := .ba }
    | 6 => { u with jump := .diDl }
    | _ => u
  | 0x20 => -- JSR
    let u := { u with lCycle := 5 }
    match cycle with
    | 1 => { u with jump := .inc, lddi := true, setAddrTo := .sp }
    | 2 => { u with setAddrTo := .sp, writeData := .pch, write := true }
    | 3 => { u with decS := true, setAddrTo := .sp, writeData := .pcl, write := true }
    | 4 => { u with decS := true }
    | 5 => { u with jump := .diDl }
    | _ => u
  | 0x40 => -- RTI
    let u := { u with lCycle := 5 }
    match cycle with
    | 1 => { u with setAddrTo := .sp }
    | 2 => { u with incS := true, setAddrTo := .sp }
    | 3 => { u with incS := true, setAddrTo := .sp, setBusATo := .di }
    | 4 => { u with ldp := true, incS := true, lddi := true, setAddrTo := .sp }
    | 5 => { u with jump := .diDl }
    | _ => u
  | 0x60 => -- RTS
    let u := { u with lCycle := 5 }
    match cycle with
    | 1 => { u with setAddrTo := .sp }
    | 2 => { u with incS := true, setAddrTo := .sp }
    | 3 => { u with incS := true, lddi := true, setAddrTo := .sp }
    | 4 => { u with jump := .diDl }
    | 5 => { u with jump := .inc }
    | _ => u
  | 0x08 | 0x48 | 0x5A | 0xDA => -- PHP, PHA; the other two do nothing on a 6502
    let u := { u with lCycle := if ir.getLsbD 1 then 1 else 2 }
    match cycle with
    | 1 =>
      if ir.getLsbD 1 then u
      else
        let u := { u with write := true, setAddrTo := .sp }
        match ir.extractLsb 7 4 with
        | 0b0000 => { u with writeData := .p }
        | 0b0100 => { u with writeData := .abc }
        | 0b0101 | 0b1101 => { u with write := false }
        | _ => u
    | 2 => { u with decS := true }
    | _ => u
  | 0x28 | 0x68 | 0x7A | 0xFA => -- PLP, PLA; the other two do nothing on a 6502
    let u := { u with lCycle := if ir.getLsbD 1 then 1 else 3 }
    let u :=
      match ir.extractLsb 7 4 with
      | 0b0010 => { u with ldp := true }
      | 0b0110 => { u with lda := true }
      | _ => u
    match cycle with
    | 0 => if ir.getLsbD 1 then u else { u with saveP := true }
    | 1 => if ir.getLsbD 1 then u else { u with setAddrTo := .sp, ldp := false }
    | 2 => { u with incS := true, setAddrTo := .sp, ldp := false }
    | 3 => { u with setBusATo := .di }
    | _ => u
  | 0xA0 | 0xC0 | 0xE0 => -- LDY, CPY, CPX
    if cycle = 1 then { u with jump := .inc } else u
  | 0x88 => -- DEY
    let u := { u with ldy := true }
    if cycle = 1 then { u with setBusATo := .y } else u
  | 0xCA => -- DEX
    let u := { u with ldx := true }
    if cycle = 1 then { u with setBusATo := .x } else u
  | 0x1A | 0x3A =>
    let u := { u with lCycle := 1 }
    if cycle = 1 then { u with setBusATo := .s } else u
  | 0x0A | 0x2A | 0x4A | 0x6A => -- ASL, ROL, LSR, ROR
    { u with lda := true, setBusATo := .abc }
  | 0x8A | 0x98 => -- TXA, TYA
    { u with lda := true }
  | 0xAA | 0xA8 => -- TAX, TAY
    if cycle = 1 then { u with setBusATo := .abc } else u
  | 0x9A => -- TXS
    { u with lds := true }
  | 0xBA => -- TSX
    let u := { u with ldx := true }
    if cycle = 1 then { u with setBusATo := .s } else u
  | 0x80 => if cycle = 1 then { u with jump := .inc } else u
  | _ => u

/-- Zero page indexed indirect, `(d,x)`: the columns `$x1` and `$x3` of the even rows. -/
def indexedIndirect (ir : Byte) (cycle : Cycle) (u : Micro) : Micro :=
  let u := { u with lCycle := 5 }
  let u :=
    if ir.extractLsb 7 6 = 0b10 then u
    else { u with lda := true, lCycle := if ir.getLsbD 1 then 7 else 5 }
  match cycle with
  | 1 => { u with jump := .inc, ldad := true, setAddrTo := .zpg }
  | 2 => { u with adAdd := true, setAddrTo := .zpg }
  | 3 => { u with baAdd := .inc, ldbal := true, setAddrTo := .zpg }
  | 4 =>
    let u := { u with ldbah := true, setAddrTo := .ba }
    if ir.extractLsb 7 5 = 0b100 then { u with write := true } else u
  | 5 => if modifies ir then { u with setAddrTo := .ba, write := true, lddi := true } else u
  | 6 => { u with write := true, ldalu := true, saveP := true, setAddrTo := .ba }
  | 7 => { u with aluMore := true, setBusATo := .abc }
  | _ => u

/-- Immediate: the column `$x9` of the even rows. -/
def immediate (ir : Byte) (cycle : Cycle) (u : Micro) : Micro :=
  let u := if ir.extractLsb 7 5 = 0b100 then u else { u with lda := true }
  if cycle = 1 then { u with jump := .inc } else u

/-- Undocumented immediate: the column `$xB` of the even rows. -/
def immediateUndoc (ir : Byte) (bcdEn : Bool) (cycle : Cycle) (u : Micro) : Micro :=
  let u :=
    match ir.extractLsb 7 5 with
    | 0b010 | 0b011 | 0b000 | 0b001 => { u with setBusATo := .da, lda := true }
    | 0b100 => { u with setBusATo := .dax, lda := true }
    | 0b110 => { u with setBusATo := .aax, ldx := true }
    | 0b101 => { u with setBusATo := if bcdEn then .dao else .di, lda := true }
    | _ => { u with lda := true }
  if cycle = 1 then { u with jump := .inc } else u

/-- LDX immediate, two-byte no-operations and the opcodes that jam a 6502: the column `$x2`. -/
def immediateX (ir : Byte) (cycle : Cycle) (u : Micro) : Micro :=
  if cycle = 1 then
    if ir = 0xA2 then { u with jump := .inc, ldx := true }
    else if ir.extractLsb 7 4 = 0b1000 ∨ ir.extractLsb 7 4 = 0b1100 ∨
        ir.extractLsb 7 4 = 0b1110 then
      { u with jump := .inc }
    else u
  else u

/-- Zero page: the column `$x4` of the even rows. -/
def zeroPageY (ir : Byte) (cycle : Cycle) (u : Micro) : Micro :=
  let u := { u with lCycle := 2 }
  match cycle with
  | 0 => if ir.extractLsb 7 5 = 0b001 then { u with saveP := true } else u
  | 1 =>
    let u := { u with jump := .inc, ldad := true, setAddrTo := .zpg }
    if ir.extractLsb 7 5 = 0b100 then { u with write := true } else u
  | _ => u

/-- Zero page: the columns `$x5`, `$x6` and `$x7` of the even rows. -/
def zeroPage (ir : Byte) (cycle : Cycle) (u : Micro) : Micro :=
  if modifies ir then
    let u := { u with lCycle := 4 }
    let u := if ir.getLsbD 0 then { u with lda := true } else u
    match cycle with
    | 1 => { u with jump := .inc, ldad := true, setAddrTo := .zpg }
    | 2 => { u with lddi := true, write := true, setAddrTo := .zpg }
    | 3 => { u with ldalu := true, saveP := true, write := true, setAddrTo := .zpg }
    | 4 =>
      if ir.getLsbD 0 then { u with setBusATo := .abc, aluMore := true, lddi := true } else u
    | _ => u
  else
    let u := { u with lCycle := 2 }
    let u := if ir.extractLsb 7 6 = 0b10 then u else { u with lda := true }
    match cycle with
    | 1 =>
      let u := { u with jump := .inc, ldad := true, setAddrTo := .zpg }
      if ir.extractLsb 7 5 = 0b100 then { u with write := true } else u
    | _ => u

/-- Absolute: the column `$xC` of the even rows, with both jumps. -/
def absoluteJump (ir : Byte) (cycle : Cycle) (u : Micro) : Micro :=
  if ir.extractLsb 7 6 = 0b01 then
    if ir.getLsbD 5 then
      let u := { u with lCycle := 4 }
      match cycle with
      | 1 => { u with jump := .inc, lddi := true, ldbal := true }
      | 2 => { u with ldbah := true, setAddrTo := .ba }
      | 3 => { u with lddi := true, setAddrTo := .ba, baAdd := .inc }
      | 4 => { u with jump := .diDl }
      | _ => u
    else
      let u := { u with lCycle := 2 }
      match cycle with
      | 1 => { u with jump := .inc, lddi := true }
      | 2 => { u with jump := .diDl }
      | _ => u
  else
    let u := { u with lCycle := 3 }
    match cycle with
    | 0 => if ir.extractLsb 7 5 = 0b001 then { u with saveP := true } else u
    | 1 => { u with jump := .inc, ldbal := true }
    | 2 =>
      let u := { u with jump := .inc, ldbah := true, setAddrTo := .ba }
      if ir.extractLsb 7 5 = 0b100 then { u with write := true } else u
    | _ => u

/-- Absolute: the columns `$xD`, `$xE` and `$xF` of the even rows. -/
def absolute (ir : Byte) (cycle : Cycle) (u : Micro) : Micro :=
  if modifies ir then
    let u := { u with lCycle := 5 }
    let u := if ir.getLsbD 0 then { u with lda := true } else u
    match cycle with
    | 1 => { u with jump := .inc, ldbal := true }
    | 2 => { u with jump := .inc, ldbah := true, setAddrTo := .ba }
    | 3 => { u with lddi := true, write := true, setAddrTo := .ba }
    | 4 => { u with write := true, ldalu := true, saveP := true, setAddrTo := .ba }
    | 5 => if ir.getLsbD 0 then { u with aluMore := true, setBusATo := .abc } else u
    | _ => u
  else
    let u := { u with lCycle := 3 }
    let u := if ir.extractLsb 7 6 = 0b10 then u else { u with lda := true }
    match cycle with
    | 1 => { u with jump := .inc, ldbal := true }
    | 2 =>
      let u := { u with jump := .inc, ldbah := true, setAddrTo := .ba }
      if ir.extractLsb 7 5 = 0b100 then { u with write := true } else u
    | _ => u

/-- Relative: the column `$x0` of the odd rows. A branch that is taken ends in its third
cycle, or in the second when `Break` finds no page crossed. -/
def relative (taken : Bool) (cycle : Cycle) (u : Micro) : Micro :=
  let u := { u with lCycle := if taken then 3 else 1 }
  match cycle with
  | 1 => { u with jump := .inc, lddi := true }
  | 2 => { u with jump := .rel, pcAdd := true }
  | _ => u

/-- Zero page indirect indexed, `(d),y`: the columns `$x1` and `$x3` of the odd rows. -/
def indirectIndexed (ir : Byte) (cycle : Cycle) (u : Micro) : Micro :=
  let u := { u with lCycle := 5 }
  let u :=
    if ir.extractLsb 7 6 = 0b10 then u
    else { u with lda := true, lCycle := if ir.getLsbD 1 then 7 else 5 }
  match cycle with
  | 1 => { u with jump := .inc, ldad := true, setAddrTo := .zpg }
  | 2 => { u with ldbal := true, baAdd := .inc, setAddrTo := .zpg }
  | 3 => { u with setBusATo := .y, baAdd := .add, ldbah := true, setAddrTo := .ba }
  | 4 =>
    let u := { u with baAdd := .adj, setAddrTo := .ba }
    if ir.extractLsb 7 5 = 0b100 then
      let u := { u with write := true }
      if ir.extractLsb 3 0 = 0x3 then { u with baQuirk := .copy } else u
    else if !ir.getLsbD 1 || ir = 0xB3 then { u with breakAtNA := true }
    else u
  | 5 => if modifies ir then { u with setAddrTo := .ba, lddi := true, write := true } else u
  | 6 => { u with ldalu := true, saveP := true, write := true, setAddrTo := .ba }
  | 7 => { u with aluMore := true, setBusATo := .abc }
  | _ => u

/-- Zero page indexed, `d,x` and `d,y`: the columns `$x4` to `$x7` of the odd rows. -/
def zeroPageIndexed (ir : Byte) (cycle : Cycle) (u : Micro) : Micro :=
  if modifies ir then
    let u := if ir.getLsbD 0 then { u with lda := true } else u
    let u := { u with lCycle := 5 }
    match cycle with
    | 1 => { u with jump := .inc, ldad := true, setAddrTo := .zpg }
    | 2 => { u with adAdd := true, setAddrTo := .zpg }
    | 3 => { u with lddi := true, write := true, setAddrTo := .zpg }
    | 4 =>
      let u := { u with ldalu := true, saveP := true, write := true, setAddrTo := .zpg }
      if ir.getLsbD 0 then { u with lddi := true } else u
    | 5 => if ir.getLsbD 0 then { u with aluMore := true, setBusATo := .abc } else u
    | _ => u
  else
    let u := { u with lCycle := 3 }
    let u :=
      if ir.extractLsb 7 6 != 0b10 && ir.getLsbD 0 then { u with lda := true } else u
    match cycle with
    | 1 => { u with jump := .inc, ldad := true, setAddrTo := .zpg }
    | 2 =>
      let u := { u with adAdd := true, setAddrTo := .zpg }
      let u := if ir.extractLsb 3 1 = 0b011 then { u with addY := true } else u
      if ir.extractLsb 7 5 = 0b100 then { u with write := true } else u
    | _ => u

/-- Absolute `y`: the columns `$x9` and `$xB` of the odd rows. -/
def absoluteY (ir : Byte) (cycle : Cycle) (u : Micro) : Micro :=
  let u := { u with lCycle := 4 }
  let u :=
    if ir.extractLsb 7 6 = 0b10 then u
    else { u with lda := true, lCycle := if ir.getLsbD 1 then 6 else 4 }
  match cycle with
  | 1 => { u with jump := .inc, ldbal := true }
  | 2 =>
    { u with jump := .inc, setBusATo := .y, baAdd := .add, ldbah := true, setAddrTo := .ba }
  | 3 =>
    let u := { u with baAdd := .adj, setAddrTo := .ba }
    if ir.extractLsb 7 5 = 0b100 then
      let u := { u with write := true }
      if ir.extractLsb 3 0 = 0xB then { u with baQuirk := .and } else u
    else if !ir.getLsbD 1 || ir = 0xBB then { u with breakAtNA := true }
    else u
  | 4 => if modifies ir then { u with setAddrTo := .ba, lddi := true, write := true } else u
  | 5 => { u with write := true, ldalu := true, setAddrTo := .ba, saveP := true }
  | 6 => { u with aluMore := true, setBusATo := .abc }
  | _ => u

/-- Absolute `x`: the columns `$xC` to `$xF` of the odd rows; `$BE` and `$BF`, and `$9E` and
`$9F`, are indexed by `y`. -/
def absoluteX (ir : Byte) (cycle : Cycle) (u : Micro) : Micro :=
  if modifies ir then
    let u := { u with lCycle := 6 }
    let u := if ir.getLsbD 0 then { u with lda := true } else u
    match cycle with
    | 1 => { u with jump := .inc, ldbal := true }
    | 2 =>
      { u with jump := .inc, setBusATo := .x, baAdd := .add, ldbah := true, setAddrTo := .ba }
    | 3 => { u with baAdd := .adj, setAddrTo := .ba }
    | 4 => { u with lddi := true, write := true, setAddrTo := .ba }
    | 5 => { u with ldalu := true, saveP := true, write := true, setAddrTo := .ba }
    | 6 => if ir.getLsbD 0 then { u with aluMore := true, setBusATo := .abc } else u
    | _ => u
  else
    let u := { u with lCycle := 4 }
    let u :=
      if ir.extractLsb 7 6 != 0b10 && (!ir.getLsbD 4 || ir.extractLsb 1 0 != 0b00) then
        { u with lda := true }
      else u
    match cycle with
    | 1 => { u with jump := .inc, ldbal := true }
    | 2 =>
      let index : BusATo :=
        if ir.extractLsb 7 6 = 0b10 ∧ ir.extractLsb 4 1 = 0b1111 then .y else .x
      { u with jump := .inc, setBusATo := index, baAdd := .add, ldbah := true, setAddrTo := .ba }
    | 3 =>
      let u := { u with baAdd := .adj, setAddrTo := .ba }
      if ir.extractLsb 7 5 = 0b100 then
        let u := { u with write := true }
        match ir.extractLsb 1 0 with
        | 0b00 | 0b10 => { u with baQuirk := .and }
        | 0b11 => { u with baQuirk := .copy }
        | _ => u
      else { u with breakAtNA := true }
    | _ => u

/-- The addressing mode of an opcode, by its column. -/
def addressing (ir : Byte) (bcdEn taken : Bool) (cycle : Cycle) (u : Micro) : Micro :=
  match ir.extractLsb 4 0 with
  | 0b00000 | 0b01000 | 0b01010 | 0b11000 | 0b11010 => implied ir cycle u
  | 0b00001 | 0b00011 => indexedIndirect ir cycle u
  | 0b01001 => immediate ir cycle u
  | 0b01011 => immediateUndoc ir bcdEn cycle u
  | 0b00010 | 0b10010 => immediateX ir cycle u
  | 0b00100 => zeroPageY ir cycle u
  | 0b00101 | 0b00110 | 0b00111 => zeroPage ir cycle u
  | 0b01100 => absoluteJump ir cycle u
  | 0b01101 | 0b01110 | 0b01111 => absolute ir cycle u
  | 0b10000 => relative taken cycle u
  | 0b10001 | 0b10011 => indirectIndexed ir cycle u
  | 0b10100 | 0b10101 | 0b10110 | 0b10111 => zeroPageIndexed ir cycle u
  | 0b11001 | 0b11011 => absoluteY ir cycle u
  | _ => absoluteX ir cycle u

/-- `ALU_Op` of the column `$x1`, and of the second operation of an undocumented opcode. -/
def aluOpOr (ir : Byte) : AluOp :=
  match ir.extractLsb 7 5 with
  | 0 => .or
  | 1 => .and
  | 2 => .eor
  | 3 => .adc
  | 4 => .eq1
  | 5 => .eq2
  | 6 => .cmp
  | _ => .sbc

/-- `ALU_Op`, by opcode. -/
def aluOp (ir : Byte) (aluMore : Bool) : AluOp :=
  match ir.extractLsb 1 0 with
  | 0b00 =>
    match ir.extractLsb 4 2 with
    | 0b000 | 0b001 | 0b011 =>
      match ir.extractLsb 7 5 with
      | 0b110 | 0b111 => .cmp
      | 0b101 => .eq2
      | 0b001 => .bit
      | _ => .eq1
    | 0b010 =>
      match ir.extractLsb 7 5 with
      | 0b111 | 0b110 => .inc
      | 0b100 => .dec
      | _ => .eq2
    | 0b110 => if ir.extractLsb 7 5 = 0b100 then .eq2 else .eq1
    | _ => if ir.extractLsb 7 5 = 0b101 then .eq2 else .eq1
  | 0b01 => aluOpOr ir
  | 0b10 =>
    match ir.extractLsb 7 5 with
    | 0 => .asl
    | 1 => .rol
    | 2 => .lsr
    | 3 => .ror
    | 4 => if ir.extractLsb 4 2 = 0b010 then .eq2 else .eq1
    | 5 => .eq2
    | 6 => .dec
    | _ => .inc
  | _ =>
    if ir.extractLsb 7 5 = 0b101 then if ir = 0xBB then .and else .eq2
    else if ir = 0x6B then .arr
    else if ir = 0x8B then .xaa
    else if ir = 0x0B ∨ ir = 0x2B then .anc
    else if ir = 0xEB then .sbc
    else if aluMore then aluOpOr ir
    else
      match ir.extractLsb 7 5 with
      | 0 => .asl
      | 1 => .rol
      | 2 => .lsr
      | 3 => .ror
      | 4 => .bit
      | 5 => .eq2
      | 6 => if ir.extractLsb 4 2 = 0b010 then .sax else .dec
      | _ => .inc

end MCode

/-- `T65_MCode`. `taken` is its signal `Branch`. -/
def mcode (ir : Byte) (bcdEn taken : Bool) (cycle : Cycle) : Micro :=
  let u := MCode.addressing ir bcdEn taken cycle (MCode.columns ir (MCode.rows ir {}))
  { u with aluOp := MCode.aluOp ir u.aluMore }

end T65

end FpgaNes
