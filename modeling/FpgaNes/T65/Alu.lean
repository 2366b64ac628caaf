import FpgaNes.T65.Pack

/-!
# The processor: arithmetic

`T65_ALU.vhd`. The sums are taken a nibble at a time, with the carry into a nibble as an
extra low bit.
-/

namespace FpgaNes

namespace T65

namespace Alu

/-- The signals `ADC_*` and `SBC_*`. -/
structure AddSub where
  /-- The result is zero. -/
  z : Bool
  /-- Carry out. -/
  c : Bool
  /-- Signed overflow. -/
  v : Bool
  /-- The result is negative. -/
  n : Bool
  /-- The result. -/
  q : Byte
  deriving DecidableEq

/-- A nibble sum of `ADC`, with the carry into it. -/
def nibbleAdd (a b : BitVec 4) (carry : Bool) : BitVec 7 :=
  (a ++ BitVec.ofBool carry).setWidth 7 + (b ++ 1#1).setWidth 7

/-- The decimal correction of a nibble sum, in its bits above the lowest. -/
def addSix (sum : BitVec 7) : BitVec 7 := (sum.extractLsb 6 1 + 6) ++ sum.extractLsb 0 0

/-- The process that drives `ADC_*`. -/
def adc (bcdEn : Bool) (busA busB : Byte) (p : Status) : AddSub :=
  let al := nibbleAdd (busA.extractLsb 3 0) (busB.extractLsb 3 0) p.c
  let ah := nibbleAdd (busA.extractLsb 7 4) (busB.extractLsb 7 4) (al.getLsbD 5)
  let z := al.extractLsb 4 1 == 0 && ah.extractLsb 4 1 == 0
  let decimal := p.d && bcdEn
  let al := if al.extractLsb 5 1 > 9 ∧ decimal = true then addSix al else al
  let carry := al.getLsbD 6 || al.getLsbD 5
  let ah := nibbleAdd (busA.extractLsb 7 4) (busB.extractLsb 7 4) carry
  let n := ah.getLsbD 4
  let v := (ah.getLsbD 4 ^^ busA.getLsbD 7) && !(busA.getLsbD 7 ^^ busB.getLsbD 7)
  let ah := if ah.extractLsb 5 1 > 9 ∧ decimal = true then addSix ah else ah
  { z, v, n
    c := ah.getLsbD 6 || ah.getLsbD 5
    q := ah.extractLsb 4 1 ++ al.extractLsb 4 1 }

/-- The low nibble difference of `SBC`, with the carry into it. -/
def nibbleSub (a b : BitVec 4) (carry : Bool) : BitVec 7 :=
  (a ++ BitVec.ofBool carry).setWidth 7 - (b ++ 1#1).setWidth 7

/-- The high nibble difference of `SBC`, with the borrow from the low one. -/
def nibbleBorrow (a b : BitVec 4) (borrow : Bool) : BitVec 6 :=
  (a ++ 0#1).setWidth 6 - (b ++ BitVec.ofBool borrow).setWidth 6

/-- `CT`: the operations that take the carry flag into a difference. -/
def takesCarry (op : AluOp) : Bool :=
  op matches .and | .adc | .eq2 | .sbc | .rol | .ror | .inc

/-- The process that drives `SBC_*` and `SBX_Q`, which stands second. -/
def sbc (bcdEn : Bool) (op : AluOp) (busA busB : Byte) (p : Status) : AddSub × Byte :=
  let c := p.c || !takesCarry op
  let al := nibbleSub (busA.extractLsb 3 0) (busB.extractLsb 3 0) c
  let ah := nibbleBorrow (busA.extractLsb 7 4) (busB.extractLsb 7 4) (al.getLsbD 5)
  let out : AddSub :=
    { z := al.extractLsb 4 1 == 0 && ah.extractLsb 4 1 == 0
      c := !ah.getLsbD 5
      v := (ah.getLsbD 4 ^^ busA.getLsbD 7) && (busA.getLsbD 7 ^^ busB.getLsbD 7)
      n := ah.getLsbD 4
      q := ah.extractLsb 4 1 ++ al.extractLsb 4 1 }
  if p.d && bcdEn then
    let al :=
      if al.getLsbD 5 then
        al.extractLsb 6 6 ++ (al.extractLsb 5 1 - 6) ++ al.extractLsb 0 0
      else al
    let ah := nibbleBorrow (busA.extractLsb 7 4) (busB.extractLsb 7 4) (al.getLsbD 6)
    let ah := if ah.getLsbD 5 then (ah.extractLsb 5 1 - 6) ++ ah.extractLsb 0 0 else ah
    ({ out with q := ah.extractLsb 4 1 ++ al.extractLsb 4 1 }, out.q)
  else (out, out.q)

/-- `Q_t` after the first case statement. -/
def result (bcdEn : Bool) (op : AluOp) (busA busB : Byte) (p : Status) : Byte :=
  match op with
  | .or => busA ||| busB
  | .and => busA &&& busB
  | .eor => busA ^^^ busB
  | .adc => (adc bcdEn busA busB p).q
  | .sax => (sbc bcdEn op busA busB p).2
  | .sbc => (sbc bcdEn op busA busB p).1.q
  | .asl => busA.extractLsb 6 0 ++ 0#1
  | .rol => busA.extractLsb 6 0 ++ BitVec.ofBool p.c
  | .lsr => 0#1 ++ busA.extractLsb 7 1
  | .ror => BitVec.ofBool p.c ++ busA.extractLsb 7 1
  | .arr => BitVec.ofBool p.c ++ (busA.extractLsb 7 1 &&& busB.extractLsb 7 1)
  | .dec => busA - 1
  | .inc => busA + 1
  | _ => busA

/-- `Q2_t` of `ARR`: the nibbles of `Q_t` after the decimal correction. -/
def corrected (busA busB q : Byte) : Byte :=
  let fix (high low : ℕ) (nibble : BitVec 4) : BitVec 4 :=
    if busA.extractLsb high low &&& busB.extractLsb high low > 0b0100 then nibble + 6 else nibble
  fix 7 4 (q.extractLsb 7 4) ++ fix 3 0 (q.extractLsb 3 0)

/-- The flags the first case statement drives. -/
def carries (bcdEn : Bool) (op : AluOp) (busA busB : Byte) (p : Status) : Status :=
  match op with
  | .adc => { p with v := (adc bcdEn busA busB p).v, c := (adc bcdEn busA busB p).c }
  | .cmp | .sax => { p with c := (sbc bcdEn op busA busB p).1.c }
  | .sbc =>
    { p with v := (sbc bcdEn op busA busB p).1.v, c := (sbc bcdEn op busA busB p).1.c }
  | .asl | .rol => { p with c := busA.getLsbD 7 }
  | .lsr | .ror => { p with c := busA.getLsbD 0 }
  | .arr =>
    let q := result bcdEn op busA busB p
    { p with
      v := q.getLsbD 5 ^^ q.getLsbD 6
      c :=
        if p.d && bcdEn then busA.extractLsb 7 4 &&& busB.extractLsb 7 4 > 0b0100
        else q.getLsbD 6 }
  | .bit => { p with v := busB.getLsbD 6 }
  | _ => p

end Alu

/-- `T65_ALU`: its outputs `P_Out` and `Q`. -/
def alu (bcdEn : Bool) (op : AluOp) (busA busB : Byte) (p : Status) : Status × Byte :=
  let q := Alu.result bcdEn op busA busB p
  let out := Alu.carries bcdEn op busA busB p
  let pOut :=
    match op with
    | .adc =>
      { out with n := (Alu.adc bcdEn busA busB p).n, z := (Alu.adc bcdEn busA busB p).z }
    | .cmp | .sbc | .sax =>
      { out with
        n := (Alu.sbc bcdEn op busA busB p).1.n
        z := (Alu.sbc bcdEn op busA busB p).1.z }
    | .eq1 => out
    | .bit => { out with n := busB.getLsbD 7, z := busA &&& busB == 0 }
    | .anc => { out with n := q.getLsbD 7, c := q.getLsbD 7, z := q == 0 }
    | _ => { out with n := q.getLsbD 7, z := q == 0 }
  (pOut, if op = .arr ∧ (p.d && bcdEn) = true then Alu.corrected busA busB q else q)

end T65

end FpgaNes
