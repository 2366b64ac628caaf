import FpgaNes.Mos6502.Instruction

/-!
# The 6502: what an instruction does

The effect of an instruction on the registers and on a memory, the number of cycles it
takes, and interrupts. A memory is any state with a load that changes nothing and a store.
Arithmetic is binary whatever the decimal flag says.
-/

namespace FpgaNes.Mos6502

/-- A memory as a program uses it. -/
structure Memory (σ : Type*) where
  /-- The byte at an address. -/
  load : σ → Word → Byte
  /-- The memory after a byte is stored. -/
  store : σ → Word → Byte → σ

/-- An address in the zero page. -/
def zeroPage (low : Byte) : Word := 0#8 ++ low

/-- An address in the stack page. -/
def stackPage (s : Byte) : Word := 1#8 ++ s

/-! ## Operations -/

/-- A sum with the carry: the unsigned sum gives the carry, the signed sum the overflow. -/
def addCarry (r : Regs) (operand : Byte) : Regs :=
  let carry := r.flags.c.toNat
  let result := r.a + operand + BitVec.ofNat 8 carry
  let signed := r.a.toInt + operand.toInt + carry
  { r with
    a := result
    flags :=
      { r.flags.nz result with
        c := 2 ^ 8 ≤ r.a.toNat + operand.toNat + carry
        v := signed < -2 ^ 7 ∨ 2 ^ 7 ≤ signed } }

/-- A difference with the borrow, which is a clear carry. -/
def subBorrow (r : Regs) (operand : Byte) : Regs :=
  let borrow := (!r.flags.c).toNat
  let result := r.a - operand - BitVec.ofNat 8 borrow
  let signed := r.a.toInt - operand.toInt - borrow
  { r with
    a := result
    flags :=
      { r.flags.nz result with
        c := operand.toNat + borrow ≤ r.a.toNat
        v := signed < -2 ^ 7 ∨ 2 ^ 7 ≤ signed } }

/-- A comparison: the flags of a difference without a borrow. -/
def compare (f : Flags) (register operand : Byte) : Flags :=
  { f.nz (register - operand) with c := operand.toNat ≤ register.toNat }

/-- The effect of an operation that reads its operand. -/
def ReadOp.apply (op : ReadOp) (operand : Byte) (r : Regs) : Regs :=
  match op with
  | ora => { r with a := r.a ||| operand, flags := r.flags.nz (r.a ||| operand) }
  | and => { r with a := r.a &&& operand, flags := r.flags.nz (r.a &&& operand) }
  | eor => { r with a := r.a ^^^ operand, flags := r.flags.nz (r.a ^^^ operand) }
  | adc => addCarry r operand
  | sbc => subBorrow r operand
  | lda => { r with a := operand, flags := r.flags.nz operand }
  | ldx => { r with x := operand, flags := r.flags.nz operand }
  | ldy => { r with y := operand, flags := r.flags.nz operand }
  | cmp => { r with flags := compare r.flags r.a operand }
  | cpx => { r with flags := compare r.flags r.x operand }
  | cpy => { r with flags := compare r.flags r.y operand }
  | bit =>
    { r with
      flags :=
        { r.flags with
          n := operand.getLsbD 7
          v := operand.getLsbD 6
          z := r.a &&& operand == 0 } }

/-- The register an operation writes to memory. -/
def StoreOp.value (op : StoreOp) (r : Regs) : Byte :=
  match op with
  | sta => r.a
  | stx => r.x
  | sty => r.y

/-- The value a read-modify-write operation makes of its operand. -/
def ModifyOp.value (op : ModifyOp) (carry : Bool) (operand : Byte) : Byte :=
  match op with
  | asl => operand <<< 1
  | rol => operand <<< 1 ||| BitVec.ofNat 8 carry.toNat
  | lsr => operand >>> 1
  | ror => operand >>> 1 ||| BitVec.ofNat 8 (carry.toNat * 2 ^ 7)
  | dec => operand - 1
  | inc => operand + 1

/-- The flags of a read-modify-write operation. -/
def ModifyOp.flags (op : ModifyOp) (f : Flags) (operand : Byte) : Flags :=
  let g := f.nz (op.value f.c operand)
  match op with
  | asl | rol => { g with c := operand.getLsbD 7 }
  | lsr | ror => { g with c := operand.getLsbD 0 }
  | dec | inc => g

/-- A shift or rotation of the accumulator. -/
def ModifyOp.accumulator (op : ModifyOp) (r : Regs) : Regs :=
  { r with a := op.value r.flags.c r.a, flags := op.flags r.flags r.a }

/-- The effect of an operation on registers alone. -/
def ImpliedOp.apply (op : ImpliedOp) (r : Regs) : Regs :=
  match op with
  | tax => { r with x := r.a, flags := r.flags.nz r.a }
  | tay => { r with y := r.a, flags := r.flags.nz r.a }
  | txa => { r with a := r.x, flags := r.flags.nz r.x }
  | tya => { r with a := r.y, flags := r.flags.nz r.y }
  | tsx => { r with x := r.s, flags := r.flags.nz r.s }
  | txs => { r with s := r.x }
  | inx => { r with x := r.x + 1, flags := r.flags.nz (r.x + 1) }
  | iny => { r with y := r.y + 1, flags := r.flags.nz (r.y + 1) }
  | dex => { r with x := r.x - 1, flags := r.flags.nz (r.x - 1) }
  | dey => { r with y := r.y - 1, flags := r.flags.nz (r.y - 1) }
  | asl => ModifyOp.asl.accumulator r
  | rol => ModifyOp.rol.accumulator r
  | lsr => ModifyOp.lsr.accumulator r
  | ror => ModifyOp.ror.accumulator r
  | clc => { r with flags := { r.flags with c := false } }
  | sec => { r with flags := { r.flags with c := true } }
  | cli => { r with flags := { r.flags with i := false } }
  | sei => { r with flags := { r.flags with i := true } }
  | clv => { r with flags := { r.flags with v := false } }
  | cld => { r with flags := { r.flags with d := false } }
  | sed => { r with flags := { r.flags with d := true } }
  | nop => r

/-- The flag a branch tests. -/
def Condition.test (flag : Condition) (f : Flags) : Bool :=
  match flag with
  | n => f.n
  | v => f.v
  | c => f.c
  | z => f.z

/-! ## Operands -/

section

variable {σ : Type*} (mem : Memory σ) (m : σ)

/-- The word at an address and the next. -/
def loadWord (low high : Word) : Word := mem.load m high ++ mem.load m low

/-- The byte after the opcode. -/
def argument (r : Regs) : Byte := mem.load m (r.pc + 1)

/-- The word after the opcode. -/
def argumentWord (r : Regs) : Word := loadWord mem m (r.pc + 1) (r.pc + 2)

/-- The word at two cells of the zero page. -/
def pointer (low : Byte) : Word := loadWord mem m (zeroPage low) (zeroPage (low + 1))

/-- The address of the operand. -/
def Mode.address (mode : Mode) (r : Regs) : Word :=
  match mode with
  | immediate => r.pc + 1
  | zeroPage => Mos6502.zeroPage (argument mem m r)
  | zeroPageX => Mos6502.zeroPage (argument mem m r + r.x)
  | zeroPageY => Mos6502.zeroPage (argument mem m r + r.y)
  | absolute => argumentWord mem m r
  | absoluteX => argumentWord mem m r + r.x.setWidth 16
  | absoluteY => argumentWord mem m r + r.y.setWidth 16
  | indexedIndirect => pointer mem m (argument mem m r + r.x)
  | indirectIndexed => pointer mem m (argument mem m r) + r.y.setWidth 16

/-- The address of the next instruction. -/
def Mode.next (mode : Mode) (pc : Word) : Word :=
  match mode with
  | absolute | absoluteX | absoluteY => pc + 3
  | _ => pc + 2

/-- Adding an index to an address moves it into another page. -/
def crossing (base : Word) (index : Byte) : Bool :=
  2 ^ 8 ≤ base.toNat % 2 ^ 8 + index.toNat

/-- The operand is in another page than its base address. -/
def Mode.crosses (mode : Mode) (r : Regs) : Bool :=
  match mode with
  | absoluteX => crossing (argumentWord mem m r) r.x
  | absoluteY => crossing (argumentWord mem m r) r.y
  | indirectIndexed => crossing (pointer mem m (argument mem m r)) r.y
  | _ => false

/-! ## Instructions -/

/-- A program and its memory. -/
structure Machine (σ : Type*) where
  /-- The registers. -/
  regs : Regs
  /-- The memory. -/
  mem : σ

/-- Push a byte. -/
def push (value : Byte) (c : Machine σ) : Machine σ where
  regs := { c.regs with s := c.regs.s - 1 }
  mem := mem.store c.mem (stackPage c.regs.s) value

/-- The stack cell some bytes above the free one. -/
def pulled (depth : Byte) (r : Regs) : Byte := mem.load m (stackPage (r.s + depth))

/-- The target of a branch: the offset is signed, from the next instruction. -/
def branchTarget (pc : Word) (offset : Byte) : Word := pc + 2 + offset.signExtend 16

/-- Enter an interrupt routine: the return address and the flags are pushed, interrupts are
masked and the vector is loaded. -/
def interrupt (brk : Bool) (vector back : Word) (c : Machine σ) : Machine σ :=
  let c' := push mem (c.regs.flags.toByte brk)
    (push mem (back.setWidth 8) (push mem (back.extractLsb 15 8) c))
  { c' with
    regs :=
      { c'.regs with
        pc := loadWord mem c'.mem vector (vector + 1)
        flags := { c.regs.flags with i := true } } }

/-- The vector of `NMI`. -/
def nmiVector : Word := 0xFFFA

/-- The vector of a reset. -/
def resetVector : Word := 0xFFFC

/-- The vector of `IRQ` and `BRK`. -/
def irqVector : Word := 0xFFFE

/-- The effect of an instruction. -/
def Instruction.exec (i : Instruction) (c : Machine σ) : Machine σ :=
  let r := c.regs
  match i with
  | read op mode =>
    let operand := mem.load c.mem (mode.address mem c.mem r)
    { c with regs := { op.apply operand r with pc := mode.next r.pc } }
  | store op mode =>
    { regs := { r with pc := mode.next r.pc }
      mem := mem.store c.mem (mode.address mem c.mem r) (op.value r) }
  | modify op mode =>
    -- the operand is written back before its new value
    let address := mode.address mem c.mem r
    let operand := mem.load c.mem address
    { regs := { r with flags := op.flags r.flags operand, pc := mode.next r.pc }
      mem := mem.store (mem.store c.mem address operand) address (op.value r.flags.c operand) }
  | implied op => { c with regs := { op.apply r with pc := r.pc + 1 } }
  | branch flag value =>
    let target := branchTarget r.pc (argument mem c.mem r)
    { c with regs := { r with pc := if flag.test r.flags = value then target else r.pc + 2 } }
  | jmp => { c with regs := { r with pc := argumentWord mem c.mem r } }
  | jmpIndirect =>
    -- the address of the high byte stays in the page of the low one
    let low := argumentWord mem c.mem r
    let high := low.extractLsb 15 8 ++ (low.setWidth 8 + 1)
    { c with regs := { r with pc := loadWord mem c.mem low high } }
  | jsr =>
    -- the high byte of the target is read after the pushes
    let back := r.pc + 2
    let c' := push mem (back.setWidth 8) (push mem (back.extractLsb 15 8) c)
    { c' with
      regs := { c'.regs with pc := mem.load c'.mem (r.pc + 2) ++ argument mem c.mem r } }
  | rts =>
    let back : Word := pulled mem c.mem 2 r ++ pulled mem c.mem 1 r
    { c with regs := { r with s := r.s + 2, pc := back + 1 } }
  | rti =>
    { c with
      regs :=
        { r with
          s := r.s + 3
          flags := .ofByte (pulled mem c.mem 1 r)
          pc := pulled mem c.mem 3 r ++ pulled mem c.mem 2 r } }
  | brk => interrupt mem true irqVector (r.pc + 2) c
  | pha => let c' := push mem r.a c; { c' with regs := { c'.regs with pc := r.pc + 1 } }
  | php =>
    let c' := push mem (r.flags.toByte true) c
    { c' with regs := { c'.regs with pc := r.pc + 1 } }
  | pla =>
    let value := pulled mem c.mem 1 r
    { c with
      regs := { r with a := value, s := r.s + 1, pc := r.pc + 1, flags := r.flags.nz value } }
  | plp =>
    { c with
      regs := { r with s := r.s + 1, pc := r.pc + 1, flags := .ofByte (pulled mem c.mem 1 r) } }

/-- The mask an instruction leaves to an interrupt request after it. A change by `CLI`, `SEI`
and `PLP` acts one instruction late. -/
def Instruction.mask (i : Instruction) (c : Machine σ) : Bool :=
  match i with
  | implied .cli | implied .sei | plp => c.regs.flags.i
  | _ => (i.exec mem c).regs.flags.i

/-- The cycles of an operand that is read. -/
def Mode.readCycles (mode : Mode) (crossed : Bool) : ℕ :=
  match mode with
  | immediate => 2
  | zeroPage => 3
  | zeroPageX | zeroPageY | absolute => 4
  | absoluteX | absoluteY => 4 + crossed.toNat
  | indexedIndirect => 6
  | indirectIndexed => 5 + crossed.toNat

/-- The cycles of an instruction. -/
def Instruction.cycles (i : Instruction) (c : Machine σ) : ℕ :=
  match i with
  | read _ mode => mode.readCycles (mode.crosses mem c.mem c.regs)
  | store _ mode => mode.readCycles true
  | modify _ mode => mode.readCycles true + 2
  | implied _ => 2
  | branch flag value =>
    if flag.test c.regs.flags = value then
      let next := c.regs.pc + 2
      let target := branchTarget c.regs.pc (argument mem c.mem c.regs)
      3 + (next.extractLsb 15 8 != target.extractLsb 15 8).toNat
    else 2
  | jmp | pha | php => 3
  | pla | plp => 4
  | jmpIndirect => 5
  | jsr | rts | rti => 6
  | brk => 7

end

end FpgaNes.Mos6502
