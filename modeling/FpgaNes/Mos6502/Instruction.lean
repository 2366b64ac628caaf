import Mathlib.Algebra.Ring.Int.Defs
import Mathlib.Algebra.Ring.Nat

/-!
# The 6502: registers and instructions

The registers a program sees, the 151 documented opcodes as a syntax of instructions, and
the opcode table.
-/

namespace FpgaNes.Mos6502

/-- A byte of memory. -/
abbrev Byte := BitVec 8

/-- An address. -/
abbrev Word := BitVec 16

/-- The six flags. -/
structure Flags where
  /-- Negative. -/
  n : Bool
  /-- Overflow. -/
  v : Bool
  /-- Decimal mode. -/
  d : Bool
  /-- Interrupt disable. -/
  i : Bool
  /-- Zero. -/
  z : Bool
  /-- Carry. -/
  c : Bool
  deriving DecidableEq

namespace Flags

/-- The byte that is pushed for the flags. Its bit 4 tells a break from an interrupt. -/
def toByte (brk : Bool) (f : Flags) : Byte :=
  BitVec.ofBool f.n ++ BitVec.ofBool f.v ++ 1#1 ++ BitVec.ofBool brk ++ BitVec.ofBool f.d ++
    BitVec.ofBool f.i ++ BitVec.ofBool f.z ++ BitVec.ofBool f.c

/-- The flags pulled from a byte; bits 4 and 5 are dropped. -/
def ofByte (byte : Byte) : Flags where
  n := byte.getLsbD 7
  v := byte.getLsbD 6
  d := byte.getLsbD 3
  i := byte.getLsbD 2
  z := byte.getLsbD 1
  c := byte.getLsbD 0

/-- The flags `N` and `Z` of a result. -/
def nz (f : Flags) (result : Byte) : Flags := { f with n := result.msb, z := result == 0 }

end Flags

/-- The registers a program sees. -/
structure Regs where
  /-- The accumulator. -/
  a : Byte
  /-- The X index. -/
  x : Byte
  /-- The Y index. -/
  y : Byte
  /-- The stack pointer, in page one. -/
  s : Byte
  /-- The program counter. -/
  pc : Word
  /-- The flags. -/
  flags : Flags
  deriving DecidableEq

/-- Addressing modes with an operand in memory. -/
inductive Mode
  | immediate | zeroPage | zeroPageX | zeroPageY
  | absolute | absoluteX | absoluteY | indexedIndirect | indirectIndexed
  deriving DecidableEq

/-- Operations that read their operand. -/
inductive ReadOp
  | ora | and | eor | adc | lda | cmp | sbc | ldx | ldy | cpx | cpy | bit
  deriving DecidableEq

/-- Operations that write a register to memory. -/
inductive StoreOp
  | sta | stx | sty
  deriving DecidableEq

/-- Operations that read, modify and write memory. -/
inductive ModifyOp
  | asl | rol | lsr | ror | dec | inc
  deriving DecidableEq

/-- Operations on registers alone. -/
inductive ImpliedOp
  | tax | tay | txa | tya | tsx | txs | inx | iny | dex | dey | asl | rol | lsr | ror
  | clc | sec | cli | sei | clv | cld | sed | nop
  deriving DecidableEq

/-- Flags a branch can test. -/
inductive Condition
  | n | v | c | z
  deriving DecidableEq

/-- Documented instructions. -/
inductive Instruction
  | read (op : ReadOp) (mode : Mode)
  | store (op : StoreOp) (mode : Mode)
  | modify (op : ModifyOp) (mode : Mode)
  | implied (op : ImpliedOp)
  | branch (flag : Condition) (value : Bool)
  | jmp | jmpIndirect | jsr | rts | rti | brk
  | pha | php | pla | plp
  deriving DecidableEq

open Instruction ReadOp StoreOp Mode in
/-- The opcode table. -/
def decode (opcode : Byte) : Option Instruction :=
  match opcode with
  | 0x00 => brk
  | 0x01 => read ora indexedIndirect
  | 0x05 => read ora zeroPage
  | 0x06 => modify .asl zeroPage
  | 0x08 => php
  | 0x09 => read ora immediate
  | 0x0A => implied .asl
  | 0x0D => read ora absolute
  | 0x0E => modify .asl absolute
  | 0x10 => branch .n false
  | 0x11 => read ora indirectIndexed
  | 0x15 => read ora zeroPageX
  | 0x16 => modify .asl zeroPageX
  | 0x18 => implied .clc
  | 0x19 => read ora absoluteY
  | 0x1D => read ora absoluteX
  | 0x1E => modify .asl absoluteX
  | 0x20 => jsr
  | 0x21 => read .and indexedIndirect
  | 0x24 => read bit zeroPage
  | 0x25 => read .and zeroPage
  | 0x26 => modify .rol zeroPage
  | 0x28 => plp
  | 0x29 => read .and immediate
  | 0x2A => implied .rol
  | 0x2C => read bit absolute
  | 0x2D => read .and absolute
  | 0x2E => modify .rol absolute
  | 0x30 => branch .n true
  | 0x31 => read .and indirectIndexed
  | 0x35 => read .and zeroPageX
  | 0x36 => modify .rol zeroPageX
  | 0x38 => implied .sec
  | 0x39 => read .and absoluteY
  | 0x3D => read .and absoluteX
  | 0x3E => modify .rol absoluteX
  | 0x40 => rti
  | 0x41 => read eor indexedIndirect
  | 0x45 => read eor zeroPage
  | 0x46 => modify .lsr zeroPage
  | 0x48 => pha
  | 0x49 => read eor immediate
  | 0x4A => implied .lsr
  | 0x4C => jmp
  | 0x4D => read eor absolute
  | 0x4E => modify .lsr absolute
  | 0x50 => branch .v false
  | 0x51 => read eor indirectIndexed
  | 0x55 => read eor zeroPageX
  | 0x56 => modify .lsr zeroPageX
  | 0x58 => implied .cli
  | 0x59 => read eor absoluteY
  | 0x5D => read eor absoluteX
  | 0x5E => modify .lsr absoluteX
  | 0x60 => rts
  | 0x61 => read adc indexedIndirect
  | 0x65 => read adc zeroPage
  | 0x66 => modify .ror zeroPage
  | 0x68 => pla
  | 0x69 => read adc immediate
  | 0x6A => implied .ror
  | 0x6C => jmpIndirect
  | 0x6D => read adc absolute
  | 0x6E => modify .ror absolute
  | 0x70 => branch .v true
  | 0x71 => read adc indirectIndexed
  | 0x75 => read adc zeroPageX
  | 0x76 => modify .ror zeroPageX
  | 0x78 => implied .sei
  | 0x79 => read adc absoluteY
  | 0x7D => read adc absoluteX
  | 0x7E => modify .ror absoluteX
  | 0x81 => store sta indexedIndirect
  | 0x84 => store sty zeroPage
  | 0x85 => store sta zeroPage
  | 0x86 => store stx zeroPage
  | 0x88 => implied .dey
  | 0x8A => implied .txa
  | 0x8C => store sty absolute
  | 0x8D => store sta absolute
  | 0x8E => store stx absolute
  | 0x90 => branch .c false
  | 0x91 => store sta indirectIndexed
  | 0x94 => store sty zeroPageX
  | 0x95 => store sta zeroPageX
  | 0x96 => store stx zeroPageY
  | 0x98 => implied .tya
  | 0x99 => store sta absoluteY
  | 0x9A => implied .txs
  | 0x9D => store sta absoluteX
  | 0xA0 => read ldy immediate
  | 0xA1 => read lda indexedIndirect
  | 0xA2 => read ldx immediate
  | 0xA4 => read ldy zeroPage
  | 0xA5 => read lda zeroPage
  | 0xA6 => read ldx zeroPage
  | 0xA8 => implied .tay
  | 0xA9 => read lda immediate
  | 0xAA => implied .tax
  | 0xAC => read ldy absolute
  | 0xAD => read lda absolute
  | 0xAE => read ldx absolute
  | 0xB0 => branch .c true
  | 0xB1 => read lda indirectIndexed
  | 0xB4 => read ldy zeroPageX
  | 0xB5 => read lda zeroPageX
  | 0xB6 => read ldx zeroPageY
  | 0xB8 => implied .clv
  | 0xB9 => read lda absoluteY
  | 0xBA => implied .tsx
  | 0xBC => read ldy absoluteX
  | 0xBD => read lda absoluteX
  | 0xBE => read ldx absoluteY
  | 0xC0 => read cpy immediate
  | 0xC1 => read cmp indexedIndirect
  | 0xC4 => read cpy zeroPage
  | 0xC5 => read cmp zeroPage
  | 0xC6 => modify .dec zeroPage
  | 0xC8 => implied .iny
  | 0xC9 => read cmp immediate
  | 0xCA => implied .dex
  | 0xCC => read cpy absolute
  | 0xCD => read cmp absolute
  | 0xCE => modify .dec absolute
  | 0xD0 => branch .z false
  | 0xD1 => read cmp indirectIndexed
  | 0xD5 => read cmp zeroPageX
  | 0xD6 => modify .dec zeroPageX
  | 0xD8 => implied .cld
  | 0xD9 => read cmp absoluteY
  | 0xDD => read cmp absoluteX
  | 0xDE => modify .dec absoluteX
  | 0xE0 => read cpx immediate
  | 0xE1 => read sbc indexedIndirect
  | 0xE4 => read cpx zeroPage
  | 0xE5 => read sbc zeroPage
  | 0xE6 => modify .inc zeroPage
  | 0xE8 => implied .inx
  | 0xE9 => read sbc immediate
  | 0xEA => implied .nop
  | 0xEC => read cpx absolute
  | 0xED => read sbc absolute
  | 0xEE => modify .inc absolute
  | 0xF0 => branch .z true
  | 0xF1 => read sbc indirectIndexed
  | 0xF5 => read sbc zeroPageX
  | 0xF6 => modify .inc zeroPageX
  | 0xF8 => implied .sed
  | 0xF9 => read sbc absoluteY
  | 0xFD => read sbc absoluteX
  | 0xFE => modify .inc absoluteX
  | _ => none

end FpgaNes.Mos6502
