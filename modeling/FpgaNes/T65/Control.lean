import FpgaNes.T65.Execution

/-!
# The processor: jumps, branches and the stack

The instructions that move the program counter or the stack pointer.
-/

namespace FpgaNes

open Hdl
open Mos6502 (Regs Instruction Condition Memory Mode decode loadWord)

namespace T65

variable {σ : Type*} {mem : Memory σ} {c : System σ} {i : Instruction} {r : Regs}
  {m : MicroStep} {rest : List MicroStep} {memory : σ}

/-! ## Jumps and the stack -/

/-- The stack pointer on the address bus. -/
theorem address_sp {s : T65} (latch : s.setAddrToR = .sp) :
    s.address = Mos6502.stackPage s.regs.s := by
  rw [T65.address, latch]
  rfl

/-- An absolute jump. -/
theorem exec_jmp {r₀ : Regs} {taken : Bool}
    (h : Fetching .jmp { r₀ with pc := r₀.pc + 1 } (program taken .jmp) memory c) :
    After (System.clock mem) 2 (Executed mem .jmp ⟨r₀, memory⟩) c := by
  intro lines
  have low := h.cycle mem rfl rfl lines
  generalize c.clock mem lines = c₁ at low ⊢
  have dl : c₁.cpu.dl = mem.load memory (r₀.pc + 1) := low.moved.dl
  have second := low.second ⟨rfl, rfl, rfl, rfl, rfl⟩
  intro lines
  have last := System.close_read mem second.stage rfl rfl rfl (.inl ⟨rfl, rfl⟩)
    ⟨rfl, rfl, rfl⟩ rfl second.reads (second.address rfl) lines
  rw [second.mem] at last
  show Between .jmp ⟨{ r₀ with pc := _ ++ mem.load memory (r₀.pc + 1) }, memory⟩ r₀.flags.i _
  rw [← dl]
  exact last

/-- An indirect jump. -/
theorem exec_jmpIndirect {r₀ : Regs} {taken : Bool}
    (h : Fetching .jmpIndirect { r₀ with pc := r₀.pc + 1 } (program taken .jmpIndirect)
      memory c) :
    After (System.clock mem) 4
      (Executed mem .jmpIndirect ⟨r₀, memory⟩) c := by
  intro lines
  have low := h.cycle mem rfl rfl lines
  generalize c.clock mem lines = c₁ at low ⊢
  have bal : c₁.cpu.bal.setWidth 8 = mem.load memory (r₀.pc + 1) := by
    rw [low.moved.bal nofun]
    exact balNext_load _ _ _ rfl
  have second := low.second ⟨rfl, rfl, rfl, rfl, rfl⟩
  intro lines
  have high := second.cycle mem rfl rfl lines
  have bus := address_ba high.latch
  have bah : (c₁.clock mem lines).cpu.bah = mem.load memory (r₀.pc + 2) := high.moved.bah
  rw [high.moved.bal nofun, balNext_keep _ _ _ (second.stage.opcode rfl) (.inl rfl) rfl, bal,
    bah] at bus
  have bal' : (c₁.clock mem lines).cpu.bal.setWidth 8 = mem.load memory (r₀.pc + 1) := by
    rw [high.moved.bal nofun, balNext_keep _ _ _ (second.stage.opcode rfl) (.inl rfl) rfl, bal]
  generalize c₁.clock mem lines = c₂ at high bus bah bal' ⊢
  intro lines
  have target := System.read_cycle mem high.stage rfl rfl high.moved.wrN bus lines
  rw [high.mem] at target
  generalize c₂.clock mem lines = c₃ at target ⊢
  have wrapped : c₃.cpu.address =
      mem.load memory (r₀.pc + 2) ++ (mem.load memory (r₀.pc + 1) + 1) := by
    have next : c₃.cpu.bal = c₂.cpu.bal + 1 := by
      rw [target.moved.bal nofun]
      simp only [balNext, if_neg (high.stage.opcode rfl), Bool.false_eq_true, if_false]
    have kept : c₃.cpu.bah = c₂.cpu.bah := by
      rw [target.moved.bah]
      exact bahNext_keep _ _ _ (high.stage.opcode rfl) (by decide) rfl
    rw [address_ba target.latch, kept, bah, next, BitVec.setWidth_add _ _ (by decide), bal']
    rfl
  have dl : c₃.cpu.dl = _ := target.moved.dl
  intro lines
  have last := System.close_read mem target.stage rfl rfl rfl (.inl ⟨rfl, rfl⟩)
    ⟨rfl, rfl, rfl⟩ rfl target.moved.wrN wrapped lines
  rw [target.mem] at last
  have fields : Instruction.jmpIndirect.exec mem ⟨r₀, memory⟩ =
      ⟨{ r₀ with
          pc :=
            mem.load memory (mem.load memory (r₀.pc + 2) ++ (mem.load memory (r₀.pc + 1) + 1)) ++
              c₃.cpu.dl }, memory⟩ := by
    rw [dl]
    simp only [Instruction.exec, Mos6502.argumentWord, loadWord, low_append, high_append]
    rfl
  show Between _ (Instruction.jmpIndirect.exec mem ⟨r₀, memory⟩) _ _
  rw [fields]
  exact last

/-- The flags as they are pushed, with bit 4 clear in an interrupt. -/
theorem pWithB_flags (s : T65) (b : s.p.b = true) (one : s.p.one = true) :
    s.pWithB = s.p.flags.toByte (!s.interrupted) := by
  show (if s.interrupted then s.p.toByte &&& 0xEF else s.p.toByte) = _
  generalize s.p = p at b one ⊢
  obtain ⟨c, z, i, d, b', one', v, n⟩ := p
  subst b one
  cases s.interrupted
  · rfl
  · revert c z i d v n
    decide

/-- Push of the accumulator. -/
theorem exec_pha {r₀ : Regs} {taken : Bool}
    (h : Fetching .pha { r₀ with pc := r₀.pc + 1 } (program taken .pha) memory c) :
    After (System.clock mem) 2 (Executed mem .pha ⟨r₀, memory⟩) c := by
  intro lines
  have first := h.cycle mem rfl rfl lines
  generalize c.clock mem lines = c₁ at first ⊢
  have out : c₁.cpu.dataOut = r₀.a := by
    rw [dataOut, first.moved.writeDataR _ rfl]
    exact congrArg Regs.a first.stage.regs
  intro lines
  have bus : c₁.cpu.address = Mos6502.stackPage r₀.s := by
    rw [address_sp first.latch, first.stage.regs]
    rfl
  have last := System.close_write mem first.stage rfl rfl rfl rfl ⟨rfl, rfl, rfl⟩ rfl
    first.moved.wrN bus out lines
  rw [first.mem] at last
  exact last

/-- Push of the flags. -/
theorem exec_php {r₀ : Regs} {taken : Bool}
    (h : Fetching .php { r₀ with pc := r₀.pc + 1 } (program taken .php) memory c) :
    After (System.clock mem) 2 (Executed mem .php ⟨r₀, memory⟩) c := by
  intro lines
  have first := h.cycle mem rfl rfl lines
  generalize c.clock mem lines = c₁ at first ⊢
  have out : c₁.cpu.dataOut = r₀.flags.toByte true := by
    obtain ⟨-, -, irq, nmi, b, one⟩ := first.stage.settled
    rw [dataOut, first.moved.writeDataR _ rfl]
    show c₁.cpu.pWithB = _
    rw [pWithB_flags _ b one, interrupted, irq, nmi]
    exact congrArg (Mos6502.Flags.toByte true) (congrArg Regs.flags first.stage.regs)
  intro lines
  have bus : c₁.cpu.address = Mos6502.stackPage r₀.s := by
    rw [address_sp first.latch, first.stage.regs]
    rfl
  have last := System.close_write mem first.stage rfl rfl rfl rfl ⟨rfl, rfl, rfl⟩ rfl
    first.moved.wrN bus out lines
  rw [first.mem] at last
  exact last

/-- Two cells up the stack. -/
theorem sp_two (s : Byte) : s + 1 + 1 = s + 2 := by
  rw [BitVec.add_assoc]
  rfl

/-- Three cells up the stack. -/
theorem sp_three (s : Byte) : s + 2 + 1 = s + 3 := by
  rw [BitVec.add_assoc]
  rfl

/-- The two cycles before a pull leave the stack pointer on the cell to pull. -/
theorem pull_start {r₀ : Regs}
    (h : Fetching i { r₀ with pc := r₀.pc + 1 }
      ({ setAddrTo := .sp } :: { incS := true, setAddrTo := .sp } :: m :: rest) memory c)
    (ordinary : plain i = true) :
    After (System.clock mem) 2
      (fun t => Stage i { r₀ with s := r₀.s + 1, pc := r₀.pc + 1 } (m :: rest) t.cpu ∧
        t.cpu.wrN = true ∧ t.cpu.address = Mos6502.stackPage (r₀.s + 1) ∧ t.mem = memory) c := by
  intro lines
  have first := h.cycle mem ordinary rfl lines
  generalize c.clock mem lines = c₁ at first ⊢
  intro lines
  have second := System.read_cycle mem first.stage ordinary rfl first.moved.wrN rfl lines
  rw [first.mem] at second
  refine ⟨second.stage, second.moved.wrN, ?_, second.mem⟩
  rw [address_sp second.latch, second.stage.regs]
  rfl

/-- Pull of the accumulator. -/
theorem exec_pla {r₀ : Regs} {taken : Bool}
    (h : Fetching .pla { r₀ with pc := r₀.pc + 1 } (program taken .pla) memory c) :
    After (System.clock mem) (2 + 1) (Executed mem .pla ⟨r₀, memory⟩) c := by
  refine (pull_start h rfl).trans fun t started lines => ?_
  obtain ⟨stage, reads, bus, memory'⟩ := started
  rw [System.clock_read reads bus, memory']
  have closed := stage.close (m := {}) rfl rfl (Cpu2A03.pins lines.irqN lines.nmiN)
    (mem.load memory (Mos6502.stackPage (r₀.s + 1))) (.inl ⟨rfl, rfl⟩) ⟨rfl, rfl, rfl, rfl, rfl⟩ rfl
  refine ⟨closed.1, ?_, rfl, closed.2.2⟩
  have flags : t.cpu.p.flags = r₀.flags := congrArg Regs.flags stage.regs
  rw [closed.2.1]
  exact pla_result _ _ { r₀ with s := r₀.s + 1, pc := r₀.pc + 1 } flags

/-- Pull of the flags. -/
theorem exec_plp {r₀ : Regs} {taken : Bool}
    (h : Fetching .plp { r₀ with pc := r₀.pc + 1 } (program taken .plp) memory c) :
    After (System.clock mem) (2 + 1) (Executed mem .plp ⟨r₀, memory⟩) c := by
  refine (pull_start h rfl).trans fun t started lines => ?_
  obtain ⟨stage, reads, bus, memory'⟩ := started
  rw [System.clock_read reads bus, memory']
  show Between .plp ⟨{ r₀ with s := _, pc := _, flags := .ofByte (mem.load memory _) }, memory⟩
    r₀.flags.i _
  generalize mem.load memory (Mos6502.stackPage (r₀.s + 1)) = di
  have simple := latch_simple (m := { ldp := true }) (writeback .plp) (writeback_simple .plp) rfl
  obtain ⟨boundary, regs, masked⟩ := stage.finish (Cpu2A03.pins lines.irqN lines.nmiN) di
    (stage.opcode_ne nofun) (.inl ⟨rfl, rfl⟩) rfl simple
  have moved := stage.moved (Cpu2A03.pins lines.irqN lines.nmiN) di simple
  generalize t.cpu.clock (Cpu2A03.pins lines.irqN lines.nmiN) di = t'
    at boundary regs masked moved ⊢
  have kept : t'.regs = { t.cpu.regs with pc := t'.regs.pc, flags := t'.regs.flags } := by
    rw [regs, stage.regs]
    rfl
  refine ⟨boundary, ?_, rfl, masked⟩
  rw [boundary.commit_latched (m := { ldp := true }) rfl moved kept, plp_result, regs]
  rfl

/-- Return from a subroutine. -/
theorem exec_rts {r₀ : Regs} {taken : Bool}
    (h : Fetching .rts { r₀ with pc := r₀.pc + 1 } (program taken .rts) memory c) :
    After (System.clock mem) (2 + 3) (Executed mem .rts ⟨r₀, memory⟩) c := by
  refine (pull_start h rfl).trans fun t started lines => ?_
  obtain ⟨stage, reads, bus, memory'⟩ := started
  have low := System.read_cycle mem stage rfl rfl reads bus lines
  rw [memory'] at low
  generalize t.clock mem lines = t₁ at low ⊢
  have dl : t₁.cpu.dl = mem.load memory (Mos6502.stackPage (r₀.s + 1)) := low.moved.dl
  have bus' : t₁.cpu.address = Mos6502.stackPage (r₀.s + 2) := by
    rw [address_sp low.latch, low.stage.regs, ← sp_two]
    rfl
  intro lines
  have high := System.read_cycle mem low.stage rfl rfl low.moved.wrN bus' lines
  rw [low.mem] at high
  generalize t₁.clock mem lines = t₂ at high ⊢
  intro lines
  have last := System.close_read mem high.stage rfl rfl rfl (.inl ⟨rfl, rfl⟩)
    ⟨rfl, rfl, rfl⟩ rfl high.moved.wrN rfl lines
  rw [high.mem] at last
  have fields : Instruction.rts.exec mem ⟨r₀, memory⟩ =
      ⟨{ r₀ with
          s := r₀.s + 1 + 1
          pc := mem.load memory (Mos6502.stackPage (r₀.s + 2)) ++ t₁.cpu.dl + 1 }, memory⟩ := by
    rw [dl, sp_two]
    rfl
  show Between _ (Instruction.rts.exec mem ⟨r₀, memory⟩) _ _
  rw [fields]
  exact last

/-- Return from an interrupt. -/
theorem exec_rti {r₀ : Regs} {taken : Bool}
    (h : Fetching .rti { r₀ with pc := r₀.pc + 1 } (program taken .rti) memory c) :
    After (System.clock mem) (2 + 3) (Executed mem .rti ⟨r₀, memory⟩) c := by
  refine (pull_start h rfl).trans fun t started lines => ?_
  obtain ⟨stage, reads, bus, memory'⟩ := started
  have flags := System.read_cycle mem stage rfl rfl reads bus lines
  rw [memory'] at flags
  generalize t.clock mem lines = t₁ at flags ⊢
  have bus' : t₁.cpu.address = Mos6502.stackPage (r₀.s + 2) := by
    rw [address_sp flags.latch, flags.stage.regs, ← sp_two]
    rfl
  intro lines
  -- this cycle loads the flags, so it is not mild
  rw [System.clock_read flags.moved.wrN bus', flags.mem]
  have stage' := flags.stage.next (Cpu2A03.pins lines.irqN lines.nmiN)
    (mem.load memory (Mos6502.stackPage (r₀.s + 2))) (flags.stage.opcode rfl) rfl (.inl nofun)
  have moved := flags.stage.moved (Cpu2A03.pins lines.irqN lines.nmiN)
    (mem.load memory (Mos6502.stackPage (r₀.s + 2))) nofun
  have pulled : (t₁.cpu.pNext t₁.cpu.micro).flags =
      .ofByte (mem.load memory (Mos6502.stackPage (r₀.s + 1))) := by
    have ldp : t₁.cpu.micro.ldp = true := by rw [flags.stage.moves]
    have out : t₁.cpu.aluOut.2 = mem.load memory (Mos6502.stackPage (r₀.s + 1)) := by
      rw [aluOut, flags.moved.aluOpR _ rfl, flags.moved.busAR _ rfl]
      rfl
    rw [pNext_plain _ flags.stage.settled flags.stage.sync
      (plain_opcode flags.stage.decoded rfl), ldp, out]
    rfl
  rw [pulled] at stage'
  generalize t₁.cpu.clock (Cpu2A03.pins lines.irqN lines.nmiN)
    (mem.load memory (Mos6502.stackPage (r₀.s + 2))) = s₂ at stage' moved ⊢
  have dl : s₂.dl = mem.load memory (Mos6502.stackPage (r₀.s + 2)) := moved.dl
  have bus'' : s₂.address = Mos6502.stackPage (r₀.s + 3) := by
    rw [address_sp moved.setAddrToR, stage'.regs, ← sp_three, ← sp_two]
    rfl
  intro lines
  have last := System.close_read mem (c := ⟨s₂, memory⟩) stage' rfl rfl rfl (.inl ⟨rfl, rfl⟩)
    ⟨rfl, rfl, rfl⟩ rfl moved.wrN bus'' lines
  have fields : Instruction.rti.exec mem ⟨r₀, memory⟩ =
      ⟨{ r₀ with
          s := r₀.s + 1 + 1 + 1
          pc := mem.load memory (Mos6502.stackPage (r₀.s + 3)) ++ s₂.dl
          flags := .ofByte (mem.load memory (Mos6502.stackPage (r₀.s + 1))) }, memory⟩ := by
    rw [dl, sp_two r₀.s, sp_three]
    rfl
  show Between _ (Instruction.rti.exec mem ⟨r₀, memory⟩) _ _
  rw [fields]
  exact last

/-- Jump to a subroutine. -/
theorem exec_jsr {r₀ : Regs} {taken : Bool}
    (h : Fetching .jsr { r₀ with pc := r₀.pc + 1 } (program taken .jsr) memory c) :
    After (System.clock mem) 5 (Executed mem .jsr ⟨r₀, memory⟩) c := by
  intro lines
  have low := h.cycle mem rfl rfl lines
  generalize c.clock mem lines = c₁ at low ⊢
  have dl : c₁.cpu.dl = mem.load memory (r₀.pc + 1) := low.moved.dl
  intro lines
  have idle := System.read_cycle mem low.stage rfl rfl low.moved.wrN rfl lines
  rw [low.mem] at idle
  have dl₂ : (c₁.clock mem lines).cpu.dl = c₁.cpu.dl := idle.moved.dl
  generalize c₁.clock mem lines = c₂ at idle dl₂ ⊢
  -- the return address is pushed, the high byte first
  have sp : c₂.cpu.address = Mos6502.stackPage r₀.s := by
    rw [address_sp idle.latch, idle.stage.regs]
    rfl
  have pch : c₂.cpu.dataOut = (r₀.pc + 2).extractLsb 15 8 := by
    rw [dataOut, idle.moved.writeDataR _ rfl, ← pc_two]
    exact congrArg (BitVec.extractLsb 15 8 ·) (congrArg Regs.pc idle.stage.regs)
  intro lines
  have high := System.write_cycle mem idle.stage rfl rfl idle.moved.wrN sp pch lines
  rw [idle.mem] at high
  have dl₃ : (c₂.clock mem lines).cpu.dl = c₂.cpu.dl := high.moved.dl
  generalize c₂.clock mem lines = c₃ at high dl₃ ⊢
  have sp' : c₃.cpu.address = Mos6502.stackPage (r₀.s - 1) := by
    rw [address_sp high.latch, high.stage.regs]
    rfl
  have pcl : c₃.cpu.dataOut = (r₀.pc + 2).setWidth 8 := by
    rw [dataOut, high.moved.writeDataR _ rfl, ← pc_two]
    exact congrArg (BitVec.setWidth 8) (congrArg Regs.pc high.stage.regs)
  intro lines
  have pushed := System.write_cycle mem high.stage rfl rfl high.moved.wrN sp' pcl lines
  rw [high.mem] at pushed
  have dl₄ : (c₃.clock mem lines).cpu.dl = c₃.cpu.dl := pushed.moved.dl
  generalize c₃.clock mem lines = c₄ at pushed dl₄ ⊢
  -- the high byte of the target is read last
  have target : Fetching .jsr _ _ _ c₄ :=
    ⟨pushed.stage, pushed.latch, pushed.moved.wrN, pushed.mem⟩
  intro lines
  have last := System.close_read mem target.stage rfl rfl rfl (.inl ⟨rfl, rfl⟩)
    ⟨rfl, rfl, rfl⟩ rfl target.reads (target.address rfl) lines
  rw [target.mem] at last
  have fields : Instruction.jsr.exec mem ⟨r₀, memory⟩ =
      ⟨{ r₀ with
          s := r₀.s - 1 - 1
          pc :=
            mem.load
              (mem.store (mem.store memory (Mos6502.stackPage r₀.s) ((r₀.pc + 2).extractLsb 15 8))
                (Mos6502.stackPage (r₀.s - 1)) ((r₀.pc + 2).setWidth 8))
              (r₀.pc + 1 + 1) ++ c₄.cpu.dl },
        mem.store (mem.store memory (Mos6502.stackPage r₀.s) ((r₀.pc + 2).extractLsb 15 8))
          (Mos6502.stackPage (r₀.s - 1)) ((r₀.pc + 2).setWidth 8)⟩ := by
    rw [dl₄, dl₃, dl₂, dl, pc_two]
    rfl
  show Between _ (Instruction.jsr.exec mem ⟨r₀, memory⟩) _ _
  rw [fields]
  exact last

/-! ## Branches -/

/-- A relative jump is a signed addition, and the carry of its low byte is a page crossing. -/
theorem relative_sum (pc : BitVec 16) (offset : Byte) :
    let low := (pc.extractLsb 7 0).setWidth 9 + (BitVec.ofBool (offset.getLsbD 7) ++ offset)
    let high := pc.extractLsb 15 8
    let target := pc + offset.signExtend 16
    (if low.getLsbD 8 then if offset.getLsbD 7 then high - 1 else high + 1 else high) ++
        low.setWidth 8 = target ∧
      low.getLsbD 8 = (high != target.extractLsb 15 8) := by
  intro low high target
  have bound := offset.isLt
  have bound' := pc.isLt
  have highValue : high.toNat = pc.toNat / 2 ^ 8 := by
    simp only [high, BitVec.extractLsb, toNat_slice]
    omega
  have lowValue : low.toNat =
      (pc.toNat % 2 ^ 8 + ((offset.getLsbD 7).toNat * 2 ^ 8 + offset.toNat)) % 2 ^ 9 := by
    simp only [low, BitVec.toNat_add, BitVec.toNat_setWidth, toNat_append, toNat_flag,
      BitVec.extractLsb, toNat_slice]
    omega
  have targetValue : target.toNat =
      (pc.toNat + (offset.toNat + if offset.getLsbD 7 then 2 ^ 16 - 2 ^ 8 else 0)) % 2 ^ 16 := by
    rw [BitVec.toNat_add, BitVec.toNat_signExtend, BitVec.msb_eq_getLsbD_last,
      BitVec.toNat_setWidth, Nat.mod_eq_of_lt (a := offset.toNat) (by omega)]
  have pageValue : (target.extractLsb 15 8).toNat = target.toNat / 2 ^ 8 := by
    have := target.isLt
    simp only [BitVec.extractLsb, toNat_slice]
    omega
  have sign : offset.getLsbD 7 = true ↔ 2 ^ 7 ≤ offset.toNat := by
    rw [← decide_eq_true_iff (p := 2 ^ 7 ≤ offset.toNat), ← BitVec.msb_eq_decide offset,
      BitVec.msb_eq_getLsbD_last]
  have carry : low.getLsbD 8 = true ↔ 2 ^ 8 ≤ low.toNat := by
    rw [← decide_eq_true_iff (p := 2 ^ 8 ≤ low.toNat), ← BitVec.msb_eq_decide low,
      BitVec.msb_eq_getLsbD_last]
  constructor
  · apply BitVec.eq_of_toNat_eq
    rw [toNat_append, targetValue, BitVec.toNat_setWidth]
    cases crossed : low.getLsbD 8 <;> cases negative : offset.getLsbD 7 <;>
      rw [crossed] at carry <;> rw [negative] at sign lowValue <;>
      simp only [true_iff, Bool.false_eq_true, false_iff, if_true, if_false, Bool.toNat_true,
        Bool.toNat_false, BitVec.toNat_add, BitVec.toNat_sub, BitVec.ofNat_eq_ofNat,
        BitVec.toNat_ofNat] at carry sign lowValue ⊢ <;>
      omega
  · rw [Bool.eq_iff_iff, carry, bne_iff_ne, ne_eq, ← BitVec.toNat_inj, highValue, pageValue,
      targetValue]
    cases negative : offset.getLsbD 7 <;> rw [negative] at sign lowValue <;>
      simp only [true_iff, Bool.false_eq_true, false_iff, if_true, if_false, Bool.toNat_true,
        Bool.toNat_false] at sign lowValue ⊢ <;>
      omega

/-- The condition of a branch is the test of its flag. -/
theorem branch_test {opcode : Byte} {flag : Condition} {value : Bool}
    (decoded : .branch flag value ∈ decode opcode) (p : Status) :
    MCode.branch opcode p = decide (flag.test p.flags = value) := by
  have row := branchRow_opcode decoded
  rw [MCode.branch, Bool.eq_iff_iff, decide_eq_true_iff]
  cases flag <;> cases value <;> rw [row _ rfl] <;> simp [Condition.test, Status.flags]

/-- A relative jump goes to the sum with the signed offset. -/
theorem pcRelative_eq (m : Moves) (s : T65) (adds : m.pcAdd = true) :
    s.pcRelative m = s.pc + s.dl.signExtend 16 := by
  have sum := (relative_sum s.pc s.dl).1
  rw [pcRelative, pcAdder, adds]
  exact sum

/-- A relative jump breaks off unless it crosses a page. -/
theorem breaks_relative (m : Moves) (s : T65) (adds : m.pcAdd = true)
    (fixed : m.breakAtNA = false) :
    s.breaks m =
      !(s.pc.extractLsb 15 8 != (s.pc + s.dl.signExtend 16).extractLsb 15 8) := by
  have carry := (relative_sum s.pc s.dl).2
  rw [← carry, breaks, pcAdder, adds, fixed]
  rfl

/-- A branch. -/
theorem exec_branch {flag : Condition} {value : Bool} {r₀ : Regs}
    (h : Fetching (.branch flag value) { r₀ with pc := r₀.pc + 1 }
      (program (decide (flag.test r₀.flags = value)) (.branch flag value)) memory c) :
    After (System.clock mem) ((Instruction.branch flag value).cycles mem ⟨r₀, memory⟩ - 1)
      (Executed mem (.branch flag value) ⟨r₀, memory⟩) c := by
  by_cases taken : flag.test r₀.flags = value
  · rw [decide_eq_true taken] at h
    obtain ⟨target, jump⟩ :
        ∃ pc, Mos6502.branchTarget r₀.pc (Mos6502.argument mem memory r₀) = pc := ⟨_, rfl⟩
    have count : (Instruction.branch flag value).cycles mem ⟨r₀, memory⟩ - 1 =
        ((r₀.pc + 2).extractLsb 15 8 != target.extractLsb 15 8).toNat + 1 + 1 := by
      simp only [Instruction.cycles, if_pos taken, jump]
      omega
    have effect : Executed mem (.branch flag value) ⟨r₀, memory⟩ =
        Between (.branch flag value) ⟨{ r₀ with pc := target }, memory⟩ r₀.flags.i := by
      funext t
      simp only [Executed, Instruction.mask, Instruction.exec, if_pos taken, jump]
    rw [count, effect]
    intro lines
    have first := h.cycle mem rfl rfl lines
    generalize c.clock mem lines = c₁ at first ⊢
    have dl : c₁.cpu.dl = Mos6502.argument mem memory r₀ := first.moved.dl
    have pc : c₁.cpu.pc = r₀.pc + 2 := by
      rw [← pc_two]
      exact congrArg Regs.pc first.stage.regs
    have sum : c₁.cpu.pc + c₁.cpu.dl.signExtend 16 = target := by
      rw [pc, dl, ← jump]
      rfl
    obtain ⟨step, relative⟩ : ∃ m : MicroStep, m = { jump := .rel, pcAdd := true } := ⟨_, rfl⟩
    have breaks := breaks_relative step.toMoves c₁.cpu (by rw [relative]) (by rw [relative])
    have goes := pcRelative_eq step.toMoves c₁.cpu (by rw [relative])
    subst relative
    rw [sum] at breaks goes
    rw [pc] at breaks
    cases crossed : (r₀.pc + 2).extractLsb 15 8 != target.extractLsb 15 8 with
    | false =>
      rw [crossed] at breaks
      intro lines
      have last := System.close_read mem first.stage rfl rfl rfl (.inr breaks)
        ⟨rfl, rfl, rfl⟩ rfl first.moved.wrN rfl lines
      rw [first.mem] at last
      rw [← goes]
      exact last
    | true =>
      rw [crossed] at breaks
      -- one more cycle, without effect, when a page is crossed
      intro lines
      have second := System.read_cycle_whole mem first.stage rfl rfl breaks first.moved.wrN rfl
        lines
      generalize c₁.clock mem lines = c₂ at second ⊢
      intro lines
      have last := System.close_read mem second.stage rfl rfl rfl (.inl ⟨rfl, rfl⟩)
        ⟨rfl, rfl, rfl⟩ rfl second.moved.wrN rfl lines
      rw [second.mem, first.mem] at last
      rw [← goes]
      exact last
  · rw [decide_eq_false taken] at h
    have count : (Instruction.branch flag value).cycles mem ⟨r₀, memory⟩ - 1 = 1 := by
      simp only [Instruction.cycles, if_neg taken]
    have effect : Executed mem (.branch flag value) ⟨r₀, memory⟩ =
        Between (.branch flag value) ⟨{ r₀ with pc := r₀.pc + 1 + 1 }, memory⟩ r₀.flags.i := by
      funext t
      simp only [Executed, Instruction.mask, Instruction.exec, if_neg taken, pc_two]
    rw [count, effect]
    intro lines
    have last := System.close_read mem h.stage rfl rfl rfl (.inl ⟨rfl, rfl⟩) ⟨rfl, rfl, rfl⟩ rfl
      h.reads rfl lines
    rw [h.mem] at last
    exact last

end T65

end FpgaNes
