import FpgaNes.Chips
import FpgaNes.Hit
import FpgaNes.Mask

/-!
# Registers that tell two states apart

Two states of the PPU, or of the APU, that agree on the registers named here agree after every
clock under one input, and show the same interrupt line, write pulse, status and frame events.
The registers of the PPU are those behind the vertical blank flag, the overflow flag and the
sprite 0 hit; of the background and of sprite unit 0 the hit sees only which pixels are opaque.
-/

namespace FpgaNes

open Hdl

/-! ## The APU -/

namespace Apu

/-- Two states of the APU that no later access tells apart by its status register and its frame
events. -/
structure Agree (left right : Apu) : Prop where
  /-- The channel enables. -/
  enable : left.status.pulseEnable = right.status.pulseEnable
  /-- The interrupt bit of the DMC. -/
  dmc : left.status.dmcInterrupt = right.status.dmcInterrupt
  /-- The mode. -/
  mode : left.status.frameCounterMode = right.status.frameCounterMode
  /-- Whether a mode update waits. -/
  modePending : left.modePair.pending = right.modePair.pending
  /-- Whether a clear waits. -/
  clearPending : left.clearPair.pending = right.clearPair.pending
  /-- Whether a set waits. -/
  setPending : left.setPair.pending = right.setPair.pending
  /-- The count. -/
  count : left.count = right.count
  /-- The flag. -/
  flag : left.interrupt.frameInterrupt = right.interrupt.frameInterrupt
  /-- The inhibit bit is without effect in mode one until a flag is owed. -/
  inhibit : left.status.frameIrqInhibit = right.status.frameIrqInhibit ∨
    (left.status.frameCounterMode = true ∧ left.interrupt.frameInterrupt = false ∧
      left.setPair.pending = false)
  /-- The halt flags. -/
  halted : ∀ channel, (left.pulse channel).regs.loopFlag = (right.pulse channel).regs.loopFlag
  /-- The length counters. -/
  counter : ∀ channel, left.pulseLengthCounter channel = right.pulseLengthCounter channel
  /-- Whether a half-frame event waits for a channel. -/
  length : ∀ channel, (left.lengthPair channel).pending = (right.lengthPair channel).pending

namespace Agree

variable {left right : Apu} {port : ApuPort}

/-- Whether the next edge gives events at once. -/
theorem immediate (agree : Agree left right) : left.immediate = right.immediate := by
  rw [immediate_eq, immediate_eq, agree.modePending, agree.mode]

/-- The length of the sequence. -/
theorem lastCount (agree : Agree left right) : left.lastCount = right.lastCount := by
  rw [Apu.lastCount, Apu.lastCount, agree.mode]

/-- The frame events are the same. -/
theorem frameEvents (agree : Agree left right) (released : port.reset = false) :
    left.frameEvents port = right.frameEvents port := by
  rw [frameEvents_eq left released, frameEvents_eq right released, agree.immediate,
    agree.lastCount, agree.count, agree.mode]

/-- The flag is shown the same. -/
theorem frameIrq (agree : Agree left right) : left.frameIrq = right.frameIrq := by
  rw [Apu.frameIrq, Apu.frameIrq, ← agree.flag]
  rcases agree.inhibit with same | ⟨-, clear, -⟩
  · rw [same]
  · rw [clear, Bool.false_and, Bool.false_and]

/-- The status register reads the same. -/
theorem cpuDataOut (agree : Agree left right) : left.cpuDataOut port = right.cpuDataOut port := by
  rw [Apu.cpuDataOut, Apu.cpuDataOut, agree.dmc, agree.frameIrq, agree.counter, agree.counter]

/-- The inhibit bit after an access: a write of `$4017` sets both, and in mode one nothing else
makes it count. -/
theorem inhibit_clock (agree : Agree left right) (released : port.reset = false) :
    (left.clock port).status.frameIrqInhibit = (right.clock port).status.frameIrqInhibit ∨
      ((left.clock port).status.frameCounterMode = true ∧
        (left.clock port).interrupt.frameInterrupt = false ∧
        (left.clock port).setPair.pending = false) := by
  have leftBit : (left.clock port).status.frameIrqInhibit = _ := left.status.next_inhibit port
  have rightBit : (right.clock port).status.frameIrqInhibit = _ := right.status.next_inhibit port
  rw [leftBit, rightBit]
  cases written : port.writes 0x17 with
  | true => exact Or.inl rfl
  | false =>
    rw [if_neg Bool.false_ne_true, if_neg Bool.false_ne_true]
    rcases agree.inhibit with same | ⟨one, clear, answered⟩
    · exact Or.inl same
    · have mode : (left.clock port).status.frameCounterMode = _ := left.status.next_mode port
      rw [written, if_neg Bool.false_ne_true, one] at mode
      have flag := flag_clock left released
      rw [answered, if_neg Bool.false_ne_true, clear, Bool.and_false] at flag
      have set := setPending_clock left released
      rw [answered, Bool.false_and, Bool.xor_false, endsModeZero, one, Bool.not_true,
        Bool.false_and] at set
      exact Or.inr ⟨mode, flag, set⟩

/-- One access keeps two states in agreement. -/
theorem clock (agree : Agree left right) (released : port.reset = false) :
    Agree (left.clock port) (right.clock port) where
  enable := by
    funext channel
    show (left.status.next port).pulseEnable channel = (right.status.next port).pulseEnable channel
    rw [ApuStatus.next_pulseEnable _ _ released, ApuStatus.next_pulseEnable _ _ released,
      agree.enable]
  dmc := by
    show (left.status.next port).dmcInterrupt = (right.status.next port).dmcInterrupt
    rw [ApuStatus.next, ApuStatus.next, released]
    cases port.writes 0x15 <;> cases port.readsStatus <;> cases port.writes 0x17 <;>
      first | rfl | exact agree.dmc
  mode := by
    show (left.status.next port).frameCounterMode = (right.status.next port).frameCounterMode
    rw [ApuStatus.next_mode, ApuStatus.next_mode, agree.mode]
  modePending := by
    rw [pending_clock left released, pending_clock right released, agree.modePending, agree.mode]
  clearPending := by rw [clearPending_clock left released, clearPending_clock right released]
  setPending := by
    rw [setPending_clock left released, setPending_clock right released, agree.setPending,
      agree.clearPending, endsModeZero, endsModeZero, agree.mode, agree.count]
  count := by
    rw [count_clock left released, count_clock right released, agree.immediate, agree.count,
      agree.lastCount]
  flag := by
    rw [flag_clock left released, flag_clock right released, ← agree.clearPending,
      ← agree.setPending, agree.flag]
    rcases agree.inhibit with same | ⟨-, -, answered⟩
    · rw [same]
    · rw [answered, if_neg Bool.false_ne_true, if_neg Bool.false_ne_true]
  inhibit := agree.inhibit_clock released
  halted := by
    intro channel
    show ((left.pulse channel).regs.next port channel).loopFlag =
      ((right.pulse channel).regs.next port channel).loopFlag
    rw [PulseRegisters.next_loopFlag _ _ _ released, PulseRegisters.next_loopFlag _ _ _ released,
      agree.halted]
  counter := by
    intro channel
    apply BitVec.eq_of_toNat_eq
    rw [pulseLengthCounter_clock, pulseLengthCounter_clock, agree.enable, agree.halted,
      agree.counter, agree.length]
  length := by
    intro channel
    rw [lengthPending_clock, lengthPending_clock, halfFrame, halfFrame,
      agree.frameEvents released, agree.length, agree.enable]

end Agree

end Apu

/-! ## The PPU, block by block -/

namespace CpuInterface

/-- A register of the enables that rendering asks about: either is set. -/
def rendering (r : CpuInterface) : Bool := r.backgroundRenderEnable || r.spriteRenderEnable

/-- Both are set, as a hit needs. -/
def hitting (r : CpuInterface) : Bool := r.backgroundRenderEnable && r.spriteRenderEnable

/-- The hit window reaches the edge of the screen. -/
def edges (r : CpuInterface) : Bool := r.showEdgeSprites || r.showEdgeBackground

/-- Two states of the CPU interface that no later access tells apart, by what the interrupt line,
the write pulse and the sprite 0 hit come from. -/
structure Agree (left right : CpuInterface) : Prop where
  /-- The request of the writes. -/
  writeRequest : left.cpuWriteRequest = right.cpuWriteRequest
  /-- The request of the reads of `$2002`. -/
  nmiClearRequest : left.cpuNmiClearRequest = right.cpuNmiClearRequest
  /-- The write toggle. -/
  latch : left.ppuLatch = right.ppuLatch
  /-- The fine X. -/
  fineX : left.fineX = right.fineX
  /-- The enable of the interrupt line. -/
  nmiGenerate : left.nmiGenerate = right.nmiGenerate
  /-- The sprite size. -/
  spriteSize : left.spriteSize = right.spriteSize
  /-- Whether any layer is enabled. -/
  rendering : left.rendering = right.rendering
  /-- Whether both layers are. -/
  hitting : left.hitting = right.hitting
  /-- With the hit disabled the window does not matter, until `$2001` is written. -/
  edges : left.edges = right.edges ∨ left.hitting = false
  /-- The byte of object memory that is written next. -/
  oamAddress : left.oamAddress = right.oamAddress
  /-- Object memory. -/
  oam : left.oam = right.oam

namespace Agree

variable {left right : CpuInterface}

/-- A register write. -/
theorem write (agree : Agree left right) (addr : BitVec 3) (data : Byte) :
    Agree (left.write addr data) (right.write addr data) := by
  unfold CpuInterface.write
  split
  · exact { agree with nmiGenerate := rfl, spriteSize := rfl }
  · exact { agree with rendering := rfl, hitting := rfl, edges := Or.inl rfl }
  · exact { agree with oamAddress := rfl }
  · have oam := agree.oam
    have pointer := agree.oamAddress
    exact { agree with
      oamAddress := congrArg (· + 1) pointer
      oam := by rw [oam, pointer] }
  · rw [agree.latch]
    split
    · exact { agree with fineX := rfl, latch := rfl }
    · exact { agree with latch := rfl }
  · rw [agree.latch]
    split
    · exact { agree with latch := rfl }
    · exact { agree with latch := rfl }
  · exact { agree with writeRequest := congrArg (!·) agree.writeRequest }
  · exact agree

/-- A register read. -/
theorem read (agree : Agree left right) (addr : BitVec 3) :
    Agree (left.read addr) (right.read addr) := by
  unfold CpuInterface.read
  split
  · exact { agree with
      latch := rfl
      nmiClearRequest := congrArg (!·) agree.nmiClearRequest }
  · exact { agree with }
  · exact agree

/-- An edge of `CPU_CLK`. -/
theorem next (agree : Agree left right) (reset : Bool) (port : CpuPort) :
    Agree (left.next reset port) (right.next reset port) := by
  unfold CpuInterface.next
  split
  · exact { agree with
      writeRequest := rfl
      nmiClearRequest := rfl
      latch := rfl
      oam := rfl }
  · split
    · exact { agree with oam := by rw [agree.oam, agree.oamAddress] }
    · split
      · exact agree.write port.addr port.dataIn
      · split
        · exact agree.read port.addr
        · exact agree

end Agree

end CpuInterface

/-- Two states of sprite evaluation, told by its counters and flags and by the bytes of the first
entry of secondary object memory that its unit is loaded with. -/
structure SpriteEvaluation.Agree (left right : SpriteEvaluation) : Prop where
  /-- The byte that is cleared next. -/
  clearCounter : left.oamClearCounter = right.oamClearCounter
  /-- The entry that is examined next. -/
  oamIdx : left.spriteOamIdx = right.spriteOamIdx
  /-- The slots that are filled. -/
  count : left.spriteCounter = right.spriteCounter
  /-- The slot that is fetched. -/
  fetchIdx : left.spriteFetchIdx = right.spriteFetchIdx
  /-- The overflow flag. -/
  overflow : left.spriteOverflow = right.spriteOverflow
  /-- The flip bit of the first slot. -/
  flip : (left.sprites 0 2).getLsbD 6 = (right.sprites 0 2).getLsbD 6
  /-- The X coordinate of the first slot. -/
  position : left.sprites 0 3 = right.sprites 0 3

namespace SpriteEvaluation.Agree

variable {left right : SpriteEvaluation}

/-- A byte stored in both keeps the entry that is compared in agreement. -/
theorem store (agree : Agree left right) (index : ℕ) (byte : BitVec 2) (data : Byte) :
    (Ppu.writeSprites left.sprites index byte data 0 2).getLsbD 6 =
        (Ppu.writeSprites right.sprites index byte data 0 2).getLsbD 6 ∧
      Ppu.writeSprites left.sprites index byte data 0 3 =
        Ppu.writeSprites right.sprites index byte data 0 3 := by
  unfold Ppu.writeSprites
  split
  · rw [Function.update_apply, Function.update_apply, Function.update_apply,
      Function.update_apply]
    refine ⟨?_, ?_⟩
    · split
      · rfl
      · exact agree.flip
    · split
      · rfl
      · exact agree.position
  · exact ⟨agree.flip, agree.position⟩

/-- The clearing of secondary object memory. -/
theorem clearSprites (agree : Agree left right) :
    (Ppu.clearSprites left).Agree (Ppu.clearSprites right) := by
  have stored := agree.store (right.oamClearCounter.extractLsb' 2 4).toNat
    (right.oamClearCounter.extractLsb' 0 2) 0xFF
  unfold Ppu.clearSprites
  rw [agree.clearCounter]
  exact { agree with clearCounter := rfl, flip := stored.1, position := stored.2 }

end SpriteEvaluation.Agree

/-- Two states of the sprite units, told by the first: its shifters, its position and whether it is
flipped. -/
structure SpriteUnits.Agree (left right : SpriteUnits) : Prop where
  /-- The pattern bits. -/
  shifters : left.spriteShifters 0 = right.spriteShifters 0
  /-- The X counter. -/
  position : left.spriteXPosition 0 = right.spriteXPosition 0
  /-- The flip bit. -/
  flip : (left.spriteAttributes 0).getLsbD 6 = (right.spriteAttributes 0).getLsbD 6

namespace SpriteUnits.Agree

variable {left middle right : SpriteUnits}

/-- Agreement is mutual. -/
theorem symm (agree : Agree left right) : Agree right left :=
  ⟨agree.shifters.symm, agree.position.symm, agree.flip.symm⟩

/-- Agreement passes on. -/
theorem trans (first : Agree left middle) (second : Agree middle right) : Agree left right :=
  ⟨first.shifters.trans second.shifters, first.position.trans second.position,
    first.flip.trans second.flip⟩

/-- One pattern byte loads both alike. -/
theorem loaded (agree : Agree left right) (plane : Fin 2) (data : Byte) :
    Function.update (left.spriteShifters 0) plane
        (Ppu.flipped ((left.spriteAttributes 0).getLsbD 6) data) =
      Function.update (right.spriteShifters 0) plane
        (Ppu.flipped ((right.spriteAttributes 0).getLsbD 6) data) := by
  rw [agree.flip, agree.shifters]

end SpriteUnits.Agree

/-- Two states of the background registers, told by which pixels are not transparent and by the
pattern bytes that are next. -/
structure Background.Agree (left right : Background) : Prop where
  /-- The opaque pixels. -/
  pixels : left.opaquePixels = right.opaquePixels
  /-- The pattern bytes that are next. -/
  latches : left.ptableDataTemp = right.ptableDataTemp

/-- The same for all pixels but the leftmost, which the next shift drops. -/
structure Background.AgreeShifted (left right : Background) : Prop where
  /-- The opaque pixels that a shift leaves. -/
  pixels : Ppu.shiftIn left.opaquePixels none = Ppu.shiftIn right.opaquePixels none
  /-- The pattern bytes that are next. -/
  latches : left.ptableDataTemp = right.ptableDataTemp

/-- States in agreement agree after a shift. -/
theorem Background.Agree.shifted {left right : Background} (agree : left.Agree right) :
    left.AgreeShifted right :=
  ⟨congrArg (Ppu.shiftIn · none) agree.pixels, agree.latches⟩

/-- A load drops the leftmost pixel as well. -/
theorem Ppu.shiftIn_congr {left right : BitVec 16}
    (shifted : shiftIn left none = shiftIn right none) (load : Option Byte) :
    shiftIn left load = shiftIn right load := by
  cases load with
  | none => exact shifted
  | some byte =>
    have kept (pixels : BitVec 16) :
        pixels.extractLsb' 7 8 = (shiftIn pixels none).extractLsb' 8 8 := by
      apply BitVec.eq_of_getLsbD_eq
      intro i inside
      rw [shiftIn]
      simp only [BitVec.getLsbD_extractLsb', BitVec.getLsbD_append]
      grind
    rw [shiftIn, shiftIn, kept, kept, shifted]

/-- Two shifters move as their union does. -/
theorem Ppu.shiftIn_or (first second : BitVec 16) (load : Bool) (low high : Byte) :
    shiftIn first (if load then some low else none) |||
        shiftIn second (if load then some high else none) =
      shiftIn (first ||| second) (if load then some (low ||| high) else none) := by
  cases load with
  | false =>
    show (first.extractLsb' 0 15 ++ 0#1) ||| (second.extractLsb' 0 15 ++ 0#1) =
      (first ||| second).extractLsb' 0 15 ++ 0#1
    rw [BitVec.extractLsb'_or, BitVec.or_append, BitVec.or_self]
  | true =>
    show (first.extractLsb' 7 8 ++ low) ||| (second.extractLsb' 7 8 ++ high) =
      (first ||| second).extractLsb' 7 8 ++ (low ||| high)
    rw [BitVec.extractLsb'_or, BitVec.or_append]

/-- A shift brings the pixels into agreement. -/
theorem Background.AgreeShifted.shiftIn {left right : Background} (agree : left.AgreeShifted right)
    (load : Bool) :
    Ppu.shiftIn (left.ptableData 0) (if load then some (left.ptableDataTemp 0) else none) |||
        Ppu.shiftIn (left.ptableData 1) (if load then some (left.ptableDataTemp 1) else none) =
      Ppu.shiftIn (right.ptableData 0) (if load then some (right.ptableDataTemp 0) else none) |||
        Ppu.shiftIn (right.ptableData 1)
          (if load then some (right.ptableDataTemp 1) else none) := by
  have pixels : Ppu.shiftIn (left.ptableData 0 ||| left.ptableData 1) none =
      Ppu.shiftIn (right.ptableData 0 ||| right.ptableData 1) none := agree.pixels
  rw [Ppu.shiftIn_or, Ppu.shiftIn_or, Ppu.shiftIn_congr pixels, agree.latches]

namespace Ppu

/-- The write pulse after a clock, and its handle. -/
theorem accessNext_write (ppu : Ppu) (reset enable : Bool) (port : CpuPort) (data : Byte) :
    (ppu.accessNext reset enable port data).ppuWrite =
        (if reset || !enable then false else ppu.writePending) ∧
      (ppu.accessNext reset enable port data).ppuWriteHandle =
        (if reset || !enable then false else ppu.access.ppuWriteHandle ^^ ppu.writePending) := by
  cases reset with
  | true => exact ⟨rfl, rfl⟩
  | false =>
    cases enable with
    | false => exact ⟨rfl, rfl⟩
    | true =>
      have handles := ppu.accessNext_handles port data
      rw [waiting_write] at handles
      exact ⟨handles.1, handles.2.1⟩

/-- A fetch for another unit leaves the first alone. -/
theorem fetchUnit_other (ppu : Ppu) (data : Byte) (other : ppu.eval.spriteFetchIdx ≠ 0) :
    (ppu.fetchUnit data).Agree ppu.units := by
  unfold fetchUnit
  by_cases inside : ppu.eval.spriteFetchIdx.toNat < 8
  · have apart : (0 : Fin 8) ≠ ⟨ppu.eval.spriteFetchIdx.toNat, inside⟩ := by
      intro same
      exact other (BitVec.eq_of_toNat_eq (congrArg Fin.val same).symm)
    have kept {α : Type} (f : Fin 8 → α) (value : α) :
        Function.update f ⟨ppu.eval.spriteFetchIdx.toNat, inside⟩ value 0 = f 0 :=
      Function.update_of_ne apart value f
    rw [dif_pos inside]
    split
    · exact ⟨rfl, rfl, congrArg (BitVec.getLsbD · 6) (kept _ _)⟩
    · exact ⟨rfl, kept _ _, rfl⟩
    · exact ⟨kept _ _, rfl, rfl⟩
    · exact ⟨kept _ _, rfl, rfl⟩
    · exact ⟨rfl, rfl, rfl⟩
  · rw [dif_neg inside]
    exact ⟨rfl, rfl, rfl⟩

/-- The clock starts the evaluation of a line. -/
def startsEvaluation (ppu : Ppu) : Bool :=
  ppu.renderEnable && ppu.renderLine && ppu.engine.cycle.toNat == 0

/-- No overlap is looked for on the dot that starts the evaluation. -/
theorem startsEvaluation_of_overlap {ppu : Ppu} (overlaps : ppu.overlap = true) :
    ppu.startsEvaluation = false := by
  have past := (ppu.cycle_of_overlap overlaps).1
  rw [startsEvaluation, beq_false_of_ne (by omega), Bool.and_false]

/-- A clock that leaves the flag of the evaluation set finds it set, and does not start an
evaluation, or shifts the background. -/
theorem possible_rises (ppu : Ppu) (set : (ppu.evalNext false).sprite0HitPossible = true) :
    ppu.eval.sprite0HitPossible = true ∧ ppu.startsEvaluation = false ∨
      (ppu.renderEnable && ppu.renderLine && ppu.fetchDot) = true := by
  rw [evalNext_flag] at set
  rw [startsEvaluation]
  cases renders : ppu.renderEnable && ppu.renderLine with
  | false =>
    rw [renders, if_neg Bool.false_ne_true] at set
    exact .inl ⟨set, rfl⟩
  | true =>
    rw [renders, if_pos rfl, evaluationDot] at set
    rw [Bool.true_and, Bool.true_and]
    dsimp only at set
    split at set
    · exact absurd set Bool.false_ne_true
    · next later =>
      by_cases picture : ppu.engine.cycle.toNat ≤ 256
      · right
        rw [fetchDot, decide_eq_true (show 1 ≤ ppu.engine.cycle.toNat by omega),
          decide_eq_true picture]
        rfl
      · refine .inl ⟨?_, beq_false_of_ne later⟩
        rw [if_neg (by omega), if_neg picture] at set
        split at set <;> exact set

/-- Two states of the PPU that no later access tells apart by its interrupt line, its write pulse
and its status register. -/
structure Agree (left right : Ppu) : Prop where
  /-- The CPU interface. -/
  cpu : left.cpu.Agree right.cpu
  /-- The engine. -/
  engine : left.engine = right.engine
  /-- The background, but for the leftmost pixel. -/
  bg : left.bg.AgreeShifted right.bg
  /-- The leftmost pixel is dropped before the flag is set again. -/
  leftmost : left.bg.Agree right.bg ∨ right.eval.sprite0HitPossible = false ∨
    right.startsEvaluation = true
  /-- Unit 0. -/
  units : left.units.Agree right.units
  /-- The evaluation. -/
  eval : left.eval.Agree right.eval
  /-- The start of an evaluation clears the flag. -/
  possible : left.eval.sprite0HitPossible = right.eval.sprite0HitPossible ∨
    right.startsEvaluation = true
  /-- The write pulse. -/
  pulse : left.access.ppuWrite = right.access.ppuWrite
  /-- Its handle. -/
  writeHandle : left.access.ppuWriteHandle = right.access.ppuWriteHandle
  /-- The handler of vertical blank. -/
  nmi : left.nmi = right.nmi
  /-- The hit. -/
  hit : left.sprite0Hit = right.sprite0Hit

namespace Agree

variable {left right : Ppu}

/-- Whether rendering is enabled. -/
theorem renderEnable (agree : Agree left right) : left.renderEnable = right.renderEnable :=
  agree.cpu.rendering

/-- Whether the line is rendered. -/
theorem renderLine (agree : Agree left right) : left.renderLine = right.renderLine := by
  rw [Ppu.renderLine, Ppu.renderLine, scanline, scanline, agree.engine]

/-- Whether the dot is one of the background fetches. -/
theorem fetchDot (agree : Agree left right) : left.fetchDot = right.fetchDot := by
  rw [Ppu.fetchDot, Ppu.fetchDot, agree.engine]

/-- Whether the dot is one of the sprite fetches. -/
theorem spriteFetchDot (agree : Agree left right) :
    left.spriteFetchDot = right.spriteFetchDot := by
  rw [Ppu.spriteFetchDot, Ppu.spriteFetchDot, agree.engine]

/-- The dot inside its fetch group. -/
theorem counter (agree : Agree left right) : left.counter = right.counter := by
  rw [Ppu.counter, Ppu.counter, agree.engine]

/-- The line. -/
theorem scanline (agree : Agree left right) : left.scanline = right.scanline := by
  rw [Ppu.scanline, Ppu.scanline, agree.engine]

/-- The engine. -/
theorem engineNext (agree : Agree left right) (reset : Bool) :
    left.engineNext reset = right.engineNext reset := by
  unfold Ppu.engineNext Ppu.extraCycle
  rw [agree.engine, agree.renderEnable]

/-- The background registers, on a clock that shifts them. -/
theorem backgroundNext_shift (agree : Agree left right) (data : Byte)
    (shifts : (right.renderEnable && right.renderLine && right.fetchDot) = true) :
    (left.backgroundNext false data).Agree (right.backgroundNext false data) := by
  unfold Ppu.backgroundNext
  rw [agree.renderEnable, agree.renderLine, agree.fetchDot, agree.counter, shifts,
    if_neg Bool.false_ne_true, if_neg Bool.false_ne_true, if_pos rfl, if_pos rfl]
  have pixels := agree.bg.shiftIn (right.counter.toNat == 0)
  have latches := agree.bg.latches
  split
  · exact ⟨pixels, latches⟩
  · exact ⟨pixels, latches⟩
  · exact ⟨pixels, congrArg (Function.update · 0 data) latches⟩
  · exact ⟨pixels, congrArg (Function.update · 1 data) latches⟩
  · exact ⟨pixels, latches⟩

/-- Every other clock leaves them alone. -/
theorem backgroundNext_still (agree : Agree left right) (data : Byte)
    (still : (right.renderEnable && right.renderLine && right.fetchDot) = false) :
    left.backgroundNext false data = left.bg ∧ right.backgroundNext false data = right.bg := by
  rw [Ppu.backgroundNext, Ppu.backgroundNext, agree.renderEnable, agree.renderLine,
    agree.fetchDot, still, if_neg Bool.false_ne_true, if_neg Bool.false_ne_true,
    if_neg Bool.false_ne_true, if_neg Bool.false_ne_true]
  exact ⟨rfl, rfl⟩

/-- The background registers. -/
theorem backgroundNext (agree : Agree left right) (data : Byte) :
    (left.backgroundNext false data).AgreeShifted (right.backgroundNext false data) := by
  cases shifts : right.renderEnable && right.renderLine && right.fetchDot with
  | true => exact (agree.backgroundNext_shift data shifts).shifted
  | false =>
    obtain ⟨first, second⟩ := agree.backgroundNext_still data shifts
    rw [first, second]
    exact agree.bg

/-- The leftmost pixel: the clock that sets the flag shifts the background. -/
theorem leftmostNext (agree : Agree left right) (data : Byte) :
    (left.backgroundNext false data).Agree (right.backgroundNext false data) ∨
      (right.evalNext false).sprite0HitPossible = false := by
  cases shifts : right.renderEnable && right.renderLine && right.fetchDot with
  | true => exact .inl (agree.backgroundNext_shift data shifts)
  | false =>
    obtain ⟨first, second⟩ := agree.backgroundNext_still data shifts
    rw [first, second]
    refine agree.leftmost.imp id fun unseen => ?_
    by_contra set
    rcases right.possible_rises (Bool.eq_true_of_not_eq_false set) with ⟨stood, other⟩ | moves
    · rcases unseen with clear | starts
      · exact Bool.false_ne_true (clear.symm.trans stood)
      · exact Bool.false_ne_true (other.symm.trans starts)
    · exact Bool.false_ne_true (shifts.symm.trans moves)

/-- The fetch of a sprite unit. -/
theorem fetchUnit (agree : Agree left right) (data : Byte) :
    (left.fetchUnit data).Agree (right.fetchUnit data) := by
  by_cases first : right.eval.spriteFetchIdx = 0
  · have also : left.eval.spriteFetchIdx = 0 := agree.eval.fetchIdx.trans first
    unfold Ppu.fetchUnit
    rw [first, also, agree.counter, dif_pos (by decide), dif_pos (by decide)]
    split
    · exact { agree.units with flip := agree.eval.flip }
    · exact { agree.units with position := agree.eval.position }
    · exact { agree.units with shifters := agree.units.loaded 0 data }
    · exact { agree.units with shifters := agree.units.loaded 1 data }
    · exact agree.units
  · have also : left.eval.spriteFetchIdx ≠ 0 := agree.eval.fetchIdx ▸ first
    exact (fetchUnit_other left data also).trans
      (agree.units.trans (fetchUnit_other right data first).symm)

/-- The sprite units. -/
theorem unitsNext (agree : Agree left right) (reset : Bool) (data : Byte) :
    (left.unitsNext reset data).Agree (right.unitsNext reset data) := by
  unfold Ppu.unitsNext
  rw [agree.renderEnable, agree.renderLine, agree.engine, agree.spriteFetchDot]
  split
  · exact agree.units
  · split
    · split
      · constructor
        · funext plane
          show (if left.units.spriteXPosition 0 = 0 then
            (left.units.spriteShifters 0 plane).extractLsb' 0 7 ++ 0#1
            else left.units.spriteShifters 0 plane) = _
          rw [agree.units.position, agree.units.shifters]
          rfl
        · show (if left.units.spriteXPosition 0 = 0 then 0
            else left.units.spriteXPosition 0 - 1) = _
          rw [agree.units.position]
          rfl
        · exact agree.units.flip
      · split
        · exact agree.fetchUnit data
        · exact agree.units
    · exact agree.units

/-- The vertical blank handler. -/
theorem nmiNext (agree : Agree left right) (reset : Bool) :
    left.nmiNext reset = right.nmiNext reset := by
  have clear : left.nmiClearPending = right.nmiClearPending := by
    rw [nmiClearPending, nmiClearPending, agree.cpu.nmiClearRequest, agree.nmi]
  have set : left.ppuNmiSetRequest = right.ppuNmiSetRequest := by
    rw [ppuNmiSetRequest, ppuNmiSetRequest, agree.scanline, agree.engine]
  have ends : left.ppuNmiClearRequest = right.ppuNmiClearRequest := by
    rw [ppuNmiClearRequest, ppuNmiClearRequest, agree.scanline, agree.engine]
  rw [Ppu.nmiNext, Ppu.nmiNext, clear, set, ends, agree.nmi]

/-- The write half of the access handler. -/
theorem accessNext (agree : Agree left right) (input : ChipInput) :
    (left.accessNext input.reset input.enable input.ppuPort input.dataIn).ppuWrite =
        (right.accessNext input.reset input.enable input.ppuPort input.dataIn).ppuWrite ∧
      (left.accessNext input.reset input.enable input.ppuPort input.dataIn).ppuWriteHandle =
        (right.accessNext input.reset input.enable input.ppuPort input.dataIn).ppuWriteHandle := by
  have pending : left.writePending = right.writePending := by
    rw [writePending, writePending, agree.cpu.writeRequest, agree.writeHandle]
  obtain ⟨leftPulse, leftHandle⟩ :=
    left.accessNext_write input.reset input.enable input.ppuPort input.dataIn
  obtain ⟨rightPulse, rightHandle⟩ :=
    right.accessNext_write input.reset input.enable input.ppuPort input.dataIn
  rw [leftPulse, leftHandle, rightPulse, rightHandle, pending, agree.writeHandle]
  exact ⟨rfl, rfl⟩

/-- The examination of an entry of object memory. -/
theorem evaluateSprite (agree : Agree left right) :
    left.evaluateSprite.Agree right.evaluateSprite := by
  have eval := agree.eval
  unfold Ppu.evaluateSprite
  have stored := eval.store right.eval.spriteCounter.toNat 0
    (right.cpu.oam right.eval.spriteOamIdx 0)
  dsimp only
  rw [eval.oamIdx, eval.count, agree.scanline, agree.cpu.oam, agree.cpu.spriteSize]
  split
  · split
    · refine ⟨eval.clearCounter, rfl, rfl, eval.fetchIdx, eval.overflow, ?_, ?_⟩
      · dsimp only
        split
        · rfl
        · exact eval.flip
      · dsimp only
        split
        · rfl
        · exact eval.position
    · exact { eval with oamIdx := rfl, count := rfl, flip := stored.1, position := stored.2 }
  · exact eval

/-- Sprite evaluation, by dot. -/
theorem evaluationDot (agree : Agree left right) :
    left.evaluationDot.Agree right.evaluationDot := by
  have eval := agree.eval
  unfold Ppu.evaluationDot
  rw [agree.engine, agree.counter]
  dsimp only
  split
  · exact { eval with
      clearCounter := rfl, oamIdx := rfl, count := rfl, fetchIdx := rfl }
  · split
    · exact eval.clearSprites
    · split
      · exact agree.evaluateSprite
      · split
        · exact { eval with fetchIdx := congrArg (· + 1) eval.fetchIdx }
        · exact eval

/-- Sprite evaluation. -/
theorem evalNext (agree : Agree left right) (reset : Bool) :
    (left.evalNext reset).Agree (right.evalNext reset) := by
  have eval := agree.eval
  have dot := agree.evaluationDot
  unfold Ppu.evalNext
  dsimp only
  rw [agree.renderEnable, agree.renderLine, agree.scanline, agree.engine, eval.count, eval.overflow]
  split
  · exact { eval with
      clearCounter := rfl, oamIdx := rfl, count := rfl, fetchIdx := rfl, overflow := rfl }
  · split
    · split
      · exact { dot with overflow := rfl }
      · exact { eval with overflow := rfl }
    · split
      · exact { dot with overflow := rfl }
      · exact eval

/-- The flag of the evaluation, by dot. -/
theorem evaluationDot_possible (agree : Agree left right)
    (same : left.eval.sprite0HitPossible = right.eval.sprite0HitPossible ∨
      right.engine.cycle.toNat = 0) :
    left.evaluationDot.sprite0HitPossible = right.evaluationDot.sprite0HitPossible := by
  unfold Ppu.evaluationDot Ppu.evaluateSprite
  dsimp only
  rw [agree.engine, agree.counter, agree.eval.oamIdx, agree.eval.count, agree.scanline,
    agree.cpu.oam, agree.cpu.spriteSize]
  split
  · rfl
  · next later =>
    have possible := same.resolve_right later
    split
    · exact possible
    · split
      · split
        · split
          · exact congrArg (· || _) possible
          · exact possible
        · exact possible
      · split
        · exact possible
        · exact possible

/-- The flag of the evaluation, after a clock. -/
theorem possibleNext (agree : Agree left right) :
    (left.evalNext false).sprite0HitPossible = (right.evalNext false).sprite0HitPossible := by
  have dot := agree.possible
  rw [startsEvaluation] at dot
  rw [evalNext_flag, evalNext_flag, agree.renderEnable, agree.renderLine]
  cases renders : right.renderEnable && right.renderLine with
  | true =>
    rw [renders, Bool.true_and, beq_iff_eq] at dot
    exact agree.evaluationDot_possible dot
  | false =>
    rw [renders, Bool.false_and] at dot
    exact dot.resolve_right Bool.false_ne_true

/-- The overlap, where the background agrees. -/
theorem overlap (agree : Agree left right) (bg : left.bg.Agree right.bg) :
    left.overlap = right.overlap := by
  have pixels : transparent left.backgroundIdx = transparent right.backgroundIdx := by
    rw [transparent_backgroundIdx, transparent_backgroundIdx, bg.pixels, agree.cpu.fineX]
  have shown : left.opaqueUnit 0 = right.opaqueUnit 0 := by
    rw [opaqueUnit, opaqueUnit, unitPixel, unitPixel, agree.units.position, agree.units.shifters]
  have enables : (left.cpu.backgroundRenderEnable && left.cpu.spriteRenderEnable) =
      (right.cpu.backgroundRenderEnable && right.cpu.spriteRenderEnable) := agree.cpu.hitting
  rw [Ppu.overlap, Ppu.overlap, pixels, shown, enables]
  rcases agree.cpu.edges with same | disabled
  · have edges : (left.cpu.showEdgeSprites || left.cpu.showEdgeBackground) =
        (right.cpu.showEdgeSprites || right.cpu.showEdgeBackground) := same
    rw [hitDot, hitDot, edges, agree.engine]
  · have off : (right.cpu.backgroundRenderEnable && right.cpu.spriteRenderEnable) = false :=
      agree.cpu.hitting.symm.trans disabled
    rw [off, Bool.and_false, Bool.false_and, Bool.false_and]

/-- The hit. -/
theorem setSprite0Hit (agree : Agree left right) : left.setSprite0Hit = right.setSprite0Hit := by
  rw [setSprite0Hit_eq, setSprite0Hit_eq]
  rcases agree.leftmost with bg | unseen
  · rw [agree.overlap bg]
    cases overlaid : right.overlap with
    | false => rfl
    | true =>
      have other := startsEvaluation_of_overlap overlaid
      rw [agree.possible.resolve_right fun starts =>
        Bool.false_ne_true (other.symm.trans starts)]
  · -- an overlap counts with the flag only
    have quiet (ppu : Ppu) (flag : ppu.startsEvaluation = false →
        ppu.eval.sprite0HitPossible = false) :
        (ppu.overlap && ppu.eval.sprite0HitPossible) = false := by
      cases overlaid : ppu.overlap with
      | false => rfl
      | true => rw [flag (startsEvaluation_of_overlap overlaid), Bool.and_false]
    have clear (other : right.startsEvaluation = false) :
        right.eval.sprite0HitPossible = false :=
      unseen.resolve_right fun starts => Bool.false_ne_true (other.symm.trans starts)
    have starts : left.startsEvaluation = right.startsEvaluation := by
      rw [startsEvaluation, startsEvaluation, agree.renderEnable, agree.renderLine, agree.engine]
    rw [quiet right clear, quiet left fun other =>
      (agree.possible.resolve_right fun begins =>
        Bool.false_ne_true ((starts.symm.trans other).symm.trans begins)).trans
          (clear (starts.symm.trans other))]

/-- One clock keeps two states in agreement. -/
theorem clock (agree : Agree left right) {input : ChipInput} (released : input.reset = false) :
    Agree (left.clock input) (right.clock input) where
  cpu := by
    show (if input.cpuEdge then left.cpu.next input.reset input.ppuPort else left.cpu).Agree
      (if input.cpuEdge then right.cpu.next input.reset input.ppuPort else right.cpu)
    split
    · exact agree.cpu.next input.reset input.ppuPort
    · exact agree.cpu
  engine := agree.engineNext input.reset
  bg := by
    show (left.backgroundNext input.reset input.dataIn).AgreeShifted
      (right.backgroundNext input.reset input.dataIn)
    rw [released]
    exact agree.backgroundNext input.dataIn
  leftmost := by
    show (left.backgroundNext input.reset input.dataIn).Agree
        (right.backgroundNext input.reset input.dataIn) ∨
      (right.evalNext input.reset).sprite0HitPossible = false ∨ _
    rw [released]
    exact (agree.leftmostNext input.dataIn).imp id .inl
  units := agree.unitsNext input.reset input.dataIn
  eval := agree.evalNext input.reset
  possible := by
    left
    show (left.evalNext input.reset).sprite0HitPossible =
      (right.evalNext input.reset).sprite0HitPossible
    rw [released]
    exact agree.possibleNext
  pulse := (agree.accessNext input).1
  writeHandle := (agree.accessNext input).2
  nmi := agree.nmiNext input.reset
  hit := by
    show left.sprite0HitNext input.reset = right.sprite0HitNext input.reset
    rw [sprite0HitNext, sprite0HitNext, agree.engine, agree.scanline, agree.setSprite0Hit,
      agree.hit]

end Agree

end Ppu

/-! ## The two chips -/

/-- Two states of the chips that no later clock tells apart. -/
structure Chips.Agree (left right : Chips) : Prop where
  /-- The PPU. -/
  ppu : left.ppu.Agree right.ppu
  /-- The APU. -/
  apu : left.apu.Agree right.apu

namespace Chips.Agree

variable {left right : Chips} {input : ChipInput}

/-- One clock keeps two states in agreement. -/
theorem clock (agree : Agree left right) (released : input.reset = false) :
    Agree (left.clock input) (right.clock input) where
  ppu := agree.ppu.clock released
  apu := by
    show (if input.cpuEdge then left.apu.clock input.apu else left.apu).Agree
      (if input.cpuEdge then right.apu.clock input.apu else right.apu)
    split
    · exact agree.apu.clock released
    · exact agree.apu

/-- States in agreement show the same. -/
theorem observe (agree : Agree left right) (released : input.reset = false) :
    Chips.observe input left = Chips.observe input right := by
  have events : left.apu.frameEvents input.apu = right.apu.frameEvents input.apu :=
    agree.apu.frameEvents released
  have status : left.ppu.cpuDataOut ppuStatusRead 0 = right.ppu.cpuDataOut ppuStatusRead 0 := by
    show BitVec.ofBool left.ppu.nmi.nmiOccured ++ BitVec.ofBool left.ppu.sprite0Hit ++
      BitVec.ofBool left.ppu.eval.spriteOverflow ++ 0#5 = _
    rw [agree.ppu.nmi, agree.ppu.hit, agree.ppu.eval.overflow]
    rfl
  rw [Chips.observe, Chips.observe, Ppu.nmiN, Ppu.nmiN, agree.ppu.cpu.nmiGenerate, agree.ppu.nmi,
    agree.ppu.pulse, status, agree.apu.cpuDataOut, events]

/-- States in agreement show the same at every later clock. -/
theorem run (agree : Agree left right) {io : ℕ → ChipInput}
    (released : ∀ i, (io i).reset = false) (n : ℕ) :
    Agree (Chips.run io left n) (Chips.run io right n) :=
  trace_simulation (fun _ left right => Chips.Agree left right) agree n
    fun i _ before => before.clock (released i)

end Chips.Agree

end FpgaNes
