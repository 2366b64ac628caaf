import FpgaNes.Beam
import FpgaNes.Hdl.Scan

/-!
# Sprite evaluation

On every rendered line secondary object memory is cleared and filled again with the first
eight entries in range, in 192 dots that go three times around object memory. The flag
that arms the sprite 0 hit is set when the entry found is entry 0.
-/

namespace FpgaNes

open Hdl

/-- An entry of object memory has a row on a line, for sprites of one tile or of two. -/
def covers (entry : OamEntry) (size : Bool) (line : ℕ) : Prop :=
  (entry 0).toNat ≤ line ∧ line < (entry 0).toNat + 8 + 8 * size.toNat

instance (entry : OamEntry) (size : Bool) (line : ℕ) : Decidable (covers entry size line) :=
  inferInstanceAs (Decidable (_ ∧ _))

namespace Ppu

/-- The range check compares the line with the rows of the sprite, without wrapping. -/
theorem spriteInRange_eq (scanline : BitVec 10) (entry : OamEntry) (size : Bool) :
    spriteInRange scanline (entry 0) size = decide (covers entry size scanline.toNat) := by
  show spriteInRange scanline (entry 0) size =
    decide ((entry 0).toNat ≤ scanline.toNat ∧
      scanline.toNat < (entry 0).toNat + 8 + 8 * size.toNat)
  generalize entry 0 = y
  have line := scanline.isLt
  have row := y.isLt
  have height : (8 + 8 * (BitVec.ofBool size).setWidth 32 : BitVec 32).toNat =
      8 + 8 * size.toNat := by
    cases size <;> rfl
  have diff : (scanline.setWidth 32 - y.setWidth 32 : BitVec 32).toNat =
      (2 ^ 32 - y.toNat + scanline.toNat) % 2 ^ 32 := by
    rw [BitVec.toNat_sub, BitVec.toNat_setWidth, BitVec.toNat_setWidth]
    congr 2
    · rw [Nat.mod_eq_of_lt (by omega)]
    · rw [Nat.mod_eq_of_lt (by omega)]
  have flag := Bool.toNat_le size
  rw [spriteInRange, decide_eq_decide, BitVec.le_def, BitVec.lt_def, height, diff]
  constructor
  · intro both
    have positive : 0 ≤ (2 ^ 32 - y.toNat + scanline.toNat) % 2 ^ 32 := Nat.zero_le _
    omega
  · intro both
    refine ⟨Nat.zero_le _, ?_⟩
    omega

variable (ppu : Ppu)

/-- On a rendered line evaluation takes one step a dot; the overflow flag is beside it. -/
theorem evalNext_drawn (enabled : ppu.renderEnable = true) (drawn : ppu.renderLine = true) :
    ∃ overflow, ppu.evalNext false = { ppu.evaluationDot with spriteOverflow := overflow } := by
  rw [evalNext, if_neg Bool.false_ne_true, enabled, drawn, Bool.and_self, if_pos rfl]
  dsimp only
  split
  · exact ⟨false, rfl⟩
  · exact ⟨_, rfl⟩

/-- The flag for entry 0 moves on rendered lines only. -/
theorem evalNext_flag :
    (ppu.evalNext false).sprite0HitPossible =
      if ppu.renderEnable && ppu.renderLine then ppu.evaluationDot.sprite0HitPossible
      else ppu.eval.sprite0HitPossible := by
  rw [evalNext, if_neg Bool.false_ne_true]
  split <;> split <;> rfl

/-- One byte of secondary object memory is cleared. -/
theorem clearSprites_sprites (e : SpriteEvaluation) (count : ℕ)
    (counted : e.oamClearCounter = BitVec.ofNat 6 count) (few : count < 64) (i : Fin 8)
    (byte : BitVec 2) :
    (clearSprites e).sprites i byte =
      if 4 * i.val + byte.toNat = count then 0xFF else e.sprites i byte := by
  have bound := byte.isLt
  have slot : (e.oamClearCounter.extractLsb' 2 4).toNat = count / 4 := by
    rw [counted, toNat_slice, BitVec.toNat_ofNat]
    omega
  have place : (e.oamClearCounter.extractLsb' 0 2).toNat = count % 4 := by
    rw [counted, toNat_slice, BitVec.toNat_ofNat]
    omega
  rw [clearSprites]
  dsimp only
  rw [writeSprites, slot]
  by_cases here : i.val = count / 4
  · rw [if_pos here, Function.update_apply]
    congr 1
    rw [BitVec.toNat_eq, place, eq_iff_iff]
    omega
  · rw [if_neg here, if_neg (by omega)]

/-- Evaluation before the first position, with some bytes of secondary object memory cleared. -/
structure Clearing (e : SpriteEvaluation) (count : ℕ) : Prop where
  /-- The bytes that have been cleared. -/
  counter : e.oamClearCounter = BitVec.ofNat 6 count
  /-- They hold `$FF`. -/
  cleared : ∀ (i : Fin 8) (byte : BitVec 2), 4 * i.val + byte.toNat < count →
    e.sprites i byte = 0xFF
  /-- No entry has been examined. -/
  index : e.spriteOamIdx = 0
  /-- No slot is filled. -/
  empty : e.spriteCounter = 0
  /-- The flag is clear. -/
  armed : e.sprite0HitPossible = false
  /-- No slot is being fetched. -/
  unfetched : e.spriteFetchIdx = 0

/-- Dot 0 starts evaluation over. -/
theorem startEvaluation_clearing (e : SpriteEvaluation) : Clearing (startEvaluation e) 0 :=
  ⟨rfl, fun _ _ none => absurd none (Nat.not_lt_zero _), rfl, rfl, rfl, rfl⟩

/-- One dot clears one more byte. -/
theorem clearSprites_clearing {e : SpriteEvaluation} {count : ℕ} (before : Clearing e count)
    (few : count < 64) : Clearing (clearSprites e) (count + 1) := by
  refine ⟨?_, fun i byte below => ?_, before.index, before.empty, before.armed,
    before.unfetched⟩
  · change e.oamClearCounter + 1 = _
    rw [before.counter]
    exact (BitVec.ofNat_add count 1).symm
  · rw [clearSprites_sprites e count before.counter few]
    split
    · rfl
    · exact before.cleared i byte (by omega)

/-- Secondary object memory with the entries of the kept positions in its first slots, while
the position examined next is the one counted. -/
structure Filled (e : SpriteEvaluation) (entry : ℕ → OamEntry) (kept : List ℕ) (count : ℕ) :
    Prop where
  /-- The slots that are filled. -/
  counter : e.spriteCounter.toNat = kept.length
  /-- Evaluation goes on with the next entry until all slots are. -/
  index : kept.length < 8 → e.spriteOamIdx = BitVec.ofNat 6 count
  /-- Each filled slot holds its entry. -/
  filled : ∀ (i : Fin 8) (inside : i.val < kept.length), e.sprites i = entry kept[i.val]
  /-- A slot past the last one filled may hold a coordinate that was out of range. -/
  blank : ∀ i : Fin 8, kept.length ≤ i.val → ∀ byte ≠ 0, e.sprites i byte = 0xFF
  /-- The flag is set when entry 0 is among them. -/
  armed : e.sprite0HitPossible = kept.any (fun position => position % 64 == 0)
  /-- No slot is being fetched. -/
  unfetched : e.spriteFetchIdx = 0

/-- Once cleared, secondary object memory holds no entry. -/
theorem Clearing.filled {e : SpriteEvaluation} {entry : ℕ → OamEntry} (cleared : Clearing e 64) :
    Filled e entry [] 0 := by
  refine ⟨congrArg BitVec.toNat cleared.empty, fun _ => cleared.index,
    fun i inside => absurd inside (Nat.not_lt_zero _), fun i _ byte _ => ?_, cleared.armed,
    cleared.unfetched⟩
  have bound := byte.isLt
  exact cleared.cleared i byte (by omega)

/-- One dot of evaluation examines one more position. -/
theorem evaluateSprite_filled {entry : ℕ → OamEntry} {test : ℕ → Bool} {count : ℕ}
    (before : Filled ppu.eval entry (collected 8 test count) count)
    (examined : entry count = ppu.cpu.oam (BitVec.ofNat 6 count))
    (checked : test count = spriteInRange ppu.scanline (entry count 0) ppu.cpu.spriteSize) :
    Filled ppu.evaluateSprite entry (collected 8 test (count + 1)) (count + 1) := by
  have counter := before.counter
  have bound := length_collected_le 8 test count
  have next : BitVec.ofNat 6 count + 1 = BitVec.ofNat 6 (count + 1) :=
    (BitVec.ofNat_add count 1).symm
  have head : (BitVec.ofNat 6 count == 0) = (count % 64 == 0) := by
    rw [Bool.eq_iff_iff, beq_iff_eq, beq_iff_eq, BitVec.toNat_eq, BitVec.toNat_ofNat]
    rfl
  rw [collected_succ]
  generalize collected 8 test count = kept at *
  by_cases room : kept.length < 8
  · have index := before.index room
    rw [evaluateSprite, if_pos (by omega), index, ← examined, ← checked]
    cases passes : test count with
    | true =>
      rw [if_pos rfl, if_pos ⟨room, rfl⟩]
      have more : (ppu.eval.spriteCounter + 1).toNat = kept.length + 1 := by
        rw [BitVec.toNat_add, counter]
        exact Nat.mod_eq_of_lt (by change kept.length + 1 < 16; omega)
      refine ⟨?_, fun _ => next, fun i inside => ?_, fun i past byte other => ?_, ?_,
        before.unfetched⟩
      · rw [List.length_append]
        exact more
      · rw [List.length_append] at inside
        dsimp only
        by_cases last : i.val = kept.length
        · rw [if_pos (last.trans counter.symm)]
          simp only [last, List.getElem_concat_length]
        · have inside' : i.val < kept.length := by
            change i.val < kept.length + 1 at inside
            omega
          rw [if_neg (by omega), before.filled i inside', List.getElem_append_left inside']
      · rw [List.length_append] at past
        change kept.length + 1 ≤ i.val at past
        dsimp only
        rw [if_neg (by omega)]
        exact before.blank i (by omega) byte other
      · rw [List.any_append, ← before.armed]
        dsimp only
        rw [head]
        simp
    | false =>
      rw [if_neg Bool.false_ne_true, if_neg (fun both => Bool.false_ne_true both.2)]
      refine ⟨counter, fun _ => next, fun i inside => ?_, fun i past byte other => ?_,
        before.armed, before.unfetched⟩
      · dsimp only
        rw [writeSprites, if_neg (by omega)]
        exact before.filled i inside
      · dsimp only
        rw [writeSprites]
        split
        · rw [Function.update_of_ne other]
          exact before.blank i past byte other
        · exact before.blank i past byte other
  · rw [evaluateSprite, if_neg (by omega), if_neg (fun both => room both.1)]
    exact ⟨counter, fun fewer => absurd fewer room, before.filled, before.blank, before.armed,
      before.unfetched⟩

end Ppu

namespace Nes

/-- Evaluation comes back to an entry after 64 others. -/
theorem ofNat_around (k : ℕ) : BitVec.ofNat 6 (k + 64) = BitVec.ofNat 6 k := by
  rw [BitVec.toNat_eq, BitVec.toNat_ofNat, BitVec.toNat_ofNat]
  exact Nat.add_mod_right k 64

/-- A run over rendered lines. -/
structure Rendered (io : ℕ → Dot) (start : Nes) (first n : ℕ) : Prop
    extends Drawing io start first n where
  /-- Every line is a rendered one. -/
  drawn : ∀ i < n, (dotRun io start i).ppu.renderLine = true

/-- The time of the evaluation dot that examines a position. -/
def examineTime (line position : ℕ) : ℕ := 341 * line + (65 + position)

/-- The entry of object memory examined at a position. -/
def examined (io : ℕ → Dot) (start : Nes) (line position : ℕ) : OamEntry :=
  (dotRun io start (examineTime line position)).ppu.cpu.oam (BitVec.ofNat 6 position)

/-- The entry examined at a position is in range. -/
def inRange (io : ℕ → Dot) (start : Nes) (line position : ℕ) : Bool :=
  let ppu := (dotRun io start (examineTime line position)).ppu
  Ppu.spriteInRange ppu.scanline (examined io start line position 0) ppu.cpu.spriteSize

/-- The positions whose entries fill secondary object memory, of a number of them. -/
def found (io : ℕ → Dot) (start : Nes) (line count : ℕ) : List ℕ :=
  collected 8 (inRange io start line) count

section

variable {io : ℕ → Dot} {start : Nes} {first n : ℕ}

/-- The evaluation registers after each dot. -/
theorem Rendered.eval_succ (rendered : Rendered io start first n) (time : ℕ) (below : time < n) :
    ∃ overflow, (dotRun io start (time + 1)).ppu.eval =
      { (dotRun io start time).ppu.evaluationDot with spriteOverflow := overflow } := by
  rw [dotRun_succ, ppuClock_eval, (rendered.running time below).reset]
  exact Ppu.evalNext_drawn _ (rendered.enabled time below) (rendered.drawn time below)

/-- The dot of a time of the run. -/
theorem Drawing.onDot (drawing : Drawing io start first n) (line dot : ℕ) (inside : dot < 341)
    (le : 341 * line + dot ≤ n) :
    (dotRun io start (341 * line + dot)).ppu.engine.cycle.toNat = dot :=
  (drawing.cycle _ le).trans (onDot_time line dot inside).2

variable (line : ℕ)

/-- By each of the first dots of a line one more byte of secondary object memory is clear. -/
theorem Rendered.clearing (rendered : Rendered io start first n) (count : ℕ)
    (few : count ≤ 64) (le : 341 * line + (1 + count) ≤ n) :
    Ppu.Clearing (dotRun io start (341 * line + (1 + count))).ppu.eval count := by
  induction count with
  | zero =>
    have dot := rendered.toDrawing.onDot line 0 (by decide) (by omega)
    obtain ⟨overflow, step⟩ := rendered.eval_succ (341 * line + 0) (by omega)
    have cleared := Ppu.startEvaluation_clearing (dotRun io start (341 * line + 0)).ppu.eval
    rw [Ppu.evaluationDot, dot, if_pos rfl] at step
    rw [step]
    exact ⟨cleared.counter, cleared.cleared, cleared.index, cleared.empty, cleared.armed,
      cleared.unfetched⟩
  | succ count ih =>
    have dot := rendered.toDrawing.onDot line (1 + count) (by omega) (by omega)
    obtain ⟨overflow, step⟩ := rendered.eval_succ (341 * line + (1 + count)) (by omega)
    have cleared := Ppu.clearSprites_clearing (ih (by omega) (by omega)) (by omega)
    rw [Ppu.evaluationDot, dot, if_neg (by omega), if_pos (by omega)] at step
    rw [show 1 + (count + 1) = 1 + count + 1 from rfl, ← Nat.add_assoc, step]
    exact ⟨cleared.counter, cleared.cleared, cleared.index, cleared.empty, cleared.armed,
      cleared.unfetched⟩

/-- By each evaluation dot secondary object memory holds the entries found so far. -/
theorem Rendered.filled (rendered : Rendered io start first n) (count : ℕ)
    (few : count ≤ 192) (le : examineTime line count ≤ n) :
    Ppu.Filled (dotRun io start (examineTime line count)).ppu.eval (examined io start line)
      (found io start line count) count := by
  induction count with
  | zero =>
    have cleared := rendered.clearing line 64 (by decide) le
    exact cleared.filled
  | succ count ih =>
    have time : examineTime line (count + 1) = examineTime line count + 1 := rfl
    rw [time] at le ⊢
    have dot := rendered.toDrawing.onDot line (65 + count) (by omega) (Nat.le_of_succ_le le)
    obtain ⟨overflow, step⟩ := rendered.eval_succ (examineTime line count) le
    have filled := Ppu.evaluateSprite_filled _ (ih (by omega) (by omega)) rfl rfl
    rw [Ppu.evaluationDot, examineTime, dot, if_neg (by omega), if_neg (by omega),
      if_pos (by omega)] at step
    rw [examineTime, step]
    exact ⟨filled.counter, filled.index, filled.filled, filled.blank, filled.armed,
      filled.unfetched⟩

/-- Secondary object memory at the end of the evaluation of a line. -/
def secondary (io : ℕ → Dot) (start : Nes) (line : ℕ) : Fin 8 → OamEntry :=
  (dotRun io start (341 * line + 257)).ppu.eval.sprites

/-- On the dots of the sprite fetches secondary object memory is read, eight dots a slot. -/
theorem Rendered.fetching (rendered : Rendered io start first n) (dot : ℕ) (late : 257 ≤ dot)
    (early : dot ≤ 321) (le : 341 * line + dot ≤ n) :
    (dotRun io start (341 * line + dot)).ppu.eval.sprites = secondary io start line ∧
      (dotRun io start (341 * line + dot)).ppu.eval.spriteFetchIdx.toNat = (dot - 257) / 8 := by
  obtain ⟨steps, rfl⟩ := Nat.exists_eq_add_of_le late
  induction steps with
  | zero =>
    have filled := rendered.filled line 192 (by decide) le
    exact ⟨rfl, congrArg BitVec.toNat filled.unfetched⟩
  | succ steps ih =>
    obtain ⟨sprites, index⟩ := ih (by omega) (by omega) (by omega)
    have dot := rendered.toDrawing.onDot line (257 + steps) (by omega) (by omega)
    have count := (dotRun io start (341 * line + (257 + steps))).ppu.counter_toNat
    rw [dot] at count
    obtain ⟨overflow, step⟩ := rendered.eval_succ (341 * line + (257 + steps)) (by omega)
    rw [Ppu.evaluationDot, dot, if_neg (by omega), if_neg (by omega), if_neg (by omega)] at step
    rw [show 257 + (steps + 1) = 257 + steps + 1 from rfl, ← Nat.add_assoc, step]
    by_cases last : (257 + steps + 7) % 8 = 7
    · rw [if_pos ⟨by omega, count.trans last⟩]
      refine ⟨sprites, ?_⟩
      dsimp only
      rw [BitVec.toNat_add, index]
      change (_ + 1) % 64 = _
      omega
    · rw [if_neg (fun both => last (count.symm.trans both.2))]
      exact ⟨sprites, index.trans (by omega)⟩

/-- A frame from its pre-render line on has rendered lines only. -/
theorem Drawing.rendered_frame (drawing : Drawing io start 261 (341 * 241)) :
    Rendered io start 261 (341 * 241) := by
  refine ⟨drawing, fun i below => ?_⟩
  rw [Ppu.renderLine, drawing.scanline i (Nat.le_of_lt below), Bool.or_eq_true,
    decide_eq_true_eq, beq_iff_eq]
  omega

/-- What evaluation tests on a line of the run. -/
theorem Drawing.inRange (drawing : Drawing io start first n) (position : ℕ)
    (few : position < 192) (le : examineTime line position ≤ n) (visible : first + line ≤ 261) :
    inRange io start line position =
      decide (covers (examined io start line position)
        (dotRun io start (examineTime line position)).ppu.cpu.spriteSize (first + line)) := by
  have scanline : (dotRun io start (examineTime line position)).ppu.scanline.toNat =
      first + line := by
    apply (drawing.scanline _ le).trans
    rw [examineTime, (onDot_time line (65 + position) (by omega)).1]
    exact Nat.mod_eq_of_lt (by omega)
  rw [Nes.inRange, Ppu.spriteInRange_eq, scanline]

/-- Evaluation of a line has found entry 0 before a dot. -/
def zeroFound (io : ℕ → Dot) (start : Nes) (line dot : ℕ) : Bool :=
  (found io start line (dot - 65)).any fun position => position % 64 == 0

/-- The flag that arms the sprite 0 hit says whether evaluation has found entry 0. -/
theorem Rendered.armed (rendered : Rendered io start first n) (dot : ℕ) (late : 1 ≤ dot)
    (early : dot ≤ 257) (le : 341 * line + dot ≤ n) :
    (dotRun io start (341 * line + dot)).ppu.eval.sprite0HitPossible =
      zeroFound io start line dot := by
  by_cases clearing : dot ≤ 65
  · obtain ⟨count, rfl⟩ := Nat.exists_eq_add_of_le late
    have none : 1 + count - 65 = 0 := by omega
    rw [(rendered.clearing line count (by omega) le).armed, zeroFound, none, found,
      collected_zero]
    rfl
  · obtain ⟨count, rfl⟩ := Nat.exists_eq_add_of_le (show 65 ≤ dot by omega)
    rw [zeroFound, Nat.add_sub_cancel_left]
    exact (rendered.filled line count (by omega) le).armed

/-- What evaluation has found stays found. -/
theorem zeroFound_mono (before after : ℕ) (order : before ≤ after)
    (early : zeroFound io start line before = true) : zeroFound io start line after = true := by
  rw [zeroFound, List.any_eq_true] at early ⊢
  obtain ⟨position, kept, zero⟩ := early
  exact ⟨position, collected_mono (by omega) kept, zero⟩

/-- Nothing is found before the second evaluation dot. -/
theorem zeroFound_late (dot : ℕ) (seen : zeroFound io start line dot = true) : 66 ≤ dot := by
  by_contra early
  have none : dot - 65 = 0 := by omega
  rw [zeroFound, none, found, collected_zero] at seen
  exact Bool.false_ne_true seen

end

/-- An entry of object memory from its four bytes. -/
def spriteEntry (y tile attributes x : Byte) : OamEntry := fun byte =>
  match byte.toNat with
  | 0 => y
  | 1 => tile
  | 2 => attributes
  | _ => x

/-- A console at the start of a line, with rendering enabled and this object memory. -/
def lineWith (mem : Memories) (line : ℕ) (oam : BitVec 6 → OamEntry) : Nes :=
  let nes := lineStart mem line
  { nes with ppu := { nes.ppu with cpu := { nes.ppu.cpu with oam := oam } } }

end Nes

end FpgaNes
