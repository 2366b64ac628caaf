import FpgaNes.Evaluation

/-!
# The sprite output units

After the evaluation of a line each slot of secondary object memory is loaded into an
output unit, with its two pattern bytes as the data bus carries them. On the next line the
unit counts down its X coordinate and then shifts its pattern out, one column a dot.
-/

namespace FpgaNes

open Hdl

namespace Ppu

variable (ppu : Ppu) (data : Byte)

/-- The units after a dot of the sprite fetches, by slot. -/
theorem unitsNext_fetch (enabled : ppu.renderEnable = true) (drawn : ppu.renderLine = true)
    (fetches : ppu.spriteFetchDot = true) (i : Fin 8)
    (index : ppu.eval.spriteFetchIdx.toNat = i.val) (slot : Fin 8) :
    let next := ppu.unitsNext false data
    (next.spriteAttributes slot =
        if ppu.counter.toNat = 0 ∧ slot = i then ppu.eval.sprites slot 2
        else ppu.units.spriteAttributes slot) ∧
      (next.spriteXPosition slot =
        if ppu.counter.toNat = 1 ∧ slot = i then ppu.eval.sprites slot 3
        else ppu.units.spriteXPosition slot) ∧
      (next.spriteYPosition slot =
        if ppu.counter.toNat = 1 ∧ slot = i then ppu.eval.sprites slot 0
        else ppu.units.spriteYPosition slot) ∧
      ∀ plane : Fin 2, next.spriteShifters slot plane =
        if ppu.counter.toNat = 2 + 4 * plane.val ∧ slot = i then
          flipped ((ppu.units.spriteAttributes slot).getLsbD 6) data
        else ppu.units.spriteShifters slot plane := by
  intro next
  have range := fetches
  simp only [spriteFetchDot, Bool.and_eq_true, decide_eq_true_eq] at range
  have inside : ppu.eval.spriteFetchIdx.toNat < 8 := by
    have bound := i.isLt
    omega
  have here : (⟨ppu.eval.spriteFetchIdx.toNat, inside⟩ : Fin 8) = i := Fin.ext index
  have shape : next = ppu.unitsNext false data := rfl
  rw [unitsNext, if_neg Bool.false_ne_true, enabled, drawn, Bool.and_self, if_pos rfl,
    if_neg (by omega), fetches, if_pos rfl, fetchUnit, dif_pos inside, here] at shape
  rw [shape]
  -- each register is indexed by the slot, so an update shows only there
  have stored (old new : Fin 8 → Byte) :
      Function.update old i (new i) slot = if slot = i then new slot else old slot := by
    by_cases same : slot = i
    · subst same
      rw [Function.update_self, if_pos rfl]
    · rw [Function.update_of_ne same, if_neg same]
  have loaded (target plane : Fin 2) :
      loadShifter ppu.units.spriteShifters i target
          (flipped ((ppu.units.spriteAttributes i).getLsbD 6) data) slot plane =
        if plane = target ∧ slot = i then
          flipped ((ppu.units.spriteAttributes slot).getLsbD 6) data
        else ppu.units.spriteShifters slot plane := by
    by_cases same : slot = i
    · subst same
      rw [loadShifter, Function.update_self, Function.update_apply]
      simp only [and_true]
    · rw [loadShifter, Function.update_of_ne same, if_neg (fun both => same both.2)]
  split
  case h_1 count =>
    refine ⟨?_, by simp [count], by simp [count], fun plane => ?_⟩
    · exact (stored _ fun slot => ppu.eval.sprites slot 2).trans (by simp [count])
    · rw [count, if_neg (by omega)]
  case h_2 count =>
    refine ⟨by simp [count], ?_, ?_, fun plane => ?_⟩
    · exact (stored _ fun slot => ppu.eval.sprites slot 3).trans (by simp [count])
    · exact (stored _ fun slot => ppu.eval.sprites slot 0).trans (by simp [count])
    · rw [count, if_neg (by omega)]
  case h_3 count =>
    refine ⟨by simp [count], by simp [count], by simp [count], fun plane => ?_⟩
    rw [count]
    apply (loaded 0 plane).trans
    match plane with
    | 0 => simp
    | 1 => simp
  case h_4 count =>
    refine ⟨by simp [count], by simp [count], by simp [count], fun plane => ?_⟩
    rw [count]
    apply (loaded 1 plane).trans
    match plane with
    | 0 => simp
    | 1 => simp
  case h_5 zero one two six =>
    refine ⟨(if_neg fun both => zero both.1).symm, (if_neg fun both => one both.1).symm,
      (if_neg fun both => one both.1).symm, fun plane => ?_⟩
    match plane with
    | 0 => exact (if_neg fun both => two both.1).symm
    | 1 => exact (if_neg fun both => six both.1).symm

/-- A shift of a unit moves every bit left. -/
theorem getMsbD_shiftUnit (shifter : Byte) (i : ℕ) :
    (shifter.extractLsb' 0 7 ++ 0#1).getMsbD i = shifter.getMsbD (i + 1) := by
  rw [BitVec.getMsbD_append, BitVec.getMsbD_extractLsb']
  by_cases inside : i < 7
  · have offset : 8 - (0 + 7 - i) = i + 1 := by omega
    rw [if_neg (by omega), offset, decide_eq_true inside, decide_eq_true (by omega)]
    rfl
  · rw [if_pos (by omega), BitVec.getMsbD_of_ge shifter (i + 1) (by omega)]
    simp

end Ppu

/-- A unit loaded with an X coordinate and two pattern bytes, after a number of shifts: it counts
down to its first column and then moves its bits left. -/
structure SpriteUnits.Shifted (units : SpriteUnits) (slot : Fin 8) (x : ℕ)
    (pattern : Fin 2 → Byte) (shifts : ℕ) : Prop where
  /-- The X counter is down by the shifts. -/
  position : (units.spriteXPosition slot).toNat = x - shifts
  /-- Once it has run out, each further shift moves the bits by one. -/
  bits : ∀ plane i, (units.spriteShifters slot plane).getMsbD i =
    (pattern plane).getMsbD (i + (shifts - x))

section

variable {units : SpriteUnits} {slot : Fin 8} {x : ℕ} {pattern : Fin 2 → Byte} {shifts : ℕ}

/-- A unit that has just been loaded. -/
theorem SpriteUnits.Shifted.loaded (position : (units.spriteXPosition slot).toNat = x)
    (shifters : ∀ plane, units.spriteShifters slot plane = pattern plane) :
    units.Shifted slot x pattern 0 := by
  refine ⟨position, fun plane i => ?_⟩
  rw [shifters plane, Nat.zero_sub, Nat.add_zero]

/-- One more shift. -/
theorem SpriteUnits.Shifted.shift (shifted : units.Shifted slot x pattern shifts) :
    (Ppu.shiftUnits units).Shifted slot x pattern (shifts + 1) := by
  obtain ⟨position, bits⟩ := shifted
  by_cases active : units.spriteXPosition slot = 0
  · have zero : (units.spriteXPosition slot).toNat = 0 := congrArg BitVec.toNat active
    refine ⟨?_, fun plane i => ?_⟩
    · rw [Ppu.shiftUnits]
      dsimp only
      rw [if_pos active]
      change 0 = _
      omega
    · rw [Ppu.shiftUnits]
      dsimp only
      rw [if_pos active, Ppu.getMsbD_shiftUnit, bits plane]
      congr 1
      omega
  · have positive : (units.spriteXPosition slot).toNat ≠ 0 :=
      fun zero => active (BitVec.eq_of_toNat_eq zero)
    have less : (units.spriteXPosition slot - 1).toNat =
        (units.spriteXPosition slot).toNat - 1 := by
      have bound := (units.spriteXPosition slot).isLt
      have one : (1 : Byte).toNat = 1 := rfl
      rw [BitVec.toNat_sub, one]
      omega
    refine ⟨?_, fun plane i => ?_⟩
    · rw [Ppu.shiftUnits]
      dsimp only
      rw [if_neg active, less]
      omega
    · rw [Ppu.shiftUnits]
      dsimp only
      rw [if_neg active, bits plane]
      congr 1
      omega

end

namespace Nes

/-- The time of the dot that loads a pattern byte of a slot. -/
def patternTime (line : ℕ) (slot : Fin 8) (plane : Fin 2) : ℕ :=
  341 * line + (259 + 8 * slot.val + 4 * plane.val)

/-- The pattern byte of a slot, as the data bus carries it. -/
def patternByte (io : ℕ → Dot) (start : Nes) (line : ℕ) (slot : Fin 8) (plane : Fin 2) : Byte :=
  let time := patternTime line slot plane
  (dotRun io start time).settledData (io time).pins (io time).bus

/-- The pattern byte of a slot in the order it is shown, leftmost pixel in the highest bit. -/
def slotPattern (io : ℕ → Dot) (start : Nes) (line : ℕ) (slot : Fin 8) (plane : Fin 2) : Byte :=
  Ppu.flipped ((secondary io start line slot 2).getLsbD 6) (patternByte io start line slot plane)

/-- The pixel of a slot in one of its eight columns, transparent past them. -/
def slotPixel (io : ℕ → Dot) (start : Nes) (line : ℕ) (slot : Fin 8) (column : ℕ) : BitVec 2 :=
  BitVec.ofBool ((slotPattern io start line slot 1).getMsbD column) ++
    BitVec.ofBool ((slotPattern io start line slot 0).getMsbD column)

section

variable {io : ℕ → Dot} {start : Nes} {first n : ℕ} (line : ℕ)

/-- The output units after each dot. -/
theorem Drawing.units_succ (drawing : Drawing io start first n) (time : ℕ) (below : time < n) :
    (dotRun io start (time + 1)).ppu.units =
      (dotRun io start time).ppu.unitsNext false
        ((dotRun io start time).settledData (io time).pins (io time).bus) := by
  rw [← (drawing.running time below).reset]
  rfl

/-- The output unit of a slot after each dot of the sprite fetches. -/
theorem Rendered.units_fetch (rendered : Rendered io start first n) (dot : ℕ) (late : 257 ≤ dot)
    (early : dot ≤ 320) (below : 341 * line + dot < n) (slot : Fin 8) :
    let before := (dotRun io start (341 * line + dot)).ppu.units
    let after := (dotRun io start (341 * line + (dot + 1))).ppu.units
    (after.spriteAttributes slot =
        if dot = 257 + 8 * slot.val then secondary io start line slot 2
        else before.spriteAttributes slot) ∧
      (after.spriteXPosition slot =
        if dot = 258 + 8 * slot.val then secondary io start line slot 3
        else before.spriteXPosition slot) ∧
      (after.spriteYPosition slot =
        if dot = 258 + 8 * slot.val then secondary io start line slot 0
        else before.spriteYPosition slot) ∧
      ∀ plane : Fin 2, after.spriteShifters slot plane =
        if dot = 259 + 8 * slot.val + 4 * plane.val then
          Ppu.flipped ((before.spriteAttributes slot).getLsbD 6)
            (patternByte io start line slot plane)
        else before.spriteShifters slot plane := by
  intro before after
  have bound := slot.isLt
  have onDot := rendered.toDrawing.onDot line dot (by omega) (by omega)
  obtain ⟨sprites, index⟩ := rendered.fetching line dot late (by omega) (by omega)
  have count := (dotRun io start (341 * line + dot)).ppu.counter_toNat
  have fetches : (dotRun io start (341 * line + dot)).ppu.spriteFetchDot = true := by
    rw [Ppu.spriteFetchDot, onDot, decide_eq_true late, decide_eq_true early]
    rfl
  have group : (dot - 257) / 8 < 8 := by omega
  have step := Ppu.unitsNext_fetch _
    ((dotRun io start (341 * line + dot)).settledData (io (341 * line + dot)).pins
      (io (341 * line + dot)).bus)
    (rendered.enabled _ below) (rendered.drawn _ below) fetches ⟨(dot - 257) / 8, group⟩ index slot
  rw [onDot] at count
  rw [← rendered.toDrawing.units_succ _ below, count, sprites] at step
  -- a slot has eight dots, and each of them one place in the group
  have place (k : ℕ) (small : k < 8) :
      (dot + 7) % 8 = k ∧ slot = ⟨(dot - 257) / 8, group⟩ ↔ dot = 257 + k + 8 * slot.val := by
    rw [Fin.ext_iff]
    dsimp only
    omega
  obtain ⟨attributes, x, y, shifters⟩ := step
  simp only [place 0 (by decide)] at attributes
  simp only [place 1 (by decide)] at x y
  refine ⟨attributes, x, y, fun plane => ?_⟩
  have shifter := shifters plane
  have few := plane.isLt
  have order : 257 + (2 + 4 * plane.val) + 8 * slot.val = 259 + 8 * slot.val + 4 * plane.val := by
    omega
  simp only [place (2 + 4 * plane.val) (by omega), order] at shifter
  apply shifter.trans
  by_cases here : dot = 259 + 8 * slot.val + 4 * plane.val
  · rw [if_pos here, if_pos here]
    subst here
    rfl
  · rw [if_neg here, if_neg here]

/-- A register of a unit keeps what its dot has loaded until the fetches end. -/
theorem loaded_of_fetch {α : Type} (view : SpriteUnits → α) (value : α) (load dot : ℕ)
    (late : 257 ≤ load) (after : load < dot) (early : dot ≤ 321) (le : 341 * line + dot ≤ n)
    (step : ∀ d, 257 ≤ d → d ≤ 320 → 341 * line + d < n →
      view (dotRun io start (341 * line + (d + 1))).ppu.units =
        if d = load then value else view (dotRun io start (341 * line + d)).ppu.units) :
    view (dotRun io start (341 * line + dot)).ppu.units = value := by
  have taken := step load late (by omega) (by omega)
  rw [if_pos rfl] at taken
  refine Eq.trans ?_ taken
  apply trace_held (fun nes : Nes => view nes.ppu.units) (341 * line + (load + 1))
    (341 * line + dot) (by omega)
  intro i above below
  obtain ⟨d, rfl⟩ := Nat.exists_eq_add_of_le (show 341 * line ≤ i by omega)
  exact (step d (by omega) (by omega) (by omega)).trans (if_neg (by omega))

/-- From the second dot of a slot on its unit has the attributes. -/
theorem Rendered.attributes_loaded (rendered : Rendered io start first n) (slot : Fin 8)
    (dot : ℕ) (after : 257 + 8 * slot.val < dot) (early : dot ≤ 321)
    (le : 341 * line + dot ≤ n) :
    (dotRun io start (341 * line + dot)).ppu.units.spriteAttributes slot =
      secondary io start line slot 2 :=
  loaded_of_fetch line (fun units => units.spriteAttributes slot) _ (257 + 8 * slot.val) dot
    (by omega) after early le fun d late early below =>
      (rendered.units_fetch line d late early below slot).1

/-- From the third dot of a slot on its unit has the Y coordinate. -/
theorem Rendered.yPosition_loaded (rendered : Rendered io start first n) (slot : Fin 8)
    (dot : ℕ) (after : 258 + 8 * slot.val < dot) (early : dot ≤ 321)
    (le : 341 * line + dot ≤ n) :
    (dotRun io start (341 * line + dot)).ppu.units.spriteYPosition slot =
      secondary io start line slot 0 :=
  loaded_of_fetch line (fun units => units.spriteYPosition slot) _ (258 + 8 * slot.val) dot
    (by omega) after early le fun d late early below =>
      (rendered.units_fetch line d late early below slot).2.2.1

/-- After the sprite fetches each unit is loaded from its slot. -/
theorem Rendered.units_loaded (rendered : Rendered io start first n)
    (le : 341 * line + 321 ≤ n) (slot : Fin 8) :
    let units := (dotRun io start (341 * line + 321)).ppu.units
    units.spriteAttributes slot = secondary io start line slot 2 ∧
      units.spriteXPosition slot = secondary io start line slot 3 ∧
      ∀ plane, units.spriteShifters slot plane = slotPattern io start line slot plane := by
  have bound := slot.isLt
  refine ⟨rendered.attributes_loaded line slot 321 (by omega) (by decide) le, ?_,
    fun plane => ?_⟩
  · exact loaded_of_fetch line (fun units => units.spriteXPosition slot) _
      (258 + 8 * slot.val) 321 (by omega) (by omega) (by decide) le fun d late early below =>
        (rendered.units_fetch line d late early below slot).2.1
  · have few := plane.isLt
    apply loaded_of_fetch line (fun units => units.spriteShifters slot plane) _
      (259 + 8 * slot.val + 4 * plane.val) 321 (by omega) (by omega) (by decide) le
    intro d late early below
    have step := (rendered.units_fetch line d late early below slot).2.2.2 plane
    by_cases load : d = 259 + 8 * slot.val + 4 * plane.val
    · rw [if_pos load] at step ⊢
      rw [rendered.attributes_loaded line slot d (by omega) (by omega) (by omega)] at step
      exact step
    · rw [if_neg load] at step ⊢
      exact step

/-- Between the sprite fetches and the second dot of the next line the units hold. -/
theorem Rendered.units_held (rendered : Rendered io start first n) (time : ℕ)
    (late : 341 * line + 321 ≤ time) (early : time ≤ 341 * (line + 1) + 2) (le : time ≤ n) :
    (dotRun io start time).ppu.units = (dotRun io start (341 * line + 321)).ppu.units := by
  apply trace_held (fun nes : Nes => nes.ppu.units) (341 * line + 321) time late
  intro i after below
  have dot := rendered.toDrawing.cycle i (by omega)
  have quiet : (dotRun io start i).ppu.spriteFetchDot = false := by
    rw [Ppu.spriteFetchDot, dot, Bool.and_eq_false_iff, decide_eq_false_iff_not,
      decide_eq_false_iff_not]
    omega
  have step := rendered.toDrawing.units_succ i (by omega)
  rw [Ppu.unitsNext, if_neg Bool.false_ne_true, rendered.enabled i (by omega),
    rendered.drawn i (by omega), Bool.and_self, if_pos rfl, if_neg (by omega), quiet,
    if_neg Bool.false_ne_true] at step
  exact step

/-- On the second dot of the next line the units are as the sprite fetches left them. -/
theorem Rendered.units_ready (rendered : Rendered io start first n)
    (le : 341 * (line + 1) + 2 ≤ n) :
    (dotRun io start (341 * (line + 1) + 2)).ppu.units =
      (dotRun io start (341 * line + 321)).ppu.units :=
  rendered.units_held line _ (by omega) (Nat.le_refl _) le

/-- On the next line a unit counts down to its first column and then shows one column a dot. -/
theorem Rendered.units_shown (rendered : Rendered io start first n) (dot : ℕ) (late : 2 ≤ dot)
    (early : dot ≤ 257) (le : 341 * (line + 1) + dot ≤ n) (slot : Fin 8) :
    let units := (dotRun io start (341 * (line + 1) + dot)).ppu.units
    let x := (secondary io start line slot 3).toNat
    units.spriteAttributes slot = secondary io start line slot 2 ∧
      (units.spriteXPosition slot).toNat = x - (dot - 2) ∧
      ∀ plane i, (units.spriteShifters slot plane).getMsbD i =
        (slotPattern io start line slot plane).getMsbD (i + (dot - 2 - x)) := by
  have shown : (dotRun io start (341 * (line + 1) + dot)).ppu.units.spriteAttributes slot =
      secondary io start line slot 2 ∧
      (dotRun io start (341 * (line + 1) + dot)).ppu.units.Shifted slot
        (secondary io start line slot 3).toNat (slotPattern io start line slot) (dot - 2) := by
    obtain ⟨steps, rfl⟩ := Nat.exists_eq_add_of_le late
    rw [Nat.add_sub_cancel_left]
    induction steps with
    | zero =>
      obtain ⟨attributes, x, shifters⟩ := rendered.units_loaded line (by omega) slot
      rw [rendered.units_ready line le]
      exact ⟨attributes, .loaded (congrArg BitVec.toNat x) shifters⟩
    | succ steps ih =>
      obtain ⟨attributes, shifted⟩ := ih (by omega) (by omega) (by omega)
      have onDot := rendered.toDrawing.onDot (line + 1) (2 + steps) (by omega) (by omega)
      have step := rendered.toDrawing.units_succ (341 * (line + 1) + (2 + steps)) (by omega)
      rw [Ppu.unitsNext, if_neg Bool.false_ne_true, rendered.enabled _ (by omega),
        rendered.drawn _ (by omega), Bool.and_self, if_pos rfl, if_pos (by omega)] at step
      rw [show 341 * (line + 1) + (2 + (steps + 1)) = 341 * (line + 1) + (2 + steps) + 1 from rfl,
        step]
      exact ⟨attributes, shifted.shift⟩
  exact ⟨shown.1, shown.2.position, shown.2.bits⟩

/-- A unit shows the column of its slot that is under the beam. -/
theorem Rendered.unitPixel (rendered : Rendered io start first n) (dot : ℕ) (late : 2 ≤ dot)
    (early : dot ≤ 257) (le : 341 * (line + 1) + dot ≤ n) (slot : Fin 8) :
    let ppu := (dotRun io start (341 * (line + 1) + dot)).ppu
    let x := (secondary io start line slot 3).toNat
    (ppu.units.spriteXPosition slot = 0 ↔ x ≤ dot - 2) ∧
      (x ≤ dot - 2 → ppu.unitPixel slot = slotPixel io start line slot (dot - 2 - x)) := by
  intro ppu x
  obtain ⟨-, position, shifters⟩ := rendered.units_shown line dot late early le slot
  constructor
  · rw [BitVec.toNat_eq, position]
    change _ - _ = 0 ↔ _
    omega
  · intro active
    have bit (plane : Fin 2) : (ppu.units.spriteShifters slot plane).getLsbD 7 =
        (slotPattern io start line slot plane).getMsbD (dot - 2 - x) := by
      have shown := shifters plane 0
      rw [Nat.zero_add, BitVec.getMsbD_eq_getLsbD] at shown
      exact shown
    rw [Ppu.unitPixel, bit 0, bit 1]
    rfl

end

end Nes

end FpgaNes
