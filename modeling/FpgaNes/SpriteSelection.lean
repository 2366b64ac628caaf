import FpgaNes.Evaluation

/-!
# Which sprites a line selects

Evaluation has 192 dots for 64 entries of object memory and never stops at the last of them:
while secondary object memory has room it starts over and finds the same entries again. The
first slots are right in all cases, but the counter is right only when the first round finds
nothing or fills all eight slots.
-/

namespace FpgaNes

open Hdl

namespace Nes

/-- An entry of object memory has a row on a line. -/
def onLine (oam : BitVec 6 → OamEntry) (size : Bool) (line k : ℕ) : Bool :=
  decide (covers (oam (BitVec.ofNat 6 k)) size line)

/-- The entries in range on a line, in the order of object memory. -/
def entriesOn (oam : BitVec 6 → OamEntry) (size : Bool) (line : ℕ) : List ℕ :=
  (List.range 64).filter (onLine oam size line)

/-- Evaluation comes back to an entry after 64 others. -/
theorem onLine_periodic (oam : BitVec 6 → OamEntry) (size : Bool) (line : ℕ) :
    Function.Periodic (onLine oam size line) 64 := by
  intro k
  rw [onLine, onLine, ofNat_around]

section

variable {io : ℕ → Dot} {start : Nes} {first n : ℕ} {oam : BitVec 6 → OamEntry} {size : Bool}

/-- Object memory and the sprite size over the evaluation of a line. -/
def Steady (io : ℕ → Dot) (start : Nes) (oam : BitVec 6 → OamEntry) (size : Bool) (line : ℕ) :
    Prop :=
  ∀ dot, 65 ≤ dot → dot ≤ 256 →
    (dotRun io start (341 * line + dot)).ppu.cpu.oam = oam ∧
      (dotRun io start (341 * line + dot)).ppu.cpu.spriteSize = size

variable (line : ℕ)

/-- The entry evaluation examines at a position. -/
theorem Steady.examined (steady : Steady io start oam size line) (position : ℕ)
    (few : position < 192) : examined io start line position = oam (BitVec.ofNat 6 position) := by
  rw [Nes.examined, examineTime, (steady (65 + position) (by omega) (by omega)).1]

/-- What evaluation finds on a line, in three rounds. -/
theorem Drawing.found_steady (drawing : Drawing io start first n)
    (steady : Steady io start oam size line) (le : 341 * line + 257 ≤ n) :
    found io start line 192 = collected 8 (onLine oam size ((first + line) % 262)) 192 := by
  apply collected_congr
  intro position few
  have time : examineTime line position = 341 * line + (65 + position) := rfl
  have scanline := drawing.scanline (examineTime line position) (by omega)
  rw [time, (onDot_time line (65 + position) (by omega)).1] at scanline
  rw [Nes.inRange, Ppu.spriteInRange_eq, steady.examined line position few, time, scanline,
    (steady (65 + position) (by omega) (by omega)).2]
  rfl

/-- The number of slots a line fills: each entry in range counts three times. -/
theorem Drawing.length_found (drawing : Drawing io start first n)
    (steady : Steady io start oam size line) (le : 341 * line + 257 ≤ n) :
    (found io start line 192).length =
      min 8 (3 * (entriesOn oam size ((first + line) % 262)).length) := by
  rw [drawing.found_steady line steady le]
  exact length_collected_rounds (onLine_periodic oam size _) 3

/-- The counter at the end of the evaluation of a line. -/
theorem Rendered.spriteCounter (rendered : Rendered io start first n)
    (steady : Steady io start oam size line) (le : 341 * line + 257 ≤ n) :
    (dotRun io start (341 * line + 257)).ppu.eval.spriteCounter.toNat =
      min 8 (3 * (entriesOn oam size ((first + line) % 262)).length) := by
  have filled := rendered.filled line 192 (by decide) le
  exact filled.counter.trans (rendered.toDrawing.length_found line steady le)

/-- The first slots hold the first entries in range, in order, for every number of them. -/
theorem Rendered.secondary_steady (rendered : Rendered io start first n)
    (steady : Steady io start oam size line) (le : 341 * line + 257 ≤ n) (slot : Fin 8)
    (inside : slot.val < (entriesOn oam size ((first + line) % 262)).length) :
    secondary io start line slot =
      oam (BitVec.ofNat 6 (entriesOn oam size ((first + line) % 262))[slot.val]) := by
  have filled := rendered.filled line 192 (by decide) le
  have length := rendered.toDrawing.length_found line steady le
  have taken : slot.val < (found io start line 192).length := by
    have bound := slot.isLt
    omega
  have same : (found io start line 192)[slot.val] =
      (entriesOn oam size ((first + line) % 262))[slot.val] := by
    have around := getElem?_collected_around 128 slot.isLt inside
    rw [← Option.some_inj, ← List.getElem?_eq_getElem, ← List.getElem?_eq_getElem,
      rendered.toDrawing.found_steady line steady le]
    exact around
  have few := (mem_collected (List.getElem_mem taken)).1
  apply (filled.filled slot taken).trans
  rw [steady.examined line _ few, same]

/-- What a line should select: each entry in range once, up to eight. -/
def SelectsOnce (io : ℕ → Dot) (start : Nes) (entries : List ℕ) (oam : BitVec 6 → OamEntry) :
    Prop :=
  (∀ (slot : Fin 8) (inside : slot.val < entries.length),
    (dotRun io start 257).ppu.eval.sprites slot = oam (BitVec.ofNat 6 entries[slot.val])) ∧
  (dotRun io start 257).ppu.eval.spriteCounter.toNat = min 8 entries.length

/-- On every visible line, for every object memory and both sizes that the line does not
change: evaluation selects each sprite once exactly when none is in range, or at least
eight are. -/
theorem selectsOnce_iff (io : ℕ → Dot) (start : Nes) (oam : BitVec 6 → OamEntry) (size : Bool)
    (line : ℕ) (drawing : Drawing io start line 257) (visible : line ≤ 239)
    (steady : ∀ i ≤ 256, (dotRun io start i).ppu.cpu.oam = oam ∧
      (dotRun io start i).ppu.cpu.spriteSize = size) :
    SelectsOnce io start (entriesOn oam size line) oam ↔
      (entriesOn oam size line).length = 0 ∨ 8 ≤ (entriesOn oam size line).length := by
  have drawn : ∀ i < 257, (dotRun io start i).ppu.renderLine = true := by
    intro i below
    rw [Ppu.renderLine, drawing.scanline i (Nat.le_of_lt below), Bool.or_eq_true,
      decide_eq_true_eq]
    omega
  have rendered : Rendered io start line 257 := ⟨drawing, drawn⟩
  have held : Steady io start oam size 0 := by
    intro dot _ early
    rw [Nat.mul_zero, Nat.zero_add]
    exact steady dot early
  have here : (line + 0) % 262 = line := Nat.mod_eq_of_lt (by omega)
  have counter := rendered.spriteCounter 0 held (Nat.le_refl _)
  have slots := rendered.secondary_steady 0 held (Nat.le_refl _)
  simp only [here] at counter slots
  constructor
  · intro selects
    have right := counter.symm.trans selects.2
    omega
  · intro number
    refine ⟨slots, counter.trans ?_⟩
    omega

end

/-- Object memory with a number of sprites on lines 8 to 15, from the first entry up. -/
def rowOfSprites (number : ℕ) (k : BitVec 6) : OamEntry :=
  spriteEntry (if k.toNat < number then 8 else 0xF0) 1 0 10

/-- A console left alone keeps its object memory and its sprite size. -/
theorem steady_of_quiet (mem : Memories) (line : ℕ) (oam : BitVec 6 → OamEntry) (time : ℕ) :
    (dotRun quietDots (lineWith mem line oam) time).ppu.cpu.oam = oam ∧
      (dotRun quietDots (lineWith mem line oam) time).ppu.cpu.spriteSize = false := by
  have held := (untouched_of_quiet (lineWith mem line oam) time rfl).cpu
    (fun _ _ => ⟨rfl, rfl⟩) time (Nat.le_refl _)
  rw [held]
  exact ⟨rfl, rfl⟩

/-- Eight sprites on line 8 fill the slots, each once. -/
theorem eightSprites_selected :
    SelectsOnce quietDots (lineWith .blank 8 (rowOfSprites 8)) (entriesOn (rowOfSprites 8) false 8)
      (rowOfSprites 8) :=
  (selectsOnce_iff quietDots _ (rowOfSprites 8) false 8 (drawing_of_quiet _ _ _ rfl rfl rfl)
    (by decide) (fun i _ => steady_of_quiet _ _ _ i)).mpr (Or.inr (by decide))

/-- A single sprite on line 8 is selected three times. -/
theorem singleSprite_repeated :
    ¬ SelectsOnce quietDots (lineWith .blank 8 (rowOfSprites 1))
      (entriesOn (rowOfSprites 1) false 8) (rowOfSprites 1) := by
  intro selects
  have line : Drawing quietDots (lineWith .blank 8 (rowOfSprites 1)) 8 257 :=
    drawing_of_quiet _ _ _ rfl rfl rfl
  have drawn : ∀ i < 257, (dotRun quietDots (lineWith .blank 8 (rowOfSprites 1))
      i).ppu.renderLine = true := fun i below =>
    line.renderLine_of_pair (Or.inr (by decide)) (by decide) i below
  have counter := Rendered.spriteCounter 0 ⟨line, drawn⟩
    (fun dot _ _ => steady_of_quiet .blank 8 (rowOfSprites 1) (341 * 0 + dot)) (Nat.le_refl _)
  have one : (entriesOn (rowOfSprites 1) false 8).length = 1 := by decide
  have twice := selects.2.symm.trans counter
  rw [one] at twice
  exact absurd twice (by decide)

end Nes

end FpgaNes
