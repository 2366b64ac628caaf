import FpgaNes.Period
import FpgaNes.Beam

/-!
# Background tiles

What a tile of the background is in terms of the memories, and the walk of the VRAM
address over the tiles of a picture: across a row of two nametables and down a column
of two, with the carries of `hinc` and `vinc` as remainders.
-/

namespace FpgaNes

open Hdl

/-- A tile of one pixel line: its name, the palette of its quadrant and its two planes. -/
structure Tile where
  /-- The nametable byte. -/
  name : Byte
  /-- The palette bits. -/
  palette : Fin 2 → Bool
  /-- The pattern bytes of the row. -/
  pattern : Fin 2 → Byte

/-- The tile at a column and a row of a nametable, in one of its eight pixel lines. -/
def PpuMemory.tile (m : PpuMemory) (header : Header) (half nametableX nametableY : Bool)
    (column row fine : ℕ) : Tile where
  name := m.read header (nametable + 32 * row + column)
  palette := fun plane =>
    (m.read header (nametable + 0x3C0 + 8 * (row / 4) + column / 4)).getLsbD
      (4 * (row / 2 % 2) + 2 * (column / 2 % 2) + plane)
  pattern := fun plane =>
    m.read header (0x1000 * half.toNat +
      16 * (m.read header (nametable + 32 * row + column)).toNat + 8 * plane + fine)
where
  /-- The address of the nametable. -/
  nametable : ℕ := 0x2000 + 0x800 * nametableY.toNat + 0x400 * nametableX.toNat

/-- The tile under a VRAM address. -/
def PpuMemory.tileUnder (m : PpuMemory) (header : Header) (half : Bool) (v : LoopyReg) : Tile :=
  m.tile header half v.nametableX v.nametableY v.coarseX.toNat v.coarseY.toNat v.fineY.toNat

namespace Ppu

/-! ## Fetch addresses -/

/-- The nametable address in numbers. -/
theorem ntableFetchAddr_toNat (v : LoopyReg) :
    (ntableFetchAddr v).toNat =
      0x2000 + 0x800 * v.nametableY.toNat + 0x400 * v.nametableX.toNat +
        32 * v.coarseY.toNat + v.coarseX.toNat := by
  have bounds := v.bounds
  simp only [ntableFetchAddr, toNat_append, toNat_slice, LoopyReg.bits_toNat, BitVec.toNat_ofNat]
  omega

/-- The attribute address in numbers. -/
theorem atableFetchAddr_toNat (v : LoopyReg) :
    (atableFetchAddr v).toNat =
      0x2000 + 0x800 * v.nametableY.toNat + 0x400 * v.nametableX.toNat + 0x3C0 +
        8 * (v.coarseY.toNat / 4) + v.coarseX.toNat / 4 := by
  have bounds := v.bounds
  simp only [atableFetchAddr, toNat_append, toNat_slice, LoopyReg.bits_toNat,
    BitVec.toNat_ofNat]
  omega

/-- The pattern address in numbers. -/
theorem ptableFetchAddr_toNat (half plane : Bool) (tile : Byte) (row : BitVec 3) :
    (ptableFetchAddr half tile plane row).toNat =
      0x1000 * half.toNat + 16 * tile.toNat + 8 * plane.toNat + row.toNat := by
  have bound := tile.isLt
  simp only [ptableFetchAddr, toNat_append, toNat_flag, BitVec.toNat_ofNat]
  omega

/-- The quadrant of an attribute byte, by the second bits of the column and the row. -/
theorem atableQuadrant_eq (v : LoopyReg) (data : Byte) (plane : Fin 2) :
    atableQuadrant v data plane =
      data.getLsbD (4 * (v.coarseY.toNat / 2 % 2) + 2 * (v.coarseX.toNat / 2 % 2) + plane) := by
  have x := toNat_bit v.coarseX 1
  have y := toNat_bit v.coarseY 1
  unfold atableQuadrant
  cases column : v.coarseX.getLsbD 1 <;> cases row : v.coarseY.getLsbD 1 <;>
    simp only [column, row, Bool.toNat_false, Bool.toNat_true, pow_one] at x y <;>
    simp only [← x, ← y, Nat.mul_zero, Nat.mul_one, Nat.zero_add, Nat.add_zero, Nat.reduceAdd]

end Ppu

/-! ## The walk of the VRAM address -/

namespace LoopyReg

variable (v t : LoopyReg)

/-- The fields the horizontal updates drive. -/
def horizontal : Bool × BitVec 5 := (v.nametableX, v.coarseX)

/-- The fields the vertical updates drive. -/
def vertical : BitVec 3 × Bool × BitVec 5 := (v.fineY, v.nametableY, v.coarseY)

/-- The tile column over two nametables. -/
def column : ℕ := 32 * v.nametableX.toNat + v.coarseX.toNat

/-- The pixel line over two nametables. -/
def pixelLine : ℕ := 240 * v.nametableY.toNat + 8 * v.coarseY.toNat + v.fineY.toNat

variable {v t}

/-- The two groups of fields make up the register. -/
theorem ext_groups (across : v.horizontal = t.horizontal) (down : v.vertical = t.vertical) :
    v = t := by
  simp only [horizontal, vertical, Prod.mk.injEq] at across down
  exact LoopyReg.ext down.1 down.2.1 across.1 down.2.2 across.2

/-- The horizontal fields from the column. -/
theorem column_fields : v.nametableX = decide (32 ≤ v.column) ∧
    v.coarseX.toNat = v.column % 32 := by
  have bound := v.coarseX.isLt
  unfold column
  cases v.nametableX
  · simp only [Bool.toNat_false]
    constructor
    · symm
      rw [decide_eq_false_iff_not]
      omega
    · omega
  · simp only [Bool.toNat_true]
    constructor
    · symm
      rw [decide_eq_true_eq]
      omega
    · omega

end LoopyReg

namespace Ppu

variable (v t : LoopyReg)

/-- The horizontal increment keeps the vertical fields. -/
@[simp] theorem hinc_vertical : (hinc v).vertical = v.vertical := by
  unfold hinc
  split <;> rfl

/-- The vertical increment keeps the horizontal fields. -/
@[simp] theorem vinc_horizontal : (vinc v).horizontal = v.horizontal := by
  unfold vinc
  split
  · rfl
  · split
    · rfl
    · split <;> rfl

/-- The horizontal copy takes the horizontal fields. -/
@[simp] theorem hcopy_horizontal : (hcopy v t).horizontal = t.horizontal := rfl

/-- It keeps the vertical fields. -/
@[simp] theorem hcopy_vertical : (hcopy v t).vertical = v.vertical := rfl

/-- The vertical copy keeps the horizontal fields. -/
@[simp] theorem vcopy_horizontal : (vcopy v t).horizontal = v.horizontal := rfl

/-- The vertical update sees the vertical fields only. -/
theorem vinc_vertical {v t : LoopyReg} (down : v.vertical = t.vertical) :
    (vinc v).vertical = (vinc t).vertical := by
  simp only [LoopyReg.vertical, Prod.mk.injEq] at down
  obtain ⟨fine, nametable, coarse⟩ := down
  unfold vinc
  rw [fine, nametable, coarse]
  split
  · rfl
  · split
    · rfl
    · split <;> rfl

/-- Each horizontal update moves one column on, around two nametables. -/
theorem hinc_column : (hinc v).column = (v.column + 1) % 64 := by
  have bound := v.coarseX.isLt
  unfold hinc LoopyReg.column
  by_cases last : v.coarseX.toNat = 31
  · rw [if_pos last]
    cases v.nametableX <;> simp [last]
  · have next : (v.coarseX + 1).toNat = v.coarseX.toNat + 1 := by
      rw [BitVec.toNat_add]
      exact Nat.mod_eq_of_lt (by change v.coarseX.toNat + 1 < 32; omega)
    have flag := Bool.toNat_le v.nametableX
    rw [if_neg last]
    dsimp only
    rw [next]
    omega

/-- A number of horizontal updates. -/
theorem hinc_iterate (count : ℕ) :
    (hinc^[count] v).column = (v.column + count) % 64 ∧
      (hinc^[count] v).vertical = v.vertical := by
  induction count with
  | zero =>
    have bounds := v.bounds
    refine ⟨?_, rfl⟩
    simp only [Function.iterate_zero, id_eq, LoopyReg.column]
    omega
  | succ count ih =>
    rw [Function.iterate_succ_apply']
    refine ⟨?_, (hinc_vertical _).trans ih.2⟩
    rw [hinc_column, ih.1]
    omega

/-- Each vertical update moves one line down, around two nametables, from a line of a
nametable. -/
theorem vinc_pixelLine (inside : v.coarseY.toNat ≤ 29) :
    (vinc v).pixelLine = (v.pixelLine + 1) % 480 ∧ (vinc v).coarseY.toNat ≤ 29 := by
  have bounds := v.bounds
  unfold vinc LoopyReg.pixelLine
  by_cases row : v.fineY.toNat = 7
  · rw [if_neg (not_not.mpr row)]
    by_cases last : v.coarseY.toNat = 29
    · rw [if_pos last]
      cases v.nametableY <;> simp [row, last]
    · have next : (v.coarseY + 1).toNat = v.coarseY.toNat + 1 := by
        rw [BitVec.toNat_add]
        exact Nat.mod_eq_of_lt (by change v.coarseY.toNat + 1 < 32; omega)
      rw [if_neg last, if_neg (by omega)]
      dsimp only
      rw [next, row]
      constructor
      · change _ + _ + 0 = _
        omega
      · omega
  · have next : (v.fineY + 1).toNat = v.fineY.toNat + 1 := by
      rw [BitVec.toNat_add]
      exact Nat.mod_eq_of_lt (by change v.fineY.toNat + 1 < 8; omega)
    rw [if_pos row]
    dsimp only
    rw [next]
    exact ⟨by omega, inside⟩

/-- A number of vertical updates. -/
theorem vinc_iterate (inside : v.coarseY.toNat ≤ 29) (count : ℕ) :
    (vinc^[count] v).pixelLine = (v.pixelLine + count) % 480 ∧
      (vinc^[count] v).coarseY.toNat ≤ 29 ∧
      (vinc^[count] v).horizontal = v.horizontal := by
  induction count with
  | zero =>
    have bounds := v.bounds
    refine ⟨?_, inside, rfl⟩
    simp only [Function.iterate_zero, id_eq, LoopyReg.pixelLine]
    omega
  | succ count ih =>
    obtain ⟨line, row, across⟩ := ih
    obtain ⟨line', row'⟩ := vinc_pixelLine (vinc^[count] v) row
    rw [Function.iterate_succ_apply']
    refine ⟨?_, row', (vinc_horizontal _).trans across⟩
    rw [line', line]
    omega

end Ppu

/-- The vertical fields from the pixel line. -/
theorem LoopyReg.pixelLine_fields {v : LoopyReg} (inside : v.coarseY.toNat ≤ 29) :
    v.nametableY = decide (240 ≤ v.pixelLine) ∧ v.coarseY.toNat = v.pixelLine % 240 / 8 ∧
      v.fineY.toNat = v.pixelLine % 8 := by
  have fine := v.fineY.isLt
  unfold pixelLine
  cases v.nametableY
  · simp only [Bool.toNat_false]
    refine ⟨?_, by omega, by omega⟩
    symm
    rw [decide_eq_false_iff_not]
    omega
  · simp only [Bool.toNat_true]
    refine ⟨?_, by omega, by omega⟩
    symm
    rw [decide_eq_true_eq]
    omega

end FpgaNes
