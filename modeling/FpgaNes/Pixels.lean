import FpgaNes.Fetch

/-!
# The background pixel stream

The shifters are reloaded every eight dots of the fetch range and shifted on all of them.
From the tenth dot of a line on they show one column a dot, two dots late. The reload on
dot 1 repeats the one on dot 337, so the first eight columns are one dot ahead of the
others, and one column is shown twice.
-/

namespace FpgaNes

open Hdl

/-- One of the four background shifters. -/
inductive Plane where
  | pattern (plane : Fin 2)
  | palette (plane : Fin 2)

/-- The shifter of a plane. -/
def Background.shifter (bg : Background) : Plane → BitVec 16
  | .pattern plane => bg.ptableData plane
  | .palette plane => bg.paletteData plane

/-- The byte a reload puts into the shifter of a plane. -/
def Background.latch (bg : Background) : Plane → Byte
  | .pattern plane => bg.ptableDataTemp plane
  | .palette plane => BitVec.fill 8 (bg.atableBits plane)

/-- The eight pixels of a tile in a plane, leftmost in the highest bit. -/
def Tile.plane (tile : Tile) : Plane → Byte
  | .pattern plane => tile.pattern plane
  | .palette plane => BitVec.fill 8 (tile.palette plane)

/-- The background index of one pixel of a tile. -/
def Tile.pixel (tile : Tile) (column : ℕ) : BitVec 5 :=
  0#1 ++ BitVec.ofBool (tile.palette 1) ++ BitVec.ofBool (tile.palette 0) ++
    BitVec.ofBool ((tile.pattern 1).getMsbD column) ++
    BitVec.ofBool ((tile.pattern 0).getMsbD column)

/-- The pixel in a column of a picture of two nametables, in a pixel line of one tile row. -/
def PpuMemory.pixel (m : PpuMemory) (header : Header) (half nametableY : Bool) (row fine : ℕ)
    (column : ℕ) : BitVec 5 :=
  (m.tile header half (decide (256 ≤ column)) nametableY (column % 256 / 8) row fine).pixel
    (column % 8)

namespace Ppu

/-- A shift moves every bit left. -/
theorem getMsbD_shift (shifter : BitVec 16) (i : ℕ) (inside : i < 15) :
    (shiftIn shifter none).getMsbD i = shifter.getMsbD (i + 1) := by
  have offset : 16 - (0 + 15 - i) = i + 1 := by omega
  simp only [shiftIn, BitVec.getMsbD_append, BitVec.getMsbD_extractLsb', offset]
  rw [if_neg (by omega), decide_eq_true inside, decide_eq_true (by omega)]
  rfl

/-- A reload shifts the high byte and fills the low one. -/
theorem getMsbD_reload (shifter : BitVec 16) (low : Byte) (i : ℕ) :
    (shiftIn shifter (some low)).getMsbD i =
      if i < 8 then shifter.getMsbD (i + 1) else low.getMsbD (i - 8) := by
  simp only [shiftIn, BitVec.getMsbD_append, BitVec.getMsbD_extractLsb']
  by_cases high : i < 8
  · have offset : 16 - (7 + 8 - i) = i + 1 := by omega
    rw [if_neg (by omega), if_pos high, offset, decide_eq_true high, decide_eq_true (by omega)]
    rfl
  · rw [if_pos (by omega), if_neg high]

/-- The shifters after a fetch dot. -/
theorem shifter_fetching (ppu : Ppu) (data : Byte) (active : ppu.fetching = true)
    (plane : Plane) :
    (ppu.backgroundNext false data).shifter plane =
      shiftIn (ppu.bg.shifter plane)
        (if ppu.counter.toNat = 0 then some (ppu.bg.latch plane) else none) := by
  obtain ⟨-, -, -, pattern, palette⟩ := ppu.backgroundNext_fetching data active
  cases plane with
  | pattern plane =>
    apply (pattern plane).trans
    cases load : ppu.counter.toNat == 0 <;> simp_all [Background.shifter, Background.latch]
  | palette plane =>
    apply (palette plane).trans
    cases load : ppu.counter.toNat == 0 <;> simp_all [Background.shifter, Background.latch]

/-- A reload comes with the latches a fetch dot leaves alone. -/
theorem latch_fetching (ppu : Ppu) (data : Byte) (active : ppu.fetching = true)
    (first : ppu.counter.toNat = 0) (plane : Plane) :
    (ppu.backgroundNext false data).latch plane = ppu.bg.latch plane := by
  obtain ⟨-, atable, temp, -⟩ := ppu.backgroundNext_fetching data active
  rw [first] at atable temp
  cases plane with
  | pattern plane => exact (temp plane).trans (if_neg (by omega))
  | palette plane =>
    exact congrArg (fun bits : Fin 2 → Bool => BitVec.fill 8 (bits plane))
      (atable.trans (if_neg (by decide)))

/-- The background index under the fine scroll. -/
theorem backgroundIdx_eq (ppu : Ppu) :
    ppu.backgroundIdx =
      let bit plane := (ppu.bg.shifter plane).getMsbD ppu.cpu.fineX.toNat
      0#1 ++ BitVec.ofBool (bit (.palette 1)) ++ BitVec.ofBool (bit (.palette 0)) ++
        BitVec.ofBool (bit (.pattern 1)) ++ BitVec.ofBool (bit (.pattern 0)) := by
  have bound := ppu.cpu.fineX.isLt
  have left (shifter : BitVec 16) : shifter.getMsbD ppu.cpu.fineX.toNat =
      shifter.getLsbD (15 - ppu.cpu.fineX.toNat) := by
    rw [BitVec.getMsbD_eq_getLsbD, decide_eq_true (by omega), Bool.true_and]
  simp only [left]
  rfl

end Ppu

namespace LoopyReg

open Ppu

/-- Between the sprite fetches and the end of a line no dot copies a field into the address. -/
theorem walk_free (preRender preRender' : Bool) (t t' v : LoopyReg) (dot : ℕ)
    (free : dot ≤ 255 ∨ 305 ≤ dot) : walk preRender t v dot = walk preRender' t' v dot := by
  rw [walk_plain preRender t v dot (by omega) (by omega) (fun _ _ _ => by omega),
    walk_plain preRender' t' v dot (by omega) (by omega) (fun _ _ _ => by omega)]

end LoopyReg

namespace Nes

section

variable {io : ℕ → Dot} {start : Nes} {header : Header} {first n : ℕ}

/-- The VRAM address once the line before has been drawn. -/
def lineAddress (io : ℕ → Dot) (start : Nes) : LoopyReg :=
  (dotRun io start 305).ppu.vram.activeVramAddress

/-- Its horizontal fields are those of `t`. -/
theorem Scanning.lineAddress_horizontal (scanning : Scanning io start header first n)
    (inside : 305 ≤ n) :
    (lineAddress io start).horizontal = start.ppu.cpu.tempVramAddress.horizontal :=
  scanning.horizontal_copied 305 (by decide) (by decide) inside

/-- From there to the end of the next line the address moves by whole tiles. -/
theorem Scanning.address_line (scanning : Scanning io start header first n) (time : ℕ)
    (late : 305 ≤ time) (early : time ≤ 341 + 256) (le : time ≤ n) :
    (dotRun io start time).ppu.vram.activeVramAddress =
      (lineAddress io start).onDot (time / 341) (time % 341) := by
  apply trace_from (fun time (nes : Nes) => nes.ppu.vram.activeVramAddress =
    (lineAddress io start).onDot (time / 341) (time % 341)) 305 rfl time late
  intro i after below before
  have step := scanning.address_succ i (by omega) (by omega)
  rw [LoopyReg.walk_free _ (i / 341 == 0) _ (lineAddress io start) _ (i % 341) (by omega)] at step
  exact step.trans ((congrArg (fun v => Ppu.walk (i / 341 == 0) _ v _) before).trans
    (LoopyReg.walk_onTime (lineAddress io start) i (by omega)))

/-- The eight dots of a tile of the line. -/
theorem Scanning.group_line (scanning : Scanning io start header first n) (tile : ℕ)
    (row : tile < 34) (le : tileStart 0 tile + 8 ≤ n) :
    FetchGroup io start n (tileStart 0 tile) (Ppu.hinc^[tile] (lineAddress io start)) := by
  have range : 305 ≤ tileStart 0 tile ∧ tileStart 0 tile + 7 ≤ 341 + 256 := by
    unfold tileStart
    split <;> omega
  exact fetchGroup_of_walk (lineAddress io start) 0 tile row le
    fun i below => scanning.address_line _ (by omega) (by omega) (by omega)

/-- The tiles of the line. -/
def lineTile (io : ℕ → Dot) (start : Nes) (header : Header) (tile : ℕ) : Tile :=
  (dotRun io start 2).mem.contents.tileUnder header start.ppu.cpu.backgroundPtableAddr
    (Ppu.hinc^[tile] (lineAddress io start))

/-- The pixels of the line in a plane. -/
def lineBit (io : ℕ → Dot) (start : Nes) (header : Header) (plane : Plane) (column : ℕ) : Bool :=
  ((lineTile io start header (column / 8)).plane plane).getMsbD (column % 8)

/-- The latches at the end of the eight dots of a tile. -/
theorem Scanning.latched (scanning : Scanning io start header first n) (tile : ℕ)
    (row : tile < 34) (le : tileStart 0 tile + 8 ≤ n) (plane : Plane) :
    (dotRun io start (tileStart 0 tile + 8)).ppu.bg.latch plane =
      (lineTile io start header tile).plane plane := by
  have contents := scanning.contents 2 (tileStart 0 tile + 8) (by decide) (by omega) le
  obtain ⟨-, palette, pattern⟩ := (scanning.group_line tile row le).fetches scanning
  rw [contents] at palette pattern
  cases plane with
  | pattern plane => exact congrFun pattern plane
  | palette plane =>
    exact congrArg (fun bits : Fin 2 → Bool => BitVec.fill 8 (bits plane)) palette

/-- The fetch dots of a run over rendered lines. -/
theorem Scanning.fetching (scanning : Scanning io start header first n) (time : ℕ)
    (below : time < n) :
    (dotRun io start time).ppu.fetching =
      decide (1 ≤ time % 341 ∧ time % 341 ≤ 256 ∨ 321 ≤ time % 341 ∧ time % 341 < 338) := by
  rw [Ppu.fetching, scanning.enabled time below, scanning.drawn time below, Ppu.fetchDot,
    scanning.toDrawing.cycle time (Nat.le_of_lt below), Bool.eq_iff_iff]
  simp only [Bool.true_and, Bool.or_eq_true, Bool.and_eq_true, decide_eq_true_eq]

/-- The background registers after each dot. -/
theorem Scanning.background_succ (scanning : Scanning io start header first n) (time : ℕ)
    (below : time < n) :
    (dotRun io start (time + 1)).ppu.bg =
      (dotRun io start time).ppu.backgroundNext false
        ((dotRun io start time).settledData (io time).pins (io time).bus) := by
  rw [← (scanning.running time below).reset]
  rfl

/-- A fetch dot that reloads nothing moves every bit of the shifters left. -/
theorem Scanning.shift (scanning : Scanning io start header first n) (time : ℕ)
    (below : time < n)
    (fetches : 1 ≤ time % 341 ∧ time % 341 ≤ 256 ∨ 321 ≤ time % 341 ∧ time % 341 < 338)
    (plain : time % 341 % 8 ≠ 1) (plane : Plane) (i : ℕ) (inside : i < 15) :
    ((dotRun io start (time + 1)).ppu.bg.shifter plane).getMsbD i =
      ((dotRun io start time).ppu.bg.shifter plane).getMsbD (i + 1) := by
  have active := (scanning.fetching time below).trans (decide_eq_true fetches)
  have count := (dotRun io start time).ppu.counter_toNat
  rw [scanning.toDrawing.cycle time (Nat.le_of_lt below)] at count
  rw [scanning.background_succ time below, Ppu.shifter_fetching _ _ active, if_neg (by omega),
    Ppu.getMsbD_shift _ _ inside]

/-- The first dot of a fetch group reloads the low bytes of the shifters. -/
theorem Scanning.reload (scanning : Scanning io start header first n) (time : ℕ)
    (below : time < n)
    (fetches : 1 ≤ time % 341 ∧ time % 341 ≤ 256 ∨ 321 ≤ time % 341 ∧ time % 341 < 338)
    (aligned : time % 341 % 8 = 1) (plane : Plane) (i : ℕ) :
    ((dotRun io start (time + 1)).ppu.bg.shifter plane).getMsbD i =
      if i < 8 then ((dotRun io start time).ppu.bg.shifter plane).getMsbD (i + 1)
      else ((dotRun io start time).ppu.bg.latch plane).getMsbD (i - 8) := by
  have active := (scanning.fetching time below).trans (decide_eq_true fetches)
  have count := (dotRun io start time).ppu.counter_toNat
  rw [scanning.toDrawing.cycle time (Nat.le_of_lt below)] at count
  rw [scanning.background_succ time below, Ppu.shifter_fetching _ _ active, if_pos (by omega),
    Ppu.getMsbD_reload]

/-- The first tile of the line on its way through the low byte of a shifter. -/
theorem Scanning.first_tile (scanning : Scanning io start header first n) (inside : 338 ≤ n)
    (plane : Plane) (shifts : ℕ) (few : shifts ≤ 7) (i : ℕ) (below : i < 8) :
    ((dotRun io start (330 + shifts)).ppu.bg.shifter plane).getMsbD (8 - shifts + i) =
      lineBit io start header plane i := by
  induction shifts with
  | zero =>
    have load := scanning.reload 329 (by omega) (by decide) (by decide) plane (8 + i)
    have latch := scanning.latched 0 (by decide)
      (Nat.le_trans (by decide : tileStart 0 0 + 8 ≤ 338) inside) plane
    rw [if_neg (by omega), Nat.add_sub_cancel_left] at load
    have column : i / 8 = 0 ∧ i % 8 = i := by omega
    rw [lineBit, column.1, column.2, ← latch]
    exact load
  | succ shifts ih =>
    have dot : (330 + shifts) % 341 = 330 + shifts := Nat.mod_eq_of_lt (by omega)
    have moved := scanning.shift (330 + shifts) (by omega) (by omega) (by omega) plane
      (8 - (shifts + 1) + i) (by omega)
    have place : 8 - (shifts + 1) + i + 1 = 8 - shifts + i := by omega
    rw [place] at moved
    exact moved.trans (ih (by omega))

/-- After dot 337 a shifter holds the first two tiles of the line. -/
theorem Scanning.two_tiles (scanning : Scanning io start header first n) (inside : 338 ≤ n)
    (plane : Plane) (i : ℕ) (below : i < 16) :
    ((dotRun io start 338).ppu.bg.shifter plane).getMsbD i =
      lineBit io start header plane i := by
  have load := scanning.reload 337 (by omega) (by decide) (by decide) plane i
  apply load.trans
  by_cases high : i < 8
  · have moved := scanning.first_tile inside plane 7 (by decide) i high
    have place : 8 - 7 + i = i + 1 := by omega
    rw [place] at moved
    rw [if_pos high]
    exact moved
  · have latch := scanning.latched 1 (by decide)
      (Nat.le_trans (by decide : tileStart 0 1 + 8 ≤ 338) inside) plane
    have column : i / 8 = 1 ∧ i % 8 = i - 8 := by omega
    rw [if_neg high, lineBit, column.1, column.2, ← latch]
    rfl

/-- The background unit holds from dot 338 to dot 0 of the line. -/
theorem Scanning.background_held (scanning : Scanning io start header first n)
    (inside : 342 ≤ n) : (dotRun io start 342).ppu.bg = (dotRun io start 338).ppu.bg := by
  apply trace_held (fun nes : Nes => nes.ppu.bg) 338 342 (by decide)
  intro i after below
  have passive := scanning.fetching i (by omega)
  rw [decide_eq_false (by omega)] at passive
  exact (scanning.background_succ i (by omega)).trans (Ppu.backgroundNext_idle _ _ passive)

/-- The column on show on a dot of the line under a fine scroll. -/
def shown (dot fine : ℕ) : ℕ := if dot + fine < 10 then dot - 1 + fine else dot - 2 + fine

/-- One dot on, the next bit of a shifter is the one on show. -/
theorem shown_succ (dot fine : ℕ) (later : 2 ≤ dot) :
    shown (dot + 1) fine = shown dot (fine + 1) := by
  unfold shown
  by_cases early : dot + 1 + fine < 10
  · rw [if_pos early, if_pos (by omega)]
    omega
  · rw [if_neg early, if_neg (by omega)]
    omega

/-- After dot 1, which reloads the second tile once more. -/
theorem Scanning.second_tile (scanning : Scanning io start header first n) (inside : 343 ≤ n)
    (plane : Plane) (i : ℕ) (below : i < 16) :
    ((dotRun io start 343).ppu.bg.shifter plane).getMsbD i =
      lineBit io start header plane (shown 2 i) := by
  have held := scanning.background_held (by omega)
  have load := scanning.reload 342 (by omega) (by decide) (by decide) plane i
  apply load.trans
  rw [held]
  by_cases high : i < 8
  · have before := scanning.two_tiles (by omega) plane (i + 1) (by omega)
    have column : shown 2 i = i + 1 := by
      rw [shown, if_pos (by omega)]
      omega
    rw [if_pos high, before, column]
  · have kept := Ppu.latch_fetching (dotRun io start 337).ppu
      ((dotRun io start 337).settledData (io 337).pins (io 337).bus)
      ((scanning.fetching 337 (by omega)).trans rfl) (by
        rw [Ppu.counter_toNat, scanning.toDrawing.cycle 337 (by omega)]) plane
    rw [← scanning.background_succ 337 (by omega)] at kept
    have latch := scanning.latched 1 (by decide)
      (Nat.le_trans (by decide : tileStart 0 1 + 8 ≤ 343) inside) plane
    have column : shown 2 i / 8 = 1 ∧ shown 2 i % 8 = i - 8 := by
      rw [shown, if_neg (by omega)]
      omega
    rw [if_neg high, kept, lineBit, column.1, column.2, ← latch]
    rfl

/-- The shifters on each dot of the line: the bits that the last reload has filled. -/
theorem Scanning.shifter (scanning : Scanning io start header first n) (dot : ℕ)
    (later : 2 ≤ dot) (early : dot ≤ 257) (inside : 341 + dot ≤ n) (plane : Plane) (i : ℕ)
    (filled : i + (dot - 2) % 8 < 16) :
    ((dotRun io start (341 + dot)).ppu.bg.shifter plane).getMsbD i =
      lineBit io start header plane (shown dot i) := by
  obtain ⟨steps, rfl⟩ := Nat.exists_eq_add_of_le later
  induction steps generalizing i with
  | zero => exact scanning.second_tile inside plane i (by omega)
  | succ steps ih =>
    have now : (341 + (2 + steps)) % 341 = 2 + steps := by omega
    by_cases aligned : (2 + steps) % 8 = 1
    · have load := scanning.reload (341 + (2 + steps)) (by omega) (by omega) (by omega) plane i
      apply load.trans
      by_cases high : i < 8
      · rw [if_pos high, ih (i + 1) (by omega) (by omega) (by omega) (by omega),
          ← shown_succ (2 + steps) i (by omega)]
        rfl
      · have start' : tileStart 0 ((2 + steps) / 8 + 1) + 8 = 341 + (2 + steps) := by
          unfold tileStart
          rw [if_neg (by omega)]
          omega
        have latch := scanning.latched ((2 + steps) / 8 + 1) (by omega) (by omega) plane
        rw [start'] at latch
        have column : shown (2 + (steps + 1)) i / 8 = (2 + steps) / 8 + 1 ∧
            shown (2 + (steps + 1)) i % 8 = i - 8 := by
          rw [shown, if_neg (by omega)]
          omega
        rw [if_neg high, lineBit, column.1, column.2, ← latch]
    · have moved := scanning.shift (341 + (2 + steps)) (by omega) (by omega) (by omega) plane i
        (by omega)
      apply moved.trans
      rw [ih (i + 1) (by omega) (by omega) (by omega) (by omega),
        ← shown_succ (2 + steps) i (by omega)]
      rfl

/-- The background index on each dot of the line. -/
theorem Scanning.backgroundIdx (scanning : Scanning io start header first n) (dot : ℕ)
    (later : 1 ≤ dot) (early : dot ≤ 257) (inside : 341 + dot ≤ n) :
    (dotRun io start (341 + dot)).ppu.backgroundIdx =
      (lineTile io start header (shown dot start.ppu.cpu.fineX.toNat / 8)).pixel
        (shown dot start.ppu.cpu.fineX.toNat % 8) := by
  have bound := start.ppu.cpu.fineX.isLt
  have fine := (scanning.registers (341 + dot) inside).2.1
  have bit (plane : Plane) :
      ((dotRun io start (341 + dot)).ppu.bg.shifter plane).getMsbD start.ppu.cpu.fineX.toNat =
        lineBit io start header plane (shown dot start.ppu.cpu.fineX.toNat) := by
    by_cases first : dot = 1
    · subst first
      rw [scanning.background_held (by omega),
        scanning.two_tiles (by omega) plane _ (by omega), shown, if_pos (by omega)]
      congr 1
      omega
    · exact scanning.shifter dot (by omega) (by omega) inside plane _ (by omega)
  have palette (tile : Tile) (plane : Fin 2) (column : ℕ) :
      (tile.plane (.palette plane)).getMsbD (column % 8) = tile.palette plane := by
    rw [Tile.plane, BitVec.getMsbD_fill, decide_eq_true (Nat.mod_lt column (by decide)),
      Bool.and_true]
  rw [Ppu.backgroundIdx_eq, fine]
  simp only [bit, lineBit, palette]
  rfl

/-- The background pixel in a column of the line, counted from the first tile under `t`. -/
def linePixel (io : ℕ → Dot) (start : Nes) (header : Header) (column : ℕ) : BitVec 5 :=
  let t := start.ppu.cpu.tempVramAddress
  let v := (dotRun io start 341).ppu.vram.activeVramAddress
  (dotRun io start 2).mem.contents.pixel header start.ppu.cpu.backgroundPtableAddr v.nametableY
    v.coarseY.toNat v.fineY.toNat
    ((256 * t.nametableX.toNat + 8 * t.coarseX.toNat + column) % 512)

/-- The pixels of the tiles of the line. -/
theorem Scanning.linePixel_eq (scanning : Scanning io start header first n) (inside : 341 ≤ n)
    (column : ℕ) :
    (lineTile io start header (column / 8)).pixel (column % 8) =
      linePixel io start header column := by
  have down : (lineAddress io start).vertical =
      (dotRun io start 341).ppu.vram.activeVramAddress.vertical := by
    rw [scanning.address_line 341 (by decide) (by decide) inside]
    exact (Ppu.hinc_iterate (lineAddress io start) 2).2.symm
  have across := scanning.lineAddress_horizontal (by omega)
  obtain ⟨walked, kept⟩ := Ppu.hinc_iterate (lineAddress io start) (column / 8)
  rw [linePixel, lineTile, PpuMemory.tileUnder, PpuMemory.pixel]
  generalize Ppu.hinc^[column / 8] (lineAddress io start) = v at *
  rw [down] at kept
  simp only [LoopyReg.horizontal, LoopyReg.vertical, Prod.mk.injEq] at across kept
  obtain ⟨nametableX, coarseX⟩ := v.column_fields
  have bound := start.ppu.cpu.tempVramAddress.coarseX.isLt
  have base : (lineAddress io start).column =
      32 * start.ppu.cpu.tempVramAddress.nametableX.toNat +
        start.ppu.cpu.tempVramAddress.coarseX.toNat := by
    rw [LoopyReg.column, across.1, across.2]
  rw [base] at walked
  have place : 8 * v.column + column % 8 =
      (256 * start.ppu.cpu.tempVramAddress.nametableX.toNat +
        8 * start.ppu.cpu.tempVramAddress.coarseX.toNat + column) % 512 := by
    omega
  rw [← place, nametableX, coarseX, kept.1, kept.2.1, kept.2.2]
  have half : (8 * v.column + column % 8) % 8 = column % 8 ∧
      (8 * v.column + column % 8) % 256 / 8 = v.column % 32 ∧
      (256 ≤ 8 * v.column + column % 8 ↔ 32 ≤ v.column) := by
    omega
  rw [half.1, half.2.1, decide_eq_decide.mpr half.2.2]

/-- On every visible line drawn with rendering enabled and no access of the scroll registers,
over the line before it too: two dots after its place in the line, a column shows its own
pixel exactly when it is past the first tile or the next column has the same pixel. -/
theorem background_shown_iff (io : ℕ → Dot) (start : Nes) (header : Header) (first n x : ℕ)
    (drawing : Drawing io start first n) (lines : first = 261 ∨ first ≤ 238) (two : n ≤ 682)
    (game : ∀ i < n, (io i).pins.header = header)
    (leaves : ∀ i < n, (io i).bus.leavesScroll = true)
    (visible : x + 2 ≤ 256) (inside : 341 + (x + 2) ≤ n) :
    let fine := start.ppu.cpu.fineX.toNat
    (dotRun io start (341 + (x + 2))).ppu.backgroundIdx =
        linePixel io start header (fine + x) ↔
      8 ≤ fine + x ∨
        linePixel io start header (fine + x + 1) = linePixel io start header (fine + x) := by
  have scanning : Scanning io start header first n :=
    ⟨drawing, game, leaves, drawing.renderLine_of_pair lines two⟩
  intro fine
  rw [scanning.backgroundIdx (x + 2) (by omega) (by omega) inside,
    scanning.linePixel_eq (by omega), shown]
  by_cases early : 8 ≤ fine + x
  · have same : x + 2 - 2 + fine = fine + x := by omega
    rw [if_neg (by omega), same]
    exact ⟨fun _ => Or.inl early, fun _ => rfl⟩
  · have next : x + 2 - 1 + fine = fine + x + 1 := by omega
    rw [if_pos (by omega), next]
    exact ⟨fun same => Or.inr same, fun either => either.resolve_left early⟩

/-- A picture whose first tile has its leftmost pixel set and whose second tile the next one;
all other pixels are blank. -/
def twoDots : Memories :=
  { Memories.blank with
    vram := ⟨fun cell => if cell = 0 then 1 else if cell = 1 then 2 else 0, 0⟩
    chrRom := ⟨fun cell => if cell = 0x10 then 0x80 else if cell = 0x20 then 0x40 else 0, 0⟩ }

/-- The pixels of its top line: columns 0 and 9 are set. -/
theorem twoDots_pixel (column : ℕ) (inside : column < 264) :
    linePixel quietDots (lineStart twoDots 261) ⟨false, true⟩ column =
      if column = 0 ∨ column = 9 then 1 else 0 := by
  have scanning : Scanning quietDots (lineStart twoDots 261) ⟨false, true⟩ 261 341 := by
    have drawing := drawing_of_quiet (lineStart twoDots 261) 261 341 rfl rfl rfl
    exact ⟨drawing, fun _ _ => rfl, fun _ _ => rfl, drawing.renderLine_of_frame (by decide)⟩
  have contents : (dotRun quietDots (lineStart twoDots 261) 2).mem.contents =
      twoDots.contents :=
    contents_of_quiet (lineStart twoDots 261) rfl rfl
  rw [linePixel, contents, scanning.address (by decide) 341 (by decide) (by decide)]
  revert column
  decide +kernel

/-- No latency shows every column of this picture: with latency 2 column 0 shows the next
pixel, and with any other the two set pixels come out on the wrong dots. -/
theorem twoDots_not_shown :
    ¬ ∃ latency ≤ 256, ∀ x, 1 ≤ x + latency → x + latency ≤ 256 →
      (dotRun quietDots (lineStart twoDots 261) (341 + (x + latency))).ppu.backgroundIdx =
        linePixel quietDots (lineStart twoDots 261) ⟨false, true⟩ x := by
  have scanning : Scanning quietDots (lineStart twoDots 261) ⟨false, true⟩ 261 682 := by
    have drawing := drawing_of_quiet (lineStart twoDots 261) 261 682 rfl rfl rfl
    exact ⟨drawing, fun _ _ => rfl, fun _ _ => rfl, drawing.renderLine_of_frame (by decide)⟩
  have shows (dot : ℕ) (later : 1 ≤ dot) (early : dot ≤ 256) :
      (dotRun quietDots (lineStart twoDots 261) (341 + dot)).ppu.backgroundIdx =
        if shown dot 0 = 0 ∨ shown dot 0 = 9 then 1 else 0 := by
    have inside : shown dot 0 < 264 := by
      unfold shown
      split <;> omega
    rw [scanning.backgroundIdx dot later (by omega) (by omega), scanning.linePixel_eq (by decide)]
    exact twoDots_pixel (shown dot 0) inside
  rintro ⟨latency, few, all⟩
  have column (x : ℕ) (inside : x < 264) (later : 1 ≤ x + latency) (early : x + latency ≤ 256) :
      (shown (x + latency) 0 = 0 ∨ shown (x + latency) 0 = 9) ↔ (x = 0 ∨ x = 9) := by
    have same := all x later early
    rw [shows _ later early, twoDots_pixel x inside] at same
    by_cases left : shown (x + latency) 0 = 0 ∨ shown (x + latency) 0 = 9 <;>
      by_cases right : x = 0 ∨ x = 9 <;> simp_all
  by_cases none : latency = 0
  · have wrong := column 1 (by decide) (by omega) (by omega)
    rw [none] at wrong
    exact absurd wrong (by decide)
  · by_cases one : latency = 1
    · have wrong := column 9 (by decide) (by omega) (by omega)
      rw [one] at wrong
      exact absurd wrong (by decide)
    · by_cases eleven : latency = 11
      · have wrong := column 9 (by decide) (by omega) (by omega)
        rw [eleven] at wrong
        exact absurd wrong (by decide)
      · have wrong := (column 0 (by decide) (by omega) (by omega)).mpr (Or.inl rfl)
        rw [Nat.zero_add, shown] at wrong
        by_cases early : latency + 0 < 10
        · rw [if_pos early] at wrong
          omega
        · rw [if_neg early] at wrong
          omega

/-- On the top line of this picture the columns from 8 on have their place, and so has
column 3, whose neighbour is as blank. -/
theorem twoDots_shown :
    (dotRun quietDots (lineStart twoDots 261) (341 + (9 + 2))).ppu.backgroundIdx = 1 ∧
      (dotRun quietDots (lineStart twoDots 261) (341 + (3 + 2))).ppu.backgroundIdx = 0 := by
  have column (x : ℕ) (visible : x + 2 ≤ 11) :=
    background_shown_iff quietDots (lineStart twoDots 261) ⟨false, true⟩ 261 352 x
      (drawing_of_quiet _ _ _ rfl rfl rfl) (Or.inl rfl) (by decide) (fun _ _ => rfl)
      (fun _ _ => rfl) (by omega) (by omega)
  have nine := (column 9 (by decide)).mpr (Or.inl (by decide))
  have same : linePixel quietDots (lineStart twoDots 261) ⟨false, true⟩ (0 + 3 + 1) =
      linePixel quietDots (lineStart twoDots 261) ⟨false, true⟩ (0 + 3) := by
    rw [twoDots_pixel _ (by decide), twoDots_pixel _ (by decide)]
    rfl
  have three := (column 3 (by decide)).mpr (Or.inr same)
  exact ⟨nine.trans (twoDots_pixel 9 (by decide)), three.trans (twoDots_pixel 3 (by decide))⟩

end

end Nes

end FpgaNes
