import FpgaNes.HitRegisters

/-!
# The window of the sprite 0 hit

The hit may rise on the dots of columns 0 to 254 of the visible lines only, and on those of
the first eight columns only with both edges shown. The composition has no such window: it
looks for the hit on dots 1 to 257 of every line, and gives up the first columns only when
neither edge is shown. So the hit is raised beside the window by what line 239 has left in the
registers, by the unit that the pre-render line shifts, by a flag that rendering has not cleared on
dot 0, and in column 255. The hit keeps to the window exactly when none of these happens.
-/

namespace FpgaNes

open Hdl

namespace Ppu

variable (ppu : Ppu)

/-- The hit may rise: column `dot - 2` is one of columns 0 to 254 of a visible line, and one
of the first eight only with both edges shown. -/
def inWindow : Prop :=
  ppu.scanline.toNat ≤ 239 ∧ 2 ≤ ppu.engine.cycle.toNat ∧ ppu.engine.cycle.toNat ≤ 256 ∧
    (ppu.engine.cycle.toNat ≤ 9 →
      ppu.cpu.showEdgeSprites = true ∧ ppu.cpu.showEdgeBackground = true)

/-- Dot 1 of the pre-render line, which clears the hit. -/
def clearDot : Prop := ppu.engine.cycle.toNat = 1 ∧ ppu.scanline.toNat = 261

/-- An armed overlap where the hit may not rise: on a line that is not visible, on the dots
beside columns 0 to 254, or in the first eight columns with an edge hidden. -/
structure Stray (ppu : Ppu) : Prop where
  /-- Evaluation has found entry 0. -/
  armed : ppu.eval.sprite0HitPossible = true
  /-- Unit 0 overlaps the background. -/
  overlaps : ppu.overlap = true
  /-- The dot is beside the window. -/
  place : 240 ≤ ppu.scanline.toNat ∨ ppu.engine.cycle.toNat = 1 ∨
    ppu.engine.cycle.toNat = 257 ∨
    ppu.engine.cycle.toNat ≤ 9 ∧ ppu.cpu.showEdgeSprites ≠ ppu.cpu.showEdgeBackground ∨
    ppu.engine.cycle.toNat = 9 ∧ ppu.cpu.showEdgeSprites = false ∧
      ppu.cpu.showEdgeBackground = false

/-- An armed overlap is in the window or astray. -/
theorem stray_of_overlap (armed : ppu.eval.sprite0HitPossible = true)
    (overlaps : ppu.overlap = true) : ppu.Stray ↔ ¬ ppu.inWindow := by
  have dots := ppu.cycle_of_overlap overlaps
  have left : ppu.cpu.showEdgeSprites = false → ppu.cpu.showEdgeBackground = false →
      9 ≤ ppu.engine.cycle.toNat := by
    intro sprites background
    rw [overlap, Bool.and_eq_true, hitDot, sprites, background] at overlaps
    have window : (decide (9 ≤ ppu.engine.cycle.toNat) &&
      decide (ppu.engine.cycle.toNat < 258)) = true := overlaps.2
    exact of_decide_eq_true (Bool.and_eq_true_iff.mp window).1
  have place : (240 ≤ ppu.scanline.toNat ∨ ppu.engine.cycle.toNat = 1 ∨
      ppu.engine.cycle.toNat = 257 ∨
      ppu.engine.cycle.toNat ≤ 9 ∧ ppu.cpu.showEdgeSprites ≠ ppu.cpu.showEdgeBackground ∨
      ppu.engine.cycle.toNat = 9 ∧ ppu.cpu.showEdgeSprites = false ∧
        ppu.cpu.showEdgeBackground = false) ↔ ¬ ppu.inWindow := by
    unfold inWindow
    cases sprites : ppu.cpu.showEdgeSprites <;>
      cases background : ppu.cpu.showEdgeBackground <;> simp [sprites, background] at left ⊢ <;>
      omega
  constructor
  · intro stray
    exact place.mp stray.place
  · intro outside
    exact ⟨armed, overlaps, place.mpr outside⟩

/-- The hit rises on an armed overlap, out of reset and off the dot that clears it. -/
theorem sprite0HitNext_rises (reset : Bool) (unset : ppu.sprite0Hit = false) :
    ppu.sprite0HitNext reset = true ↔ reset = false ∧ ¬ ppu.clearDot ∧
      ppu.eval.sprite0HitPossible = true ∧ ppu.overlap = true := by
  rw [sprite0HitNext, setSprite0Hit_eq, unset]
  cases reset with
  | true => simp
  | false =>
    rw [if_neg Bool.false_ne_true]
    by_cases clears : ppu.engine.cycle.toNat = 1 ∧ ppu.scanline.toNat = 261
    · rw [if_pos clears]
      exact ⟨fun rises => absurd rises Bool.false_ne_true,
        fun conditions => absurd clears conditions.2.1⟩
    · rw [if_neg clears]
      cases ppu.overlap <;> cases ppu.eval.sprite0HitPossible <;> simp [clearDot, clears]

end Ppu

namespace Nes

section

variable (mem : Memories) (io : ℕ → Dot)

/-- The hit rises with the edge that ends this period. -/
def rises (time : ℕ) : Prop :=
  (reached mem io time).ppu.sprite0Hit = false ∧
    (reached mem io (time + 1)).ppu.sprite0Hit = true

/-! ## Overlaps beside the window -/

/-- Unit 0, where it is opaque, meets an opaque pixel of these background registers: both layers
are enabled, and the composition looks for the hit on this dot. -/
structure Lit (time : ℕ) (bg : Background) : Prop where
  /-- The background pixel under the fine X is opaque. -/
  background : bg.opaquePixels.getLsbD
    (15 - (reached mem io time).ppu.cpu.fineX.toNat) = true
  /-- Both layers are enabled. -/
  layers : (reached mem io time).ppu.cpu.backgroundRenderEnable = true ∧
    (reached mem io time).ppu.cpu.spriteRenderEnable = true
  /-- The composition looks for the hit on this dot. -/
  window : 1 ≤ (reached mem io time).ppu.engine.cycle.toNat ∧
    (reached mem io time).ppu.engine.cycle.toNat ≤ 257 ∧
      ((reached mem io time).ppu.cpu.showEdgeSprites = true ∨
        (reached mem io time).ppu.cpu.showEdgeBackground = true ∨
          9 ≤ (reached mem io time).ppu.engine.cycle.toNat)

/-- What raises the hit where it may not rise.
* On lines 240 to 260 nothing moves: the flag, unit 0 and the shifters are as line 239 has left
  them, and the hit is raised as soon as `$2005` and `$2001` let the pixel through.
* The pre-render line shifts the unit that line 239 has left over a background of its own, while
  evaluation looks at entry 0 once more.
* At the left edge of a visible line evaluation has not looked at any entry yet: the flag stands
  only where rendering was disabled on dot 0, and enabled since.
* Column 255 is drawn on dot 257, with the entry found on this line. -/
inductive Astray (time : ℕ) : Prop
  | frozen (idle : 240 ≤ (reached mem io time).ppu.scanline.toNat ∧
        (reached mem io time).ppu.scanline.toNat ≤ 260)
      (stood : (reached mem io (pictureEnd mem io time)).ppu.eval.sprite0HitPossible = true)
      (shows : (reached mem io (pictureEnd mem io time)).ppu.units.Shows 0)
      (lit : Lit mem io time (reached mem io (pictureEnd mem io time)).ppu.bg)
  | preRender (line : (reached mem io time).ppu.scanline.toNat = 261)
      (late : 2 ≤ (reached mem io time).ppu.engine.cycle.toNat)
      (found : FoundZero mem io
        (reached mem io (pictureEnd mem io time)).ppu.eval.sprite0HitPossible
        (firstDot mem io time) (reached mem io time).ppu.engine.cycle.toNat)
      (shows : (reached mem io (pictureEnd mem io time)).ppu.units.Shows
        (shifts mem io (firstDot mem io time) (reached mem io time).ppu.engine.cycle.toNat))
      (lit : Lit mem io time (reached mem io time).ppu.bg)
  | left (visible : (reached mem io time).ppu.scanline.toNat ≤ 239)
      (early : (reached mem io time).ppu.engine.cycle.toNat ≤ 9)
      (edge : (reached mem io time).ppu.engine.cycle.toNat = 1 ∨
        ¬ ((reached mem io time).ppu.cpu.showEdgeSprites = true ∧
          (reached mem io time).ppu.cpu.showEdgeBackground = true))
      (stood : (reached mem io (firstDot mem io time)).ppu.eval.sprite0HitPossible = true)
      (disabled : (reached mem io (firstDot mem io time)).ppu.renderEnable = false)
      (shows : (reached mem io (firstDot mem io time)).ppu.units.Shows
        (shifts mem io (firstDot mem io time) (reached mem io time).ppu.engine.cycle.toNat))
      (lit : Lit mem io time (reached mem io time).ppu.bg)
  | right (visible : (reached mem io time).ppu.scanline.toNat ≤ 239)
      (last : (reached mem io time).ppu.engine.cycle.toNat = 257)
      (found : FoundZero mem io
        (reached mem io (firstDot mem io time)).ppu.eval.sprite0HitPossible
        (firstDot mem io time) 257)
      (shows : (reached mem io (firstDot mem io time)).ppu.units.Shows
        (shifts mem io (firstDot mem io time) 257))
      (lit : Lit mem io time (reached mem io time).ppu.bg)

/-- An overlap is a pixel of unit 0 that is lit. -/
theorem overlap_iff_lit (time : ℕ) :
    (reached mem io time).ppu.overlap = true ↔
      (reached mem io time).ppu.opaqueUnit 0 = true ∧
        Lit mem io time (reached mem io time).ppu.bg := by
  rw [Ppu.overlap_iff, Ppu.hitDot_iff]
  apply and_congr_right
  intro _
  constructor
  · rintro ⟨background, layers, window⟩
    exact ⟨background, layers, window⟩
  · rintro ⟨background, layers, window⟩
    exact ⟨background, layers, window⟩

/-- On the picture of a line the hit is armed and overlaps by what the line started with. -/
theorem armed_overlap_iff {time : ℕ} (drawn : (reached mem io time).ppu.renderLine = true) :
    (reached mem io time).ppu.eval.sprite0HitPossible = true ∧
        (reached mem io time).ppu.overlap = true ↔
      FoundZero mem io (reached mem io (firstDot mem io time)).ppu.eval.sprite0HitPossible
          (firstDot mem io time) (reached mem io time).ppu.engine.cycle.toNat ∧
        (reached mem io (firstDot mem io time)).ppu.units.Shows
          (shifts mem io (firstDot mem io time) (reached mem io time).ppu.engine.cycle.toNat) ∧
        Lit mem io time (reached mem io time).ppu.bg := by
  rw [overlap_iff_lit, ← and_assoc, ← and_assoc]
  apply and_congr_left
  intro lit
  obtain ⟨same, line⟩ := onLine_firstDot mem io time
  obtain ⟨positive, inside, -⟩ := lit.window
  have scanline : (reached mem io (firstDot mem io time)).ppu.scanline =
      (reached mem io time).ppu.scanline := line.scanline 0 (Nat.zero_le _)
  have starts : (reached mem io (firstDot mem io time)).ppu.renderLine = true := by
    rw [Ppu.renderLine, scanline]
    exact drawn
  generalize (reached mem io time).ppu.engine.cycle.toNat = dot at *
  generalize firstDot mem io time = first at *
  subst same
  obtain ⟨before, rfl⟩ := Nat.exists_eq_succ_of_ne_zero (show dot ≠ 0 by omega)
  exact and_congr (line.found mem io starts (by omega))
    (Ppu.opaqueUnit_of_shifted _ (line.shifted mem io starts inside))

/-- Below the picture the hit is armed and overlaps by what line 239 has left. -/
theorem armed_overlap_idle {time : ℕ} (idle : 240 ≤ (reached mem io time).ppu.scanline.toNat ∧
      (reached mem io time).ppu.scanline.toNat ≤ 260) :
    (reached mem io time).ppu.eval.sprite0HitPossible = true ∧
        (reached mem io time).ppu.overlap = true ↔
      (reached mem io (pictureEnd mem io time)).ppu.eval.sprite0HitPossible = true ∧
        (reached mem io (pictureEnd mem io time)).ppu.units.Shows 0 ∧
        Lit mem io time (reached mem io (pictureEnd mem io time)).ppu.bg := by
  have held := hitRegisters_idle mem io idle.1 (.inl idle.2)
  have possible : (reached mem io time).ppu.eval.sprite0HitPossible =
      (reached mem io (pictureEnd mem io time)).ppu.eval.sprite0HitPossible :=
    congrArg HitRegisters.possible held
  have units : (reached mem io time).ppu.units =
      (reached mem io (pictureEnd mem io time)).ppu.units := congrArg HitRegisters.units held
  have bg : (reached mem io time).ppu.bg = (reached mem io (pictureEnd mem io time)).ppu.bg :=
    congrArg HitRegisters.bg held
  have shows := (reached mem io time).ppu.opaqueUnit_of_shifted
    (.loaded rfl fun _ => rfl : (reached mem io time).ppu.units.Shifted 0 _ _ 0)
  rw [units] at shows
  rw [overlap_iff_lit, shows, possible, bg]

/-- On the pre-render line it is and does by what line 239 has left, and by what the line finds. -/
theorem armed_overlap_preRender {time : ℕ}
    (line : (reached mem io time).ppu.scanline.toNat = 261) :
    (reached mem io time).ppu.eval.sprite0HitPossible = true ∧
        (reached mem io time).ppu.overlap = true ↔
      FoundZero mem io (reached mem io (pictureEnd mem io time)).ppu.eval.sprite0HitPossible
          (firstDot mem io time) (reached mem io time).ppu.engine.cycle.toNat ∧
        (reached mem io (pictureEnd mem io time)).ppu.units.Shows
          (shifts mem io (firstDot mem io time) (reached mem io time).ppu.engine.cycle.toNat) ∧
        Lit mem io time (reached mem io time).ppu.bg := by
  have drawn : (reached mem io time).ppu.renderLine = true := by
    rw [Ppu.renderLine, Bool.or_eq_true, decide_eq_true_eq, beq_iff_eq]
    exact .inr line
  have start := hitRegisters_preRender mem io line
  have possible : (reached mem io (firstDot mem io time)).ppu.eval.sprite0HitPossible =
      (reached mem io (pictureEnd mem io time)).ppu.eval.sprite0HitPossible :=
    congrArg HitRegisters.possible start
  have units : (reached mem io (firstDot mem io time)).ppu.units =
      (reached mem io (pictureEnd mem io time)).ppu.units := congrArg HitRegisters.units start
  rw [armed_overlap_iff mem io drawn, possible, units]

/-- On the visible lines it is and does by what the line started with. -/
theorem armed_overlap_visible {time : ℕ}
    (visible : (reached mem io time).ppu.scanline.toNat ≤ 239) :
    (reached mem io time).ppu.eval.sprite0HitPossible = true ∧
        (reached mem io time).ppu.overlap = true ↔
      FoundZero mem io (reached mem io (firstDot mem io time)).ppu.eval.sprite0HitPossible
          (firstDot mem io time) (reached mem io time).ppu.engine.cycle.toNat ∧
        (reached mem io (firstDot mem io time)).ppu.units.Shows
          (shifts mem io (firstDot mem io time) (reached mem io time).ppu.engine.cycle.toNat) ∧
        Lit mem io time (reached mem io time).ppu.bg := by
  apply armed_overlap_iff
  rw [Ppu.renderLine, Bool.or_eq_true, decide_eq_true_eq]
  exact .inl (by omega)

/-- An armed overlap beside the window on a visible line is at its left or in column 255. -/
theorem astray_visible {time : ℕ} (stray : (reached mem io time).ppu.Stray)
    (visible : (reached mem io time).ppu.scanline.toNat ≤ 239) : Astray mem io time := by
  obtain ⟨found, shows, lit⟩ :=
    (armed_overlap_visible mem io visible).mp ⟨stray.armed, stray.overlaps⟩
  have place := stray.place
  by_cases early : (reached mem io time).ppu.engine.cycle.toNat ≤ 9
  · -- Evaluation finds nothing this early.
    obtain ⟨stood, disabled⟩ := found.resolve_right (by
      rintro ⟨k, late, below, -⟩
      omega)
    refine .left visible early ?_ stood disabled shows lit
    rcases place with above | first | right | edge | neither
    · omega
    · exact .inl first
    · omega
    · exact .inr fun both => edge.2 (both.1.trans both.2.symm)
    · exact .inr fun both => Bool.false_ne_true (neither.2.1.symm.trans both.1)
  · have dot : (reached mem io time).ppu.engine.cycle.toNat = 257 := by
      omega
    rw [dot] at found shows
    exact .right visible dot found shows lit

/-- An armed overlap beside the window, off the dot that clears the hit, has a cause. -/
theorem astray_of_stray {time : ℕ} (stray : (reached mem io time).ppu.Stray)
    (other : ¬ (reached mem io time).ppu.clearDot) : Astray mem io time := by
  have last := reached_scanline mem io time
  by_cases visible : (reached mem io time).ppu.scanline.toNat ≤ 239
  · exact astray_visible mem io stray visible
  · by_cases line : (reached mem io time).ppu.scanline.toNat = 261
    · obtain ⟨found, shows, lit⟩ :=
        (armed_overlap_preRender mem io line).mp ⟨stray.armed, stray.overlaps⟩
      have late : 2 ≤ (reached mem io time).ppu.engine.cycle.toNat := by
        have positive := lit.window.1
        have apart : ¬ ((reached mem io time).ppu.engine.cycle.toNat = 1 ∧ _) := other
        omega
      exact .preRender line late found shows lit
    · have idle : 240 ≤ (reached mem io time).ppu.scanline.toNat ∧
          (reached mem io time).ppu.scanline.toNat ≤ 260 := by
        omega
      obtain ⟨stood, shows, lit⟩ :=
        (armed_overlap_idle mem io idle).mp ⟨stray.armed, stray.overlaps⟩
      exact .frozen idle stood shows lit

/-- What is lit at the left edge, but not with both edges shown past dot 1, is beside the
window. -/
theorem Lit.beside {time : ℕ} {bg : Background} (lit : Lit mem io time bg)
    (early : (reached mem io time).ppu.engine.cycle.toNat ≤ 9)
    (apart : ¬ ((reached mem io time).ppu.cpu.showEdgeSprites = true ∧
      (reached mem io time).ppu.cpu.showEdgeBackground = true)) :
    (reached mem io time).ppu.engine.cycle.toNat ≤ 9 ∧
        (reached mem io time).ppu.cpu.showEdgeSprites ≠
          (reached mem io time).ppu.cpu.showEdgeBackground ∨
      (reached mem io time).ppu.engine.cycle.toNat = 9 ∧
        (reached mem io time).ppu.cpu.showEdgeSprites = false ∧
          (reached mem io time).ppu.cpu.showEdgeBackground = false := by
  have window := lit.window.2.2
  cases sprites : (reached mem io time).ppu.cpu.showEdgeSprites <;>
    cases background : (reached mem io time).ppu.cpu.showEdgeBackground <;>
    simp [sprites, background] at apart window ⊢ <;> omega

/-- Each cause raises an armed overlap beside the window, off the dot that clears the hit. -/
theorem Astray.stray {time : ℕ} (astray : Astray mem io time) :
    (reached mem io time).ppu.Stray ∧ ¬ (reached mem io time).ppu.clearDot := by
  cases astray with
  | frozen idle stood shows lit =>
    obtain ⟨armed, overlaps⟩ := (armed_overlap_idle mem io idle).mpr ⟨stood, shows, lit⟩
    refine ⟨⟨armed, overlaps, .inl idle.1⟩, fun clears => ?_⟩
    have line := clears.2
    omega
  | preRender line late found shows lit =>
    obtain ⟨armed, overlaps⟩ := (armed_overlap_preRender mem io line).mpr ⟨found, shows, lit⟩
    refine ⟨⟨armed, overlaps, .inl (by omega)⟩, fun clears => ?_⟩
    have first := clears.1
    omega
  | left visible early edge stood disabled shows lit =>
    obtain ⟨armed, overlaps⟩ :=
      (armed_overlap_visible mem io visible).mpr ⟨.inl ⟨stood, disabled⟩, shows, lit⟩
    refine ⟨⟨armed, overlaps, ?_⟩, fun clears => ?_⟩
    · rcases edge with first | apart
      · exact .inr (.inl first)
      · exact .inr (.inr (.inr (lit.beside mem io early apart)))
    · have line := clears.2
      omega
  | right visible dot found shows lit =>
    rw [← dot] at found shows
    obtain ⟨armed, overlaps⟩ := (armed_overlap_visible mem io visible).mpr ⟨found, shows, lit⟩
    refine ⟨⟨armed, overlaps, .inr (.inr (.inl dot))⟩, fun clears => ?_⟩
    have line := clears.2
    omega

/-- An armed overlap beside the window, off the dot that clears the hit, has one of these
causes. -/
theorem astray_iff (time : ℕ) :
    (reached mem io time).ppu.Stray ∧ ¬ (reached mem io time).ppu.clearDot ↔
      Astray mem io time :=
  ⟨fun conditions => astray_of_stray mem io conditions.1 conditions.2, Astray.stray mem io⟩

/-- When the hit rises. -/
theorem rises_iff (time : ℕ) : rises mem io time ↔
    (io time).pins.reset = false ∧ (reached mem io time).ppu.sprite0Hit = false ∧
      ¬ (reached mem io time).ppu.clearDot ∧
      (reached mem io time).ppu.eval.sprite0HitPossible = true ∧
      (reached mem io time).ppu.overlap = true := by
  have next : (reached mem io (time + 1)).ppu.sprite0Hit =
      (reached mem io time).ppu.sprite0HitNext (io time).pins.reset := rfl
  rw [rises, next]
  constructor
  · rintro ⟨unset, set⟩
    obtain ⟨reset, others⟩ := (Ppu.sprite0HitNext_rises _ _ unset).mp set
    exact ⟨reset, unset, others⟩
  · rintro ⟨reset, unset, others⟩
    exact ⟨unset, (Ppu.sprite0HitNext_rises _ _ unset).mpr ⟨reset, others⟩⟩

/-- A hit that keeps to the window stays clear from the pre-render line to line 0. -/
theorem clear_of_window (n : ℕ)
    (window : ∀ time < n, rises mem io time → (reached mem io time).ppu.inWindow)
    (cleared : ℕ) (clear : (reached mem io cleared).ppu.clearDot) (time : ℕ)
    (after : cleared < time) (le : time ≤ n)
    (early : ∀ k, cleared < k → k < time → (reached mem io k).ppu.scanline.toNat ≠ 0) :
    (reached mem io time).ppu.sprite0Hit = false := by
  have stays : (reached mem io time).ppu.sprite0Hit = false ∧
      ((reached mem io time).ppu.scanline.toNat = 261 ∨
        (reached mem io time).ppu.scanline.toNat = 0) := by
    refine trace_from (fun _ (nes : Nes) => nes.ppu.sprite0Hit = false ∧
      (nes.ppu.scanline.toNat = 261 ∨ nes.ppu.scanline.toNat = 0)) (cleared + 1)
      ⟨?_, reached_preRender mem io cleared clear.2⟩ time after fun k late below before => ?_
    · show (reached mem io cleared).ppu.sprite0HitNext (io cleared).pins.reset = false
      have dot : (reached mem io cleared).ppu.engine.cycle.toNat = 1 ∧
          (reached mem io cleared).ppu.scanline.toNat = 261 := clear
      rw [Ppu.sprite0HitNext, if_pos dot, ite_self]
    · have line : (reached mem io k).ppu.scanline.toNat = 261 :=
        before.2.resolve_right (early k (by omega) below)
      refine ⟨?_, reached_preRender mem io k line⟩
      by_contra set
      have inside := window k (by omega) ⟨before.1, Bool.eq_true_of_not_eq_false set⟩
      have visible := inside.1
      omega
  exact stays.1

/-- Over every run from power-up: the hit rises in its window only, and so stays clear from
the dot that clears it to line 0, exactly when no dot of the run out of reset, with the hit clear,
has one of the causes that raise it beside the window. -/
theorem hit_in_window_iff (n : ℕ) :
    ((∀ time < n, rises mem io time → (reached mem io time).ppu.inWindow) ∧
      ∀ cleared time, (reached mem io cleared).ppu.clearDot → cleared < time → time ≤ n →
        (∀ k, cleared < k → k < time → (reached mem io k).ppu.scanline.toNat ≠ 0) →
        (reached mem io time).ppu.sprite0Hit = false) ↔
      ∀ time < n, (io time).pins.reset = false → (reached mem io time).ppu.sprite0Hit = false →
        ¬ Astray mem io time := by
  constructor
  · rintro ⟨window, -⟩ time below reset unset astray
    obtain ⟨stray, other⟩ := (astray_iff mem io time).mpr astray
    have rise := (rises_iff mem io time).mpr ⟨reset, unset, other, stray.armed, stray.overlaps⟩
    exact (Ppu.stray_of_overlap _ stray.armed stray.overlaps).mp stray (window time below rise)
  · intro condition
    have window (time : ℕ) (below : time < n) (rise : rises mem io time) :
        (reached mem io time).ppu.inWindow := by
      obtain ⟨reset, unset, other, armed, overlaps⟩ := (rises_iff mem io time).mp rise
      by_contra outside
      have stray := (Ppu.stray_of_overlap _ armed overlaps).mpr outside
      exact condition time below reset unset ((astray_iff mem io time).mp ⟨stray, other⟩)
    exact ⟨window, fun cleared time clear after le early =>
      clear_of_window mem io n window cleared clear time after le early⟩

end

/-! ## A hit beside the window -/

/-- A console at rest with a solid picture: nothing is written, and no sprite is loaded. -/
structure Resting (nes : Nes) : Prop where
  /-- No DMA runs. -/
  free : nes.dma.dmaActive = false
  /-- No write is performed. -/
  pulse : nes.ppuWrite = false
  /-- No write waits. -/
  still : nes.ppu.waiting .write = false
  /-- No sprite is loaded. -/
  blank : ∀ slot plane, nes.ppu.units.spriteShifters slot plane = 0
  /-- The hit is clear. -/
  unset : nes.ppu.sprite0Hit = false
  /-- The memories are as at power-up. -/
  contents : nes.mem.contents = solidMemories.contents

/-- With rendering disabled and no access of the memory port the console stays at rest. -/
theorem Resting.step {nes : Nes} (resting : Resting nes) (dot : Dot) (running : dot.pins.Running)
    (unprogrammed : dot.pins.chrRomPrgmrWren = false) (disabled : nes.ppu.renderEnable = false)
    (other : dot.bus.writes 7 = false) (idle : dot.bus.startsDma = false) :
    Resting (nes.ppuClock dot.pins dot.bus dot.cpuEdge) := by
  have layers := disabled
  rw [Ppu.renderEnable, Bool.or_eq_false_iff] at layers
  refine ⟨?_, ?_, ?_, ?_, ?_, ?_⟩
  · rw [ppuClock_dma]
    cases dot.cpuEdge with
    | false => exact resting.free
    | true =>
      have held := dmaNext_of_free dot.pins (nes.settle dot.pins dot.bus) resting.free idle
      exact (congrArg Dma.dmaActive held).trans resting.free
  · have handles := nes.ppu.accessNext_handles (nes.cpuControl dot.bus)
      (nes.settledData dot.pins dot.bus)
    rw [ppuWrite, ppuClock_access, running.reset, running.enable]
    exact handles.1.trans resting.still
  · rw [waiting_ppuClock dot.bus nes running, asks_of_free resting.free, resting.still]
    show (_ && dot.bus.writes 7 ^^ (false && _)) = false
    rw [other, Bool.and_false, Bool.false_and, Bool.xor_self]
  · have held : (nes.ppuClock dot.pins dot.bus dot.cpuEdge).ppu.units = nes.ppu.units := by
      rw [ppuClock_units, running.reset, Ppu.unitsNext, if_neg Bool.false_ne_true, disabled,
        Bool.false_and, if_neg Bool.false_ne_true]
    rw [held]
    exact resting.blank
  · rw [ppuClock_sprite0Hit]
    by_contra set
    have rise := (Ppu.sprite0HitNext_rises _ _ resting.unset).mp
      (Bool.eq_true_of_not_eq_false set)
    have overlaps := rise.2.2.2
    rw [Ppu.overlap, layers.1, Bool.false_and, Bool.and_false, Bool.false_and] at overlaps
    exact Bool.false_ne_true overlaps
  · rw [ppuClock_contents _ _ _ _ unprogrammed, stored, resting.pulse]
    exact resting.contents

/-- Bus cycles that put entry 0 in a column, and enable rendering with line 1. -/
def edgeInput (x : Byte) (cycle : ℕ) : Input :=
  if cycle = 0 then .write 0x2003 3
  else if cycle = 1 then .write 0x2004 x
  else if cycle = 113 then .write 0x2001 0x1E
  else .read 0x8000

/-- The dots of these bus cycles. -/
def edgeDots (x : Byte) (time : ℕ) : Dot := ⟨edgeInput x (time / 3), time % 3 == 2⟩

/-- The CPU interface after a number of these bus cycles. -/
def edgeCpu (x : Byte) (cycles : ℕ) : CpuInterface :=
  let powered := (powerUp solidMemories).ppu.cpu
  let addressed := powered.write 3 3
  let stored := addressed.write 4 x
  if cycles = 0 then powered
  else if cycles = 1 then addressed
  else if cycles < 114 then stored
  else stored.write 1 0x1E

/-- These bus cycles keep off the memory port and start no DMA. -/
theorem edgeInput_quiet (x : Byte) (cycle : ℕ) : (edgeInput x cycle).pins = .playing ∧
    (edgeInput x cycle).bus.writes 7 = false ∧ (edgeInput x cycle).bus.startsDma = false := by
  unfold edgeInput
  split
  · exact ⟨rfl, by decide, by decide⟩
  · split
    · -- what is written does not matter
      have quiet : (Input.write 0x2004 0).bus.writes 7 = false ∧
          (Input.write 0x2004 0).bus.startsDma = false := by decide
      exact ⟨rfl, quiet⟩
    · split
      · exact ⟨rfl, by decide, by decide⟩
      · exact ⟨rfl, by decide, by decide⟩

/-- Rendering stays disabled over the first line. -/
theorem edgeCpu_disabled (x : Byte) (cycles : ℕ) (early : cycles < 114) :
    (edgeCpu x cycles).backgroundRenderEnable = false ∧
      (edgeCpu x cycles).spriteRenderEnable = false := by
  unfold edgeCpu
  split
  · exact ⟨rfl, rfl⟩
  · split
    · exact ⟨rfl, rfl⟩
    · exact ⟨rfl, rfl⟩

/-- What each bus cycle does to the CPU interface. -/
theorem edgeCpu_succ (x : Byte) (cycle : ℕ) (early : cycle < 114) :
    (edgeInput x cycle).bus.act (edgeCpu x cycle) = edgeCpu x (cycle + 1) := by
  have writes (addr : BitVec 16) (data : Byte) (inside : ppuRange addr = true)
      (r : CpuInterface) :
      (Input.write addr data).bus.act r = r.write (addr.setWidth 3) data := if_pos inside
  by_cases zero : cycle = 0
  · subst zero
    exact writes 0x2003 3 (by decide) _
  · by_cases one : cycle = 1
    · subst one
      exact writes 0x2004 x (by decide) _
    · by_cases last : cycle = 113
      · subst last
        exact writes 0x2001 0x1E (by decide) _
      · have bus : (edgeInput x cycle).bus = ⟨0x8000, 0, true⟩ := by
          rw [edgeInput, if_neg zero, if_neg one, if_neg last]
          rfl
        have held : edgeCpu x cycle = edgeCpu x (cycle + 1) := by
          rw [edgeCpu, edgeCpu, if_neg zero, if_neg one, if_pos early,
            if_neg (by omega), if_neg (by omega), if_pos (by omega)]
        rw [bus]
        exact held

/-- The console rests until rendering is enabled. -/
theorem edge_resting (x : Byte) (time : ℕ) (early : time ≤ 342) :
    Resting (reached solidMemories (edgeDots x) time) ∧
      (reached solidMemories (edgeDots x) time).ppu.cpu = edgeCpu x (time / 3) := by
  refine trace_invariant (fun time (nes : Nes) => Resting nes ∧ nes.ppu.cpu = edgeCpu x (time / 3))
    ⟨⟨rfl, rfl, rfl, fun _ _ => rfl, rfl, rfl⟩, rfl⟩ time fun i below before => ?_
  obtain ⟨resting, cpu⟩ := before
  obtain ⟨pins, other, idle⟩ := edgeInput_quiet x (i / 3)
  have disabled := edgeCpu_disabled x (i / 3) (by omega)
  rw [← cpu] at disabled
  have running : (edgeDots x i).pins.Running := by
    show (edgeInput x (i / 3)).pins.Running
    rw [pins]
    exact ⟨rfl, rfl⟩
  have unprogrammed : (edgeDots x i).pins.chrRomPrgmrWren = false := by
    show (edgeInput x (i / 3)).pins.chrRomPrgmrWren = false
    rw [pins]
    rfl
  refine ⟨resting.step (edgeDots x i) running unprogrammed (Bool.or_eq_false_iff.mpr disabled)
    other idle, ?_⟩
  rw [trace_succ, ppuClock_cpu]
  by_cases last : i % 3 = 2
  · have rising : (edgeDots x i).cpuEdge = true := beq_iff_eq.mpr last
    have edge := cpuNext_of_bus (edgeDots x i).bus
      (settle (edgeDots x i).pins (edgeDots x i).bus (reached solidMemories (edgeDots x) i))
      running resting.free
    rw [settle_ppu] at edge
    have count : (i + 1) / 3 = i / 3 + 1 := by omega
    rw [rising, if_pos rfl, count, ← edgeCpu_succ x (i / 3) (by omega)]
    rw [← cpu]
    exact edge
  · have low : (edgeDots x i).cpuEdge = false := beq_eq_false_iff_ne.mpr last
    have count : (i + 1) / 3 = i / 3 := by omega
    rw [low, if_neg Bool.false_ne_true, count]
    exact cpu

/-- Line 1 starts as rendering is enabled. -/
theorem edge_engine (x : Byte) : (reached solidMemories (edgeDots x) 342).ppu.engine =
    Engine.on (Beam.after 1 0) := by
  have first : (reached solidMemories (edgeDots x) 1).ppu.engine = Engine.on (Beam.after 0 0) :=
    Ppu.engineNext_rest _ rfl
  have running (i : ℕ) (_ : i < 341) : (edgeDots x (1 + i)).pins.Running := by
    show (edgeInput x ((1 + i) / 3)).pins.Running
    rw [(edgeInput_quiet x _).1]
    exact ⟨rfl, rfl⟩
  have later := dotRun_engine (fun i => edgeDots x (1 + i))
    (reached solidMemories (edgeDots x) 1) 0 341 running first
  have line : Beam.after 0 341 = Beam.after 1 0 := Beam.ext rfl rfl
  rw [line] at later
  have split : reached solidMemories (edgeDots x) (1 + 341) =
      dotRun (fun i => edgeDots x (1 + i)) (reached solidMemories (edgeDots x) 1) 341 :=
    trace_add 1 341
  rw [show 342 = 1 + 341 from rfl, split]
  exact later

/-- From there the console is left alone. -/
theorem edge_run (x : Byte) (time : ℕ) : reached solidMemories (edgeDots x) (342 + time) =
    dotRun quietDots (reached solidMemories (edgeDots x) 342) time := by
  have quiet : (fun i => edgeDots x (342 + i)) = quietDots := by
    funext i
    have cycle : (342 + i) / 3 = 114 + i / 3 := by omega
    have phase : (342 + i) % 3 = i % 3 := by omega
    rw [edgeDots, edgeInput, cycle, phase, if_neg (by omega), if_neg (by omega),
      if_neg (by omega)]
    rfl
  have split : reached solidMemories (edgeDots x) (342 + time) =
      dotRun (fun i => edgeDots x (342 + i)) (reached solidMemories (edgeDots x) 342) time :=
    trace_add 342 time
  rw [split, quiet]

/-- Lines 1 and 2 show a solid picture. -/
theorem edge_solid (x : Byte) : Solid quietDots (reached solidMemories (edgeDots x) 342) 1 682 := by
  obtain ⟨resting, cpu⟩ := edge_resting x 342 (by decide)
  have enabled : (reached solidMemories (edgeDots x) 342).ppu.renderEnable = true := by
    rw [Ppu.renderEnable, cpu]
    rfl
  have eight : (reached solidMemories (edgeDots x) 342).ppu.cpu.spriteSize = false := by
    rw [cpu]
    rfl
  have engine := edge_engine x
  -- the state itself stays closed: only what is known of it is used
  generalize reached solidMemories (edgeDots x) 342 = start at *
  exact solid_of_quiet start 1 (by decide) resting.free enabled engine eight resting.pulse
    resting.still resting.contents

/-- Entry 0 raises the hit in its first column, once evaluation has found it. -/
theorem edge_hit (x : Byte) (late : 64 ≤ x.toNat) (time : ℕ) (inside : time ≤ 342 + 682) :
    (reached solidMemories (edgeDots x) time).ppu.sprite0Hit = true ↔
      342 + (341 + (x.toNat + 2)) < time := by
  have column := x.isLt
  by_cases early : time ≤ 342
  · rw [(edge_resting x time early).1.unset]
    refine iff_of_false Bool.false_ne_true ?_
    omega
  obtain ⟨later, rfl⟩ := Nat.exists_eq_add_of_le (show 342 ≤ time by omega)
  rw [edge_run x later]
  have solid := edge_solid x
  obtain ⟨resting, cpu⟩ := edge_resting x 342 (by decide)
  generalize reached solidMemories (edgeDots x) 342 = start at *
  have entry : start.ppu.cpu.oam 0 = spriteEntry 0 0 0 x := by
    rw [cpu]
    funext byte
    have bytes : byte = 0 ∨ byte = 1 ∨ byte = 2 ∨ byte = 3 := by
      revert byte
      decide
    rcases bytes with rfl | rfl | rfl | rfl <;> rfl
  have covered : covers (start.ppu.cpu.oam 0) (dotRun quietDots start 65).ppu.cpu.spriteSize 1 := by
    rw [solid.size 65 (by decide), entry]
    exact ⟨Nat.zero_le 1, (by decide : 1 < 0 + 8 + 8 * false.toNat)⟩
  have slot := solid.pair.secondary_zero covered
  have blank := solid.pair.hit_blank resting.blank
  have position : (start.ppu.cpu.oam 0 3).toNat = x.toNat := by
    rw [entry]
    rfl
  have unset := solid.pair.unset_left covered (blank.trans resting.unset) (x.toNat + 2)
    (by omega) (by omega)
  have overlaps : (dotRun quietDots start (341 + (x.toNat + 2))).ppu.overlap = true := by
    apply solid.overlap (x.toNat + 2) (by omega) (by omega) (by omega)
    · rw [cpu]
      exact ⟨rfl, rfl⟩
    · rw [cpu]
      rfl
    · rw [slot]
      rw [solid.size 65 (by decide)] at covered
      exact covered
    · rw [slot]
      omega
    · rw [slot]
      omega
  have set := solid.hit_of_overlap (x.toNat + 2) (by omega) (by omega) (by
    rw [entry]
    exact ⟨Nat.zero_le 2, (by decide : 2 < 0 + 8 + 8 * false.toNat)⟩) overlaps
  -- nothing clears the hit on the two lines
  have stays (set until' : ℕ) (le : set ≤ until') (below : until' ≤ 682)
      (hit : (dotRun quietDots start set).ppu.sprite0Hit = true) :
      (dotRun quietDots start until').ppu.sprite0Hit = true := by
    refine trace_from (fun _ (nes : Nes) => nes.ppu.sprite0Hit = true) set hit until' le
      fun i _ under before => ?_
    exact (solid.pair.hit_succ i (by omega)).trans (Bool.or_eq_true_iff.mpr (.inl before))
  constructor
  · intro hit
    by_contra before
    have kept := stays later (341 + (x.toNat + 2)) (by omega) (by omega) hit
    exact Bool.false_ne_true (unset.symm.trans kept)
  · intro after
    exact stays (341 + (x.toNat + 2 + 1)) later (by omega) (by omega) set

/-- It is the only rise on the two lines. -/
theorem edge_rises (x : Byte) (late : 64 ≤ x.toNat) (time : ℕ) (inside : time < 342 + 682) :
    rises solidMemories (edgeDots x) time ↔ time = 342 + (341 + (x.toNat + 2)) := by
  rw [rises, ← Bool.not_eq_true, edge_hit x late time (Nat.le_of_lt inside),
    edge_hit x late (time + 1) inside]
  omega

/-- The beam then is on the dot of that column of line 2. -/
theorem edge_beam (x : Byte) :
    (reached solidMemories (edgeDots x) (342 + (341 + (x.toNat + 2)))).ppu.engine.cycle.toNat =
        x.toNat + 2 ∧
      (reached solidMemories (edgeDots x) (342 + (341 + (x.toNat + 2)))).ppu.scanline.toNat =
        2 := by
  have column := x.isLt
  have drawing := (edge_solid x).toDrawing
  have scanline := drawing.scanline (341 + (x.toNat + 2)) (by omega)
  rw [edge_run x]
  refine ⟨drawing.onDot 1 (x.toNat + 2) (by omega) (by omega), scanline.trans ?_⟩
  omega

/-- In columns 64 to 254 the hit keeps to its window. -/
theorem edge_window (x : Byte) (late : 64 ≤ x.toNat) (early : x.toNat ≤ 254) (time : ℕ)
    (inside : time < 342 + 682) (rise : rises solidMemories (edgeDots x) time) :
    (reached solidMemories (edgeDots x) time).ppu.inWindow := by
  have same := (edge_rises x late time inside).mp rise
  obtain ⟨dot, line⟩ := edge_beam x
  rw [same]
  refine ⟨?_, ?_, ?_, ?_⟩ <;> omega

/-- With entry 0 in column 100 the hit rises over that column, and no cause raises it beside the
window. -/
theorem hundredthColumn_hit :
    rises solidMemories (edgeDots 100) (342 + (341 + 102)) ∧
      ∀ time < 342 + 682, (edgeDots 100 time).pins.reset = false →
        (reached solidMemories (edgeDots 100) time).ppu.sprite0Hit = false →
        ¬ Astray solidMemories (edgeDots 100) time := by
  have window := edge_window 100 (by decide) (by decide)
  refine ⟨(edge_rises 100 (by decide) (342 + (341 + 102)) (by decide)).mpr rfl, ?_⟩
  exact (hit_in_window_iff solidMemories (edgeDots 100) (342 + 682)).mp
    ⟨window, fun cleared time clear =>
      clear_of_window solidMemories (edgeDots 100) (342 + 682) window cleared clear time⟩

/-- Entry 0 in column 255 raises the hit on dot 257 of line 2, beside the window. -/
theorem lastColumn_hit :
    ¬ ∀ time, rises solidMemories (edgeDots 0xFF) time →
      (reached solidMemories (edgeDots 0xFF) time).ppu.inWindow := by
  intro window
  have rise := (edge_rises 0xFF (by decide) (342 + (341 + 257)) (by decide)).mpr rfl
  have inside := (window (342 + (341 + 257)) rise).2.2.1
  have dot : (reached solidMemories (edgeDots 0xFF) (342 + (341 + 257))).ppu.engine.cycle.toNat =
      257 := (edge_beam 0xFF).1
  omega

end Nes

end FpgaNes
