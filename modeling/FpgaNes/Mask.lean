import FpgaNes.Composition

/-!
# The mask register

`$2001` has two enables and two bits for the leftmost eight columns. The composition consults
the sprite enable only: a background that is hidden is composed all the same, and sprites
hidden in the leftmost columns are too. What the register asks for is the code's own
composition over shifters of which the hidden ones are empty.
-/

namespace FpgaNes

namespace Ppu

variable (ppu : Ppu)

/-! ## What the register asks for -/

/-- The dots that present the leftmost eight columns of the screen. -/
def edgeDot : Bool := 2 ≤ ppu.engine.cycle.toNat && ppu.engine.cycle.toNat ≤ 9

/-- The register shows the background on this dot. -/
def backgroundShown : Bool :=
  ppu.cpu.backgroundRenderEnable && (!ppu.edgeDot || ppu.cpu.showEdgeBackground)

/-- The register shows sprites on this dot. -/
def spritesShown : Bool :=
  ppu.cpu.spriteRenderEnable && (!ppu.edgeDot || ppu.cpu.showEdgeSprites)

/-- The shifters with the pixels that the register hides made transparent. -/
def masked : Ppu :=
  { ppu with
    bg := if ppu.backgroundShown then ppu.bg else { ppu.bg with ptableData := fun _ => 0 }
    units :=
      if ppu.spritesShown then ppu.units
      else { ppu.units with spriteShifters := fun _ _ => 0 } }

/-- The pattern bits of the background under the fine scroll, high plane first. -/
def backgroundPixel : BitVec 2 :=
  BitVec.ofBool ((ppu.bg.ptableData 1).getLsbD (15 - ppu.cpu.fineX.toNat)) ++
    BitVec.ofBool ((ppu.bg.ptableData 0).getLsbD (15 - ppu.cpu.fineX.toNat))

/-- The first unit with an opaque pixel. -/
def frontUnit : Option (Fin 8) := (List.finRange 8).find? ppu.opaqueUnit

/-- The attributes of a unit put it behind the background. -/
def behind (i : Fin 8) : Bool := (ppu.units.spriteAttributes i).getLsbD 5

/-- Nothing the register hides makes a difference: a hidden background is transparent or behind
a sprite that is shown; sprites hidden at the edge are transparent, or behind an opaque
background that is shown. -/
def MaskHonoured : Prop :=
  (ppu.backgroundShown = false →
    ppu.backgroundPixel = 0 ∨
      (ppu.spritesShown = true ∧ ∃ i, ppu.frontUnit = some i ∧ ppu.behind i = false)) ∧
  (ppu.spritesShown = false → ppu.cpu.spriteRenderEnable = true →
    ppu.frontUnit = none ∨
      (ppu.backgroundShown = true ∧ ppu.backgroundPixel ≠ 0 ∧
        ∃ i, ppu.frontUnit = some i ∧ ppu.behind i = true))

/-! ## Composition -/

/-- The attributes and the pixel of the front unit. -/
def frontSprite : Option (Byte × BitVec 2) :=
  ppu.frontUnit.map fun i => (ppu.units.spriteAttributes i, ppu.unitPixel i)

/-- The palette index for both values of the sprite enable. -/
theorem paletteIdx_composed :
    ppu.paletteIdx =
      composed ppu.backgroundIdx
        (if ppu.cpu.spriteRenderEnable then ppu.frontSprite else none) := by
  cases enabled : ppu.cpu.spriteRenderEnable with
  | true => exact ppu.paletteIdx_eq enabled
  | false =>
    have nothing : transparent 0 = true := rfl
    rw [paletteIdx, spritePixel, enabled, if_neg Bool.false_ne_true, if_neg Bool.false_ne_true,
      nothing]
    cases clear : transparent ppu.backgroundIdx with
    | true => exact (if_pos clear).symm
    | false => exact (if_neg (fun same => Bool.false_ne_true (clear.symm.trans same))).symm

/-- The background index is transparent when its pixel is, and has its top bit low. -/
theorem backgroundIdx_bits :
    transparent ppu.backgroundIdx = (ppu.backgroundPixel == 0) ∧
      ppu.backgroundIdx.getLsbD 4 = false := by
  rw [backgroundIdx, backgroundPixel]
  cases (ppu.bg.ptableData 1).getLsbD (15 - ppu.cpu.fineX.toNat) <;>
    cases (ppu.bg.ptableData 0).getLsbD (15 - ppu.cpu.fineX.toNat) <;>
    cases (ppu.bg.paletteData 1).getLsbD (15 - ppu.cpu.fineX.toNat) <;>
    cases (ppu.bg.paletteData 0).getLsbD (15 - ppu.cpu.fineX.toNat) <;> decide

/-- A sprite index has its top bit high. -/
theorem spriteIdx_top (palette pixel : BitVec 2) :
    (1#1 ++ palette ++ pixel).getLsbD 4 = true := by
  revert palette pixel
  decide

/-- The composition without a sprite. -/
theorem composed_none (background : BitVec 5) :
    composed background none = if transparent background then 0 else background := rfl

/-- The composition with a sprite. -/
theorem composed_some (background : BitVec 5) (sprite : Byte × BitVec 2) :
    composed background (some sprite) =
      if transparent background || !sprite.1.getLsbD 5 then
        1#1 ++ sprite.1.extractLsb' 0 2 ++ sprite.2
      else background := rfl

/-- A transparent background counts as none. -/
theorem composed_transparent {background : BitVec 5} (sprite : Option (Byte × BitVec 2))
    (clear : transparent background = true) : composed background sprite = composed 0 sprite := by
  have nothing : transparent 0 = true := rfl
  cases sprite with
  | none => rw [composed_none, composed_none, clear, nothing]; rfl
  | some sprite => rw [composed_some, composed_some, clear, nothing]; rfl

/-- Leaving out the background makes no difference to a transparent one, and to one behind a
sprite. -/
theorem composed_background_iff {background : BitVec 5} (top : background.getLsbD 4 = false)
    (sprite : Option (Byte × BitVec 2)) :
    composed background sprite = composed 0 sprite ↔
      transparent background = true ∨
        ∃ chosen, sprite = some chosen ∧ chosen.1.getLsbD 5 = false := by
  cases clear : transparent background with
  | true => exact iff_of_true (composed_transparent sprite clear) (Or.inl rfl)
  | false =>
    have visible : background ≠ 0 := fun zero => by
      rw [zero] at clear
      exact Bool.noConfusion clear
    have nothing : transparent 0 = true := rfl
    cases sprite with
    | none =>
      rw [composed_none, composed_none, clear, nothing]
      apply iff_of_false visible
      rintro (same | ⟨chosen, same, -⟩)
      · exact Bool.noConfusion same
      · cases same
    | some chosen =>
      rw [composed_some, composed_some, clear, nothing]
      cases priority : chosen.1.getLsbD 5 with
      | false => exact iff_of_true rfl (Or.inr ⟨chosen, rfl, priority⟩)
      | true =>
        apply iff_of_false
        · intro same
          have tops : background.getLsbD 4 =
              (1#1 ++ chosen.1.extractLsb' 0 2 ++ chosen.2).getLsbD 4 :=
            congrArg (fun index => index.getLsbD 4) same
          rw [top, spriteIdx_top] at tops
          exact Bool.noConfusion tops
        · rintro (same | ⟨other, same, front⟩)
          · exact Bool.noConfusion same
          · cases same
            exact Bool.noConfusion (priority.symm.trans front)

/-- Leaving out the sprites makes no difference when there are none, and to one behind the
background. -/
theorem composed_sprite_iff {background : BitVec 5} (top : background.getLsbD 4 = false)
    (sprite : Option (Byte × BitVec 2)) :
    composed background sprite = composed background none ↔
      sprite = none ∨ (transparent background = false ∧
        ∃ chosen, sprite = some chosen ∧ chosen.1.getLsbD 5 = true) := by
  cases sprite with
  | none => exact iff_of_true rfl (Or.inl rfl)
  | some chosen =>
    have low : (composed background none).getLsbD 4 = false := by
      rw [composed_none]
      cases transparent background with
      | true => rw [if_pos rfl]; rfl
      | false => exact top
    by_cases front : (transparent background || !chosen.1.getLsbD 5) = true
    · have high : (composed background (some chosen)).getLsbD 4 = true := by
        rw [composed_some, if_pos front]
        exact spriteIdx_top _ _
      apply iff_of_false
      · intro same
        rw [same, low] at high
        exact Bool.noConfusion high
      · rintro (none | ⟨clear, other, same, priority⟩)
        · cases none
        · cases same
          rw [clear, priority] at front
          exact Bool.noConfusion front
    · rw [composed_some, composed_none, if_neg front]
      rw [Bool.not_eq_true, Bool.or_eq_false_iff, Bool.not_eq_false'] at front
      rw [front.1]
      exact iff_of_true rfl (Or.inr ⟨rfl, chosen, rfl, front.2⟩)

/-- Nothing is left when there is neither a background nor a sprite. -/
theorem composed_empty_iff {background : BitVec 5} (top : background.getLsbD 4 = false)
    (sprite : Option (Byte × BitVec 2)) :
    composed background sprite = composed 0 none ↔
      transparent background = true ∧ sprite = none := by
  cases sprite with
  | none =>
    rw [composed_background_iff top]
    constructor
    · rintro (clear | ⟨chosen, same, -⟩)
      · exact ⟨clear, rfl⟩
      · cases same
    · exact fun both => Or.inl both.1
  | some chosen =>
    apply iff_of_false
    · intro same
      by_cases front : (transparent background || !chosen.1.getLsbD 5) = true
      · rw [composed_some, if_pos front] at same
        have high := spriteIdx_top (chosen.1.extractLsb' 0 2) chosen.2
        rw [same] at high
        exact absurd high (by decide)
      · rw [composed_some, if_neg front] at same
        rw [same] at front
        exact front rfl
    · rintro ⟨-, same⟩
      cases same

/-! ## The masked composition -/

/-- A background that is shown keeps its index. -/
theorem masked_backgroundIdx (shown : ppu.backgroundShown = true) :
    ppu.masked.backgroundIdx = ppu.backgroundIdx := by
  have same : ppu.masked.bg = ppu.bg := if_pos shown
  rw [backgroundIdx, same]
  rfl

/-- A background that is hidden is transparent. -/
theorem masked_transparent (hidden : ppu.backgroundShown = false) :
    transparent ppu.masked.backgroundIdx = true := by
  have empty : ppu.masked.bg.ptableData = fun _ => 0 := by
    rw [masked, hidden]
    rfl
  rw [(backgroundIdx_bits _).1, backgroundPixel, empty]
  simp

/-- Sprites that are shown keep their pixel. -/
theorem masked_frontSprite (shown : ppu.spritesShown = true) :
    ppu.masked.frontSprite = ppu.frontSprite := by
  have same : ppu.masked.units = ppu.units := if_pos shown
  have opaques : ppu.masked.opaqueUnit = ppu.opaqueUnit := by
    funext i
    rw [opaqueUnit, opaqueUnit, unitPixel, unitPixel, same]
  rw [frontSprite, frontSprite, frontUnit, frontUnit, opaques, same]
  congr 1
  funext i
  rw [unitPixel, unitPixel, same]

/-- Sprites that are hidden are transparent. -/
theorem masked_none (hidden : ppu.spritesShown = false) : ppu.masked.frontSprite = none := by
  have empty : ppu.masked.units.spriteShifters = fun _ _ => 0 := by
    rw [masked, hidden]
    rfl
  have blank : ppu.masked.frontUnit = none := by
    rw [frontUnit, List.find?_eq_none]
    intro i _ shows
    rw [opaqueUnit, decide_eq_true_eq, unitPixel, empty] at shows
    exact shows.2 (by simp)
  rw [frontSprite, blank]
  rfl

/-- The palette index the register asks for. -/
theorem masked_paletteIdx :
    ppu.masked.paletteIdx =
      composed (if ppu.backgroundShown then ppu.backgroundIdx else 0)
        (if ppu.spritesShown then ppu.frontSprite else none) := by
  have sprites : (if ppu.masked.cpu.spriteRenderEnable then ppu.masked.frontSprite else none) =
      if ppu.spritesShown then ppu.frontSprite else none := by
    cases shown : ppu.spritesShown with
    | true =>
      have enabled : ppu.masked.cpu.spriteRenderEnable = true := by
        rw [spritesShown, Bool.and_eq_true] at shown
        exact shown.1
      rw [enabled, masked_frontSprite ppu shown]
    | false =>
      rw [masked_none ppu shown, ite_self, if_neg Bool.false_ne_true]
  rw [paletteIdx_composed, sprites]
  cases shown : ppu.backgroundShown with
  | true => rw [masked_backgroundIdx ppu shown, if_pos rfl]
  | false =>
    rw [composed_transparent _ (masked_transparent ppu shown), if_neg Bool.false_ne_true]

/-- The front unit decides which sprite pixel is chosen. -/
theorem frontSprite_iff (priority : Bool) :
    (∃ chosen, ppu.frontSprite = some chosen ∧ chosen.1.getLsbD 5 = priority) ↔
      ∃ i, ppu.frontUnit = some i ∧ ppu.behind i = priority := by
  rw [frontSprite]
  cases ppu.frontUnit with
  | none =>
    constructor
    · rintro ⟨chosen, same, -⟩
      cases same
    · rintro ⟨i, same, -⟩
      cases same
  | some i =>
    constructor
    · rintro ⟨chosen, same, bit⟩
      cases same
      exact ⟨i, rfl, bit⟩
    · rintro ⟨j, same, bit⟩
      cases same
      exact ⟨_, rfl, bit⟩

/-- There is a sprite pixel when there is a front unit. -/
theorem frontSprite_none : ppu.frontSprite = none ↔ ppu.frontUnit = none := by
  rw [frontSprite, Option.map_eq_none_iff]

/-- Sprites are shown only where they are enabled. -/
theorem enabled_of_shown (shown : ppu.spritesShown = true) :
    ppu.cpu.spriteRenderEnable = true := by
  rw [spritesShown, Bool.and_eq_true] at shown
  exact shown.1

/-- On every dot, for all shifters and mask bits: the palette index is the one the register
asks for exactly when nothing it hides makes a difference. -/
theorem paletteIdx_masked_iff :
    ppu.paletteIdx = ppu.masked.paletteIdx ↔ ppu.MaskHonoured := by
  obtain ⟨pixel, top⟩ := ppu.backgroundIdx_bits
  have clear : transparent ppu.backgroundIdx = true ↔ ppu.backgroundPixel = 0 := by
    rw [pixel, beq_iff_eq]
  have visible : transparent ppu.backgroundIdx = false ↔ ppu.backgroundPixel ≠ 0 := by
    rw [pixel, beq_eq_false_iff_ne]
  rw [paletteIdx_composed, masked_paletteIdx, MaskHonoured]
  cases background : ppu.backgroundShown with
  | true =>
    cases sprites : ppu.spritesShown with
    | true =>
      have enabled := ppu.enabled_of_shown sprites
      rw [enabled]
      exact iff_of_true rfl ⟨fun hidden => Bool.noConfusion hidden,
        fun hidden => Bool.noConfusion hidden⟩
    | false =>
      cases enabled : ppu.cpu.spriteRenderEnable with
      | false =>
        exact iff_of_true rfl ⟨fun hidden => Bool.noConfusion hidden,
          fun _ hidden => Bool.noConfusion hidden⟩
      | true =>
        have same := composed_sprite_iff top ppu.frontSprite
        rw [frontSprite_none, frontSprite_iff, visible] at same
        refine same.trans ⟨fun choice => ⟨fun hidden => Bool.noConfusion hidden, fun _ _ => ?_⟩,
          fun both => ?_⟩
        · exact choice.imp id fun behind => ⟨rfl, behind⟩
        · exact (both.2 rfl rfl).imp id And.right
  | false =>
    cases sprites : ppu.spritesShown with
    | true =>
      have enabled := ppu.enabled_of_shown sprites
      have same := composed_background_iff top ppu.frontSprite
      rw [frontSprite_iff, clear] at same
      rw [enabled]
      refine same.trans ⟨fun choice => ⟨fun _ => ?_, fun hidden => Bool.noConfusion hidden⟩,
        fun both => ?_⟩
      · exact choice.imp id fun front => ⟨rfl, front⟩
      · exact (both.1 rfl).imp id And.right
    | false =>
      have same := composed_empty_iff top
        (if ppu.cpu.spriteRenderEnable then ppu.frontSprite else none)
      rw [clear] at same
      refine same.trans ⟨fun both => ⟨fun _ => Or.inl both.1, fun _ enabled => ?_⟩,
        fun both => ⟨?_, ?_⟩⟩
      · have none := both.2
        rw [enabled, if_pos rfl, frontSprite_none] at none
        exact Or.inl none
      · rcases both.1 rfl with clear | ⟨shown, -⟩
        · exact clear
        · exact Bool.noConfusion shown
      · cases enabled : ppu.cpu.spriteRenderEnable with
        | false => rfl
        | true =>
          rw [if_pos rfl, frontSprite_none]
          rcases both.2 rfl enabled with none | ⟨shown, -⟩
          · exact none
          · exact Bool.noConfusion shown

/-- A dot of the first column with the background hidden at the edge, over an opaque tile. -/
def edgeHidden : Ppu :=
  let ppu := (Nes.lineStart .blank 0).ppu
  { ppu with
    engine := Engine.on ⟨0, 2⟩
    cpu := { ppu.cpu with showEdgeBackground := false }
    bg := { ppu.bg with ptableData := fun _ => 0x8000 } }

/-- The mask is not honoured on every dot of a visible line: the hidden tile is drawn. -/
theorem paletteIdx_unmasked :
    ¬ ∀ ppu : Ppu, ppu.scanline.toNat ≤ 239 → ppu.paletteIdx = ppu.masked.paletteIdx := by
  intro always
  have drawn : edgeHidden.paletteIdx = 3 := by decide
  have hidden : edgeHidden.masked.paletteIdx = 0 := by decide
  have same := always edgeHidden (by decide)
  rw [drawn, hidden] at same
  exact absurd same (by decide)

end Ppu

end FpgaNes
