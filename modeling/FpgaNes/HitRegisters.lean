import FpgaNes.Hit

/-!
# The registers of the hit

The hit is read from the flag of the evaluation, from unit 0 and from the shifters of the
background. On a line of the picture the flag is cleared on dot 0 and set when entry 0 is found,
and the unit is shifted on the dots from 2 to 256, as far as rendering is enabled there. On lines
240 to 260 all three stay as line 239 has left them, whatever is written.
-/

namespace FpgaNes

open Hdl

namespace Ppu

variable (ppu : Ppu)

/-- Evaluation finds entry 0 on this dot: rendering is enabled, it looks at the entry with a slot
left, and the entry is in range of the line. -/
structure FindsZero (ppu : Ppu) : Prop where
  /-- Rendering is enabled. -/
  enabled : ppu.renderEnable = true
  /-- Evaluation looks at entry 0. -/
  entry : ppu.eval.spriteOamIdx = 0
  /-- A slot is left. -/
  slot : ppu.eval.spriteCounter.toNat < 8
  /-- The entry has a row on the line. -/
  inRange : covers (ppu.cpu.oam 0) ppu.cpu.spriteSize ppu.scanline.toNat

/-- Examining an entry sets the flag on entry 0, when it is in range and a slot is left. -/
theorem evaluateSprite_possible :
    ppu.evaluateSprite.sprite0HitPossible = true ↔
      ppu.eval.sprite0HitPossible = true ∨ ppu.eval.spriteOamIdx = 0 ∧
        ppu.eval.spriteCounter.toNat < 8 ∧
        covers (ppu.cpu.oam 0) ppu.cpu.spriteSize ppu.scanline.toNat := by
  rw [evaluateSprite]
  by_cases slot : ppu.eval.spriteCounter.toNat < 8
  · rw [if_pos slot]
    by_cases zero : ppu.eval.spriteOamIdx = 0
    · rw [zero, spriteInRange_eq]
      by_cases inRange : covers (ppu.cpu.oam 0) ppu.cpu.spriteSize ppu.scanline.toNat
      · rw [decide_eq_true inRange, if_pos rfl]
        exact iff_of_true (Bool.or_true _) (.inr ⟨rfl, slot, inRange⟩)
      · rw [decide_eq_false inRange, if_neg Bool.false_ne_true]
        exact (or_iff_left fun finds => inRange finds.2.2).symm
    · have other : (ppu.eval.spriteOamIdx == 0) = false := beq_false_of_ne zero
      split
      · rw [other, Bool.or_false]
        exact (or_iff_left fun finds => zero finds.1).symm
      · exact (or_iff_left fun finds => zero finds.1).symm
  · rw [if_neg slot]
    simp [slot]

/-- The flag of the evaluation after a dot of the picture: rendering clears it on dot 0, and sets
it from dot 65 on when it finds entry 0. -/
theorem evalNext_possible (drawn : ppu.renderLine = true) (early : ppu.engine.cycle.toNat ≤ 256) :
    (ppu.evalNext false).sprite0HitPossible = true ↔
      if ppu.engine.cycle.toNat = 0 then
        ppu.eval.sprite0HitPossible = true ∧ ppu.renderEnable = false
      else ppu.eval.sprite0HitPossible = true ∨
        65 ≤ ppu.engine.cycle.toNat ∧ ppu.FindsZero := by
  rw [evalNext_flag, drawn, Bool.and_true]
  cases enabled : ppu.renderEnable with
  | false =>
    have idle : ¬ ppu.FindsZero := fun finds =>
      Bool.false_ne_true (enabled.symm.trans finds.enabled)
    rw [if_neg Bool.false_ne_true]
    split <;> simp [idle]
  | true =>
    rw [if_pos rfl, evaluationDot]
    by_cases zero : ppu.engine.cycle.toNat = 0
    · rw [if_pos zero, if_pos zero]
      simp [startEvaluation]
    · rw [if_neg zero, if_neg zero]
      by_cases clears : ppu.engine.cycle.toNat ≤ 64
      · rw [if_pos clears]
        refine (or_iff_left fun finds => ?_).symm
        omega
      · rw [if_neg clears, if_pos early, evaluateSprite_possible]
        apply or_congr_right
        constructor
        · rintro ⟨entry, slot, inRange⟩
          exact ⟨by omega, enabled, entry, slot, inRange⟩
        · rintro ⟨-, finds⟩
          exact ⟨finds.entry, finds.slot, finds.inRange⟩

end Ppu

/-- Unit 0 shows a pixel after a number of shifts: its X coordinate has run out, and the pattern
bit that has come up is set in one of the planes. -/
def SpriteUnits.Shows (units : SpriteUnits) (shifts : ℕ) : Prop :=
  (units.spriteXPosition 0).toNat ≤ shifts ∧
    ∃ plane, (units.spriteShifters 0 plane).getMsbD
      (shifts - (units.spriteXPosition 0).toNat) = true

/-- A unit that has been shifted is opaque where it shows a pixel. -/
theorem Ppu.opaqueUnit_of_shifted (ppu : Ppu) {units : SpriteUnits} {shifts : ℕ}
    (shifted : ppu.units.Shifted 0 (units.spriteXPosition 0).toNat (units.spriteShifters 0)
      shifts) :
    ppu.opaqueUnit 0 = true ↔ units.Shows shifts := by
  have position : ppu.units.spriteXPosition 0 = 0 ↔
      (units.spriteXPosition 0).toNat ≤ shifts := by
    rw [BitVec.toNat_eq, shifted.position]
    change _ - _ = 0 ↔ _
    omega
  have bit (plane : Fin 2) : (ppu.units.spriteShifters 0 plane).getLsbD 7 =
      (units.spriteShifters 0 plane).getMsbD (shifts - (units.spriteXPosition 0).toNat) := by
    have shown := shifted.bits plane 0
    rw [Nat.zero_add, BitVec.getMsbD_eq_getLsbD] at shown
    exact shown
  rw [opaqueUnit, decide_eq_true_eq, position, SpriteUnits.Shows, unitPixel, bit 0, bit 1,
    Fin.exists_fin_two]
  apply and_congr_right
  intro _
  cases (units.spriteShifters 0 0).getMsbD (shifts - (units.spriteXPosition 0).toNat) <;>
    cases (units.spriteShifters 0 1).getMsbD (shifts - (units.spriteXPosition 0).toNat) <;> decide

/-- The overlap, by the registers that it is read from. -/
theorem Ppu.overlap_iff (ppu : Ppu) :
    ppu.overlap = true ↔ ppu.opaqueUnit 0 = true ∧
      ppu.bg.opaquePixels.getLsbD (15 - ppu.cpu.fineX.toNat) = true ∧
      (ppu.cpu.backgroundRenderEnable = true ∧ ppu.cpu.spriteRenderEnable = true) ∧
      ppu.hitDot = true := by
  rw [overlap, transparent_backgroundIdx, Bool.not_not, Bool.and_eq_true, Bool.and_eq_true,
    Bool.and_eq_true, Bool.and_eq_true]
  tauto

/-- The dots the composition looks at, by the edge bits. -/
theorem Ppu.hitDot_iff (ppu : Ppu) :
    ppu.hitDot = true ↔ 1 ≤ ppu.engine.cycle.toNat ∧ ppu.engine.cycle.toNat ≤ 257 ∧
      (ppu.cpu.showEdgeSprites = true ∨ ppu.cpu.showEdgeBackground = true ∨
        9 ≤ ppu.engine.cycle.toNat) := by
  rw [hitDot]
  cases ppu.cpu.showEdgeSprites <;> cases ppu.cpu.showEdgeBackground <;> simp <;> omega

namespace Nes

section

variable (mem : Memories) (io : ℕ → Dot)

/-- The console some time after power-up. -/
def reached (time : ℕ) : Nes := dotRun io (powerUp mem) time

/-- The engine is at rest after power-up or reset, or on a dot of a frame. -/
theorem reached_engine (time : ℕ) :
    (reached mem io time).ppu.engine = ⟨0, 0, 0, 0, false⟩ ∨
      ∃ first later, (reached mem io time).ppu.engine = Engine.on (Beam.after first later) := by
  refine trace_invariant (fun _ (nes : Nes) => nes.ppu.engine = ⟨0, 0, 0, 0, false⟩ ∨
    ∃ first later, nes.ppu.engine = Engine.on (Beam.after first later)) (Or.inl rfl) time
    fun i _ before => ?_
  rw [trace_succ, ppuClock_engine]
  cases (io i).pins.reset with
  | true => exact Or.inl rfl
  | false =>
    rcases before with rest | ⟨first, later, here⟩
    · exact Or.inr ⟨0, 0, Ppu.engineNext_rest _ rest⟩
    · exact Or.inr ⟨first, later + 1, Ppu.engineNext_on _ first later here⟩

/-- The pre-render line is followed by line 0. -/
theorem reached_preRender (time : ℕ) (line : (reached mem io time).ppu.scanline.toNat = 261) :
    (reached mem io (time + 1)).ppu.scanline.toNat = 261 ∨
      (reached mem io (time + 1)).ppu.scanline.toNat = 0 := by
  have next : (reached mem io (time + 1)).ppu.engine =
      (reached mem io time).ppu.engineNext (io time).pins.reset := rfl
  rw [Ppu.scanline, next]
  cases (io time).pins.reset with
  | true => exact Or.inr rfl
  | false =>
    rcases reached_engine mem io time with rest | ⟨first, later, here⟩
    · rw [Ppu.scanline, rest] at line
      exact absurd line (by decide)
    · rw [Ppu.engineNext_on _ first later here]
      rw [Ppu.scanline, here] at line
      have now : (Beam.after first later).line = 261 :=
        (toNat_dot _ (by have bounds := Beam.after_bounds first later; omega)).symm.trans line
      have bounds := Beam.after_bounds first (later + 1)
      have after : (Engine.on (Beam.after first (later + 1))).scanline.toNat =
          (Beam.after first (later + 1)).line := toNat_dot _ (by omega)
      rw [after, ← Beam.next_after, Beam.next]
      rw [if_pos now]
      split
      · exact Or.inr rfl
      · exact Or.inl now

/-- The lines end with the pre-render line. -/
theorem reached_scanline (time : ℕ) : (reached mem io time).ppu.scanline.toNat ≤ 261 := by
  rw [Ppu.scanline]
  rcases reached_engine mem io time with rest | ⟨first, later, here⟩
  · rw [rest]
    decide
  · have bounds := Beam.after_bounds first later
    rw [here]
    exact (toNat_dot _ (by omega)).trans_le bounds.1

/-- A dot other than the first of a frame comes after the dot before it, out of reset. -/
theorem reached_moved {time : ℕ}
    (moved : (reached mem io time).ppu.engine.cycle.toNat ≠ 0 ∨
      (reached mem io time).ppu.scanline.toNat ≠ 0) :
    ∃ before, time = before + 1 ∧ (io before).pins.reset = false ∧
      ∃ beam : Beam, beam.line ≤ 261 ∧ beam.dot ≤ 340 ∧
        (reached mem io before).ppu.engine = Engine.on beam ∧
          (reached mem io time).ppu.engine = Engine.on beam.next := by
  have still {ppu : Ppu} {reset : Bool} (rest : ppu.engine = ⟨0, 0, 0, 0, false⟩) :
      (ppu.engineNext reset).cycle = 0 ∧ (ppu.engineNext reset).scanline = 0 := by
    cases reset with
    | true => exact ⟨rfl, rfl⟩
    | false =>
      rw [Ppu.engineNext_rest _ rest]
      exact ⟨rfl, rfl⟩
  have first {engine : Engine} (zero : engine.cycle = 0 ∧ engine.scanline = 0) :
      ¬ (engine.cycle.toNat ≠ 0 ∨ engine.scanline.toNat ≠ 0) := by
    rw [zero.1, zero.2]
    decide
  cases time with
  | zero => exact absurd moved (first ⟨rfl, rfl⟩)
  | succ before =>
    have next : (reached mem io (before + 1)).ppu.engine =
        (reached mem io before).ppu.engineNext (io before).pins.reset := rfl
    rw [Ppu.scanline, next] at moved
    refine ⟨before, rfl, ?_⟩
    cases reset : (io before).pins.reset with
    | true =>
      rw [reset] at moved
      exact absurd moved (first ⟨rfl, rfl⟩)
    | false =>
      rcases reached_engine mem io before with rest | ⟨line, later, here⟩
      · exact absurd moved (first (still rest))
      · refine ⟨rfl, Beam.after line later, (Beam.after_bounds line later).1,
          (Beam.after_bounds line later).2, here, ?_⟩
        rw [next, reset, Ppu.engineNext_on _ line later here, Beam.next_after]

/-- A dot of a line but the first. -/
theorem reached_pred {time dot : ℕ}
    (here : (reached mem io time).ppu.engine.cycle.toNat = dot + 1) :
    ∃ before, time = before + 1 ∧ (io before).pins.reset = false ∧
      (reached mem io before).ppu.engine.cycle.toNat = dot ∧
        (reached mem io before).ppu.scanline = (reached mem io time).ppu.scanline := by
  obtain ⟨before, same, released, beam, -, inside, was, now⟩ :=
    reached_moved mem io (.inl (by rw [here]; exact Nat.succ_ne_zero dot))
  refine ⟨before, same, released, ?_⟩
  rw [now, Engine.on, Beam.next] at here
  rw [Ppu.scanline, Ppu.scanline, was, now, Engine.on, Engine.on, Beam.next]
  split at here
  · exact absurd here.symm (Nat.succ_ne_zero dot)
  · next short =>
    rw [if_neg short]
    rw [toNat_dot _ (by dsimp only; omega)] at here
    exact ⟨(toNat_dot _ inside).trans (Nat.succ_inj.mp here), rfl⟩

/-- The first dot of a line but line 0. -/
theorem reached_wrap {time line : ℕ} (here : (reached mem io time).ppu.engine.cycle.toNat = 0)
    (later : (reached mem io time).ppu.scanline.toNat = line + 1) :
    ∃ before, time = before + 1 ∧ (io before).pins.reset = false ∧
      (reached mem io before).ppu.engine.cycle.toNat = 340 ∧
        (reached mem io before).ppu.scanline.toNat = line := by
  obtain ⟨before, same, released, beam, lines, inside, was, now⟩ :=
    reached_moved mem io (.inr (by rw [later]; exact Nat.succ_ne_zero line))
  refine ⟨before, same, released, ?_⟩
  rw [Ppu.scanline, now, Engine.on, Beam.next] at later
  rw [now, Engine.on, Beam.next] at here
  rw [Ppu.scanline, was, Engine.on]
  split at here
  · next last =>
    rw [if_pos last] at later
    refine ⟨(toNat_dot _ inside).trans last, ?_⟩
    split at later
    · exact absurd later.symm (Nat.succ_ne_zero line)
    · rw [toNat_dot _ (by dsimp only; omega)] at later
      exact (toNat_dot _ (by omega)).trans (Nat.succ_inj.mp later)
  · next short =>
    rw [toNat_dot _ (by dsimp only; omega)] at here
    exact absurd here (Nat.succ_ne_zero _)

/-! ## What a line leaves to the next -/

/-- The registers that the hit is read from: the flag of the evaluation, unit 0 and the shifters
of the background. -/
structure HitRegisters where
  /-- The flag of the evaluation. -/
  possible : Bool
  /-- The sprite units. -/
  units : SpriteUnits
  /-- The shifters of the background. -/
  bg : Background

/-- These registers at a time. -/
def hitRegisters (time : ℕ) : HitRegisters where
  possible := (reached mem io time).ppu.eval.sprite0HitPossible
  units := (reached mem io time).ppu.units
  bg := (reached mem io time).ppu.bg

/-- A line on which nothing is rendered moves none of them. -/
theorem hitRegisters_still {time : ℕ} (released : (io time).pins.reset = false)
    (blank : (reached mem io time).ppu.renderLine = false) :
    hitRegisters mem io (time + 1) = hitRegisters mem io time := by
  have next : reached mem io (time + 1) =
      (reached mem io time).ppuClock (io time).pins (io time).bus (io time).cpuEdge := rfl
  have possible : ((reached mem io time).ppu.evalNext false).sprite0HitPossible =
      (reached mem io time).ppu.eval.sprite0HitPossible := by
    rw [Ppu.evalNext, if_neg Bool.false_ne_true, blank, Bool.and_false,
      if_neg Bool.false_ne_true]
    split <;> rfl
  rw [hitRegisters, next, ppuClock_eval, ppuClock_units, ppuClock_bg, released, possible,
    Ppu.unitsNext, Ppu.backgroundNext, blank]
  simp [hitRegisters]

/-- Lines 240 to 260, and dot 0 of the pre-render line, find what line 239 has left at dot 0 of
line 240. -/
theorem hitRegisters_frozen (position : ℕ) (inside : position ≤ 341 * 21) (time : ℕ)
    (line : (reached mem io time).ppu.scanline.toNat = 240 + position / 341)
    (dot : (reached mem io time).ppu.engine.cycle.toNat = position % 341) :
    ∃ last, time = last + position ∧ (reached mem io last).ppu.scanline.toNat = 240 ∧
      (reached mem io last).ppu.engine.cycle.toNat = 0 ∧
        hitRegisters mem io time = hitRegisters mem io last := by
  induction position generalizing time with
  | zero => exact ⟨time, rfl, line, dot, rfl⟩
  | succ position ih =>
    have before : ∃ before, time = before + 1 ∧ (io before).pins.reset = false ∧
        (reached mem io before).ppu.scanline.toNat = 240 + position / 341 ∧
          (reached mem io before).ppu.engine.cycle.toNat = position % 341 := by
      by_cases first : (position + 1) % 341 = 0
      · obtain ⟨before, same, released, last, above⟩ := reached_wrap mem io (dot.trans first)
          (show _ = (239 + (position + 1) / 341) + 1 by omega)
        exact ⟨before, same, released, by omega, by omega⟩
      · have later : (reached mem io time).ppu.engine.cycle.toNat = position % 341 + 1 := by
          omega
        obtain ⟨before, same, released, earlier, above⟩ := reached_pred mem io later
        refine ⟨before, same, released, ?_, by omega⟩
        rw [above, line]
        omega
    obtain ⟨before, rfl, released, line', dot'⟩ := before
    have blank : (reached mem io before).ppu.renderLine = false := by
      rw [Ppu.renderLine, line', Bool.or_eq_false_iff, decide_eq_false_iff_not,
        beq_eq_false_iff_ne]
      omega
    obtain ⟨last, rfl, start⟩ := ih (by omega) before line' dot'
    refine ⟨last, rfl, start.1, start.2.1, ?_⟩
    rw [hitRegisters_still mem io released blank]
    exact start.2.2

/-- The clock period of dot 0 of the line drawn at a time. -/
def firstDot (time : ℕ) : ℕ := time - (reached mem io time).ppu.engine.cycle.toNat

/-- The clock period of dot 0 of line 240, for a time on lines 240 to 261. -/
def pictureEnd (time : ℕ) : ℕ :=
  time - (341 * ((reached mem io time).ppu.scanline.toNat - 240) +
    (reached mem io time).ppu.engine.cycle.toNat)

/-- The dots of one line, out of reset, from its first dot up to some dot. -/
structure OnLine (first dot : ℕ) (line : BitVec 10) : Prop where
  /-- `RESET` is low. -/
  released : ∀ k < dot, (io (first + k)).pins.reset = false
  /-- The dots follow each other. -/
  cycle : ∀ k ≤ dot, (reached mem io (first + k)).ppu.engine.cycle.toNat = k
  /-- They are on one line. -/
  scanline : ∀ k ≤ dot, (reached mem io (first + k)).ppu.scanline = line

/-- Every time is on a line that has been drawn from its first dot. -/
theorem onLine_firstDot (time : ℕ) :
    firstDot mem io time + (reached mem io time).ppu.engine.cycle.toNat = time ∧
      OnLine mem io (firstDot mem io time) (reached mem io time).ppu.engine.cycle.toNat
        (reached mem io time).ppu.scanline := by
  have drawn (dot time : ℕ) (here : (reached mem io time).ppu.engine.cycle.toNat = dot) :
      ∃ first, time = first + dot ∧
        OnLine mem io first dot (reached mem io time).ppu.scanline := by
    induction dot generalizing time with
    | zero =>
      refine ⟨time, rfl, fun k below => absurd below (Nat.not_lt_zero k), ?_, ?_⟩
      · intro k le
        rw [Nat.le_zero.mp le]
        exact here
      · intro k le
        rw [Nat.le_zero.mp le]
        rfl
    | succ dot ih =>
      obtain ⟨before, rfl, released, earlier, same⟩ := reached_pred mem io here
      obtain ⟨first, rfl, line⟩ := ih before earlier
      refine ⟨first, rfl, fun k below => ?_, fun k le => ?_, fun k le => ?_⟩
      · rcases Nat.lt_succ_iff_lt_or_eq.mp below with inside | rfl
        · exact line.released k inside
        · exact released
      · rcases Nat.le_succ_iff.mp le with inside | rfl
        · exact line.cycle k inside
        · exact here
      · rcases Nat.le_succ_iff.mp le with inside | rfl
        · rw [line.scanline k inside, same]
        · rfl
  obtain ⟨first, same, line⟩ := drawn _ time rfl
  have start : firstDot mem io time = first := by
    rw [firstDot]
    omega
  rw [start]
  exact ⟨same.symm, line⟩

/-- The dots of a line, before a dot of its picture, on which rendering shifts the units. -/
def shifts (first dot : ℕ) : ℕ :=
  (List.range dot).countP fun k => decide (2 ≤ k) && (reached mem io (first + k)).ppu.renderEnable

/-- By a dot of the picture unit 0 has been shifted once for each of these. -/
theorem OnLine.shifted {first dot : ℕ} {line : BitVec 10} (drawn : OnLine mem io first dot line)
    (render : (reached mem io first).ppu.renderLine = true) (early : dot ≤ 257) :
    (reached mem io (first + dot)).ppu.units.Shifted 0
      ((reached mem io first).ppu.units.spriteXPosition 0).toNat
      ((reached mem io first).ppu.units.spriteShifters 0) (shifts mem io first dot) := by
  induction dot with
  | zero => exact .loaded rfl fun _ => rfl
  | succ dot ih =>
    have before := ih ⟨fun k below => drawn.released k (by omega),
      fun k le => drawn.cycle k (by omega), fun k le => drawn.scanline k (by omega)⟩ (by omega)
    have cycle := drawn.cycle dot (Nat.le_succ dot)
    have renders : (reached mem io (first + dot)).ppu.renderLine = true := by
      rw [Ppu.renderLine, drawn.scanline dot (Nat.le_succ dot),
        ← drawn.scanline 0 (Nat.zero_le _)]
      exact render
    have quiet : (reached mem io (first + dot)).ppu.spriteFetchDot = false := by
      rw [Ppu.spriteFetchDot, cycle, Bool.and_eq_false_iff, decide_eq_false_iff_not]
      omega
    have step : (reached mem io (first + (dot + 1))).ppu.units =
        (reached mem io (first + dot)).ppu.unitsNext (io (first + dot)).pins.reset
          ((reached mem io (first + dot)).settledData (io (first + dot)).pins
            (io (first + dot)).bus) := rfl
    have more : shifts mem io first (dot + 1) = shifts mem io first dot +
        if 2 ≤ dot ∧ (reached mem io (first + dot)).ppu.renderEnable = true then 1 else 0 := by
      rw [shifts, shifts, List.range_succ, List.countP_append, List.countP_singleton]
      simp only [Bool.and_eq_true, decide_eq_true_eq]
    rw [step, more, drawn.released dot (Nat.lt_succ_self dot), Ppu.unitsNext,
      if_neg Bool.false_ne_true, renders, Bool.and_true, cycle, quiet]
    cases enabled : (reached mem io (first + dot)).ppu.renderEnable with
    | false =>
      rw [if_neg Bool.false_ne_true, if_neg (fun both => Bool.false_ne_true both.2)]
      exact before
    | true =>
      rw [if_pos rfl, if_neg Bool.false_ne_true]
      by_cases late : 2 ≤ dot
      · rw [if_pos ⟨late, by omega⟩, if_pos ⟨late, rfl⟩]
        exact before.shift
      · rw [if_neg (fun inside => late inside.1), if_neg (fun both => late both.1)]
        exact before

/-- By a dot of a line evaluation says that it has found entry 0: the flag stood on dot 0 and
nothing was rendered there, or the entry has been found on a dot before. -/
def FoundZero (stood : Bool) (first dot : ℕ) : Prop :=
  (stood = true ∧ (reached mem io first).ppu.renderEnable = false) ∨
    ∃ k, 65 ≤ k ∧ k < dot ∧ (reached mem io (first + k)).ppu.FindsZero

/-- The flag after some dots of the picture. -/
theorem OnLine.found {first dot : ℕ} {line : BitVec 10}
    (drawn : OnLine mem io first (dot + 1) line)
    (render : (reached mem io first).ppu.renderLine = true) (early : dot ≤ 256) :
    (reached mem io (first + (dot + 1))).ppu.eval.sprite0HitPossible = true ↔
      FoundZero mem io (reached mem io first).ppu.eval.sprite0HitPossible first (dot + 1) := by
  induction dot with
  | zero =>
    have step : (reached mem io (first + (0 + 1))).ppu.eval =
        (reached mem io first).ppu.evalNext (io first).pins.reset := rfl
    have zero : (reached mem io first).ppu.engine.cycle.toNat = 0 := drawn.cycle 0 (by decide)
    have released : (io first).pins.reset = false := drawn.released 0 (by decide)
    rw [step, released, Ppu.evalNext_possible _ render (by omega), if_pos zero, FoundZero]
    refine (or_iff_left ?_).symm
    rintro ⟨k, late, below, -⟩
    omega
  | succ dot ih =>
    have before := ih ⟨fun k below => drawn.released k (by omega),
      fun k le => drawn.cycle k (by omega), fun k le => drawn.scanline k (by omega)⟩ (by omega)
    have cycle := drawn.cycle (dot + 1) (by omega)
    have renders : (reached mem io (first + (dot + 1))).ppu.renderLine = true := by
      rw [Ppu.renderLine, drawn.scanline (dot + 1) (by omega),
        ← drawn.scanline 0 (Nat.zero_le _)]
      exact render
    have step : (reached mem io (first + (dot + 1 + 1))).ppu.eval =
        (reached mem io (first + (dot + 1))).ppu.evalNext
          (io (first + (dot + 1))).pins.reset := rfl
    rw [step, drawn.released (dot + 1) (by omega), Ppu.evalNext_possible _ renders (by omega),
      cycle, if_neg (Nat.succ_ne_zero dot), before, FoundZero, FoundZero, or_assoc]
    apply or_congr_right
    constructor
    · rintro (⟨k, late, below, finds⟩ | ⟨late, finds⟩)
      · exact ⟨k, late, by omega, finds⟩
      · exact ⟨dot + 1, late, by omega, finds⟩
    · rintro ⟨k, late, below, finds⟩
      rcases Nat.lt_succ_iff_lt_or_eq.mp below with inside | rfl
      · exact .inl ⟨k, late, inside, finds⟩
      · exact .inr ⟨late, finds⟩

/-- On lines 240 to 260 the registers are as line 239 has left them. -/
theorem hitRegisters_idle {time : ℕ} (idle : 240 ≤ (reached mem io time).ppu.scanline.toNat)
    (early : (reached mem io time).ppu.scanline.toNat ≤ 260 ∨
      (reached mem io time).ppu.engine.cycle.toNat = 0 ∧
        (reached mem io time).ppu.scanline.toNat = 261) :
    hitRegisters mem io time = hitRegisters mem io (pictureEnd mem io time) := by
  have dot : (reached mem io time).ppu.engine.cycle.toNat ≤ 340 := by
    rcases reached_engine mem io time with rest | ⟨first, later, here⟩
    · rw [rest]
      decide
    · have bounds := Beam.after_bounds first later
      rw [here]
      exact (toNat_dot _ bounds.2).trans_le bounds.2
  obtain ⟨last, same, -, -, held⟩ := hitRegisters_frozen mem io
    (341 * ((reached mem io time).ppu.scanline.toNat - 240) +
      (reached mem io time).ppu.engine.cycle.toNat) (by omega) time (by omega) (by omega)
  have start : pictureEnd mem io time = last := by
    rw [pictureEnd]
    omega
  rw [start]
  exact held

/-- The pre-render line starts with what line 239 has left. -/
theorem hitRegisters_preRender {time : ℕ}
    (line : (reached mem io time).ppu.scanline.toNat = 261) :
    hitRegisters mem io (firstDot mem io time) = hitRegisters mem io (pictureEnd mem io time) := by
  obtain ⟨same, drawn⟩ := onLine_firstDot mem io time
  have dot : (reached mem io (firstDot mem io time)).ppu.engine.cycle.toNat = 0 :=
    drawn.cycle 0 (Nat.zero_le _)
  have scanline : (reached mem io (firstDot mem io time)).ppu.scanline.toNat = 261 :=
    (congrArg BitVec.toNat (drawn.scanline 0 (Nat.zero_le _))).trans line
  have held := hitRegisters_idle mem io (show 240 ≤ _ by omega) (.inr ⟨dot, scanline⟩)
  have start : pictureEnd mem io (firstDot mem io time) = pictureEnd mem io time := by
    rw [pictureEnd, pictureEnd, dot, scanline, line]
    omega
  rw [start] at held
  exact held

end

end Nes

end FpgaNes
