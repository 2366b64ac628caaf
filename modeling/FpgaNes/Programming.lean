import FpgaNes.RomProgrammer
import FpgaNes.DmaSource

/-!
# Programming a game

Every word the driver stores reaches its ROM exactly as if it were stored once, whatever the
phase of the two clocks: the strobe is high for as many periods of `CLK` as the write line was,
one period late, and the address and the data are on the wires for all of them.
-/

namespace FpgaNes

open Hdl

/-- What the two ROMs of a game hold. -/
structure GameRoms where
  /-- PRG ROM. -/
  prg : Cells 15
  /-- CHR ROM. -/
  chr : Cells 13

namespace GameRoms

/-- Store the byte of a word at its address, in the ROM it selects. -/
def store (word : BitVec 32) (r : GameRoms) : GameRoms :=
  if word.getLsbD 31 then
    { r with
      prg := Function.update r.prg ((word.extractLsb' 0 16).setWidth 15)
        (word.extractLsb' 16 8) }
  else { r with chr := Chr.store r.chr (word.extractLsb' 0 16) (word.extractLsb' 16 8) }

/-- Storing a word twice stores it once. -/
@[simp] theorem store_store (word : BitVec 32) (r : GameRoms) :
    (r.store word).store word = r.store word := by
  unfold store
  split
  · simp
  · simp only [Chr.store]
    split <;> simp

end GameRoms

/-- The header bits of a word, where it says that it has them. -/
def Header.store (word : BitVec 32) (h : Header) : Header where
  isChrRam := if word.getLsbD 28 then word.getLsbD 27 else h.isChrRam
  mirroringMode := if word.getLsbD 30 then word.getLsbD 29 else h.mirroringMode

/-! ## The strobes -/

namespace RomPrgmr

/-- The header registers. -/
def header (r : RomPrgmr) : Header := ⟨r.isChrRam, r.mirroringMode⟩

/-- Neither strobe is high. -/
def Quiet (r : RomPrgmr) : Prop := r.prgRomWrite = false ∧ r.chrRomWrite = false

/-- The strobe of the ROM that a word selects is high, and the other low. -/
def Strobes (word : BitVec 32) (r : RomPrgmr) : Prop :=
  r.prgRomWrite = word.getLsbD 31 ∧ r.chrRomWrite = !word.getLsbD 31

/-- The two strobes are not both high. -/
def Apart (r : RomPrgmr) : Prop := ¬ (r.prgRomWrite = true ∧ r.chrRomWrite = true)

/-- Low strobes are not both high. -/
theorem Quiet.apart {r : RomPrgmr} (quiet : r.Quiet) : r.Apart := by
  intro both
  exact Bool.false_ne_true (quiet.1.symm.trans both.1)

/-- A word strobes one ROM. -/
theorem Strobes.apart {word : BitVec 32} {r : RomPrgmr} (strobes : r.Strobes word) : r.Apart := by
  intro both
  have selected := strobes.1.symm.trans both.1
  have other := strobes.2.symm.trans both.2
  rw [selected] at other
  exact absurd other (by decide)

/-- A selected chip passes the write line on to the strobe of the ROM that the word selects. -/
theorem clock_selected {r : RomPrgmr} (write : Bool) (word : BitVec 32)
    (before : r.Quiet ∨ r.Strobes word) :
    (r.clock ⟨true, write, word⟩).prgRomWrite = (word.getLsbD 31 && write) ∧
      (r.clock ⟨true, write, word⟩).chrRomWrite = (!word.getLsbD 31 && write) := by
  have prg : (r.clock ⟨true, write, word⟩).prgRomWrite =
      if word.getLsbD 31 then write else r.prgRomWrite := rfl
  have chr : (r.clock ⟨true, write, word⟩).chrRomWrite =
      if word.getLsbD 31 then r.chrRomWrite else write := rfl
  rw [prg, chr]
  cases selects : word.getLsbD 31 with
  | true =>
    have other : r.chrRomWrite = false := by
      rcases before with quiet | strobes
      · exact quiet.2
      · rw [strobes.2, selects]
        rfl
    exact ⟨rfl, other⟩
  | false =>
    have other : r.prgRomWrite = false := by
      rcases before with quiet | strobes
      · exact quiet.1
      · rw [strobes.1, selects]
    exact ⟨other, rfl⟩

/-- With the write line low both strobes are low after the next edge. -/
theorem clock_low {r : RomPrgmr} (word : BitVec 32) (before : r.Quiet ∨ r.Strobes word) :
    (r.clock ⟨true, false, word⟩).Quiet := by
  have selected := clock_selected false word before
  rw [Bool.and_false, Bool.and_false] at selected
  exact selected

/-- With the write line high the word strobes its ROM. -/
theorem clock_high {r : RomPrgmr} (word : BitVec 32) (before : r.Quiet ∨ r.Strobes word) :
    (r.clock ⟨true, true, word⟩).Strobes word := by
  have selected := clock_selected true word before
  rw [Bool.and_true, Bool.and_true] at selected
  exact selected

/-- A selected chip takes the header bits of the word. -/
theorem clock_header (r : RomPrgmr) (write : Bool) (word : BitVec 32) :
    (r.clock ⟨true, write, word⟩).header = r.header.store word := rfl

/-- A chip that is not selected has low strobes after the next edge, and keeps its header. -/
theorem clock_idle (r : RomPrgmr) (write : Bool) (word : BitVec 32) :
    (r.clock ⟨false, write, word⟩).Quiet ∧ (r.clock ⟨false, write, word⟩).header = r.header :=
  ⟨⟨rfl, rfl⟩, rfl⟩

end RomPrgmr

/-! ## Periods -/

/-- The ROMs of the console. -/
def Nes.gameRoms (nes : Nes) : GameRoms := ⟨nes.mem.prgRom.mem, nes.mem.chrRom.mem⟩

namespace Loader

variable {l : Loader} {word : BitVec 32}

/-- An edge of `MCLK` stores under the strobes, and nothing else moves the ROMs. -/
theorem mclk_gameRoms (port : AvalonPort) (prgmr : RomPrgmr) (nes : Nes) (edge : MclkEdge) :
    (mclk port prgmr nes edge).gameRoms =
      { prg :=
          if prgmr.prgRomWrite then Function.update nes.gameRoms.prg
            ((RomPrgmr.romAddr port).setWidth 15) (RomPrgmr.romData port)
          else nes.gameRoms.prg
        chr :=
          if prgmr.chrRomWrite then
            Chr.store nes.gameRoms.chr (RomPrgmr.romAddr port) (RomPrgmr.romData port)
          else nes.gameRoms.chr } := by
  unfold mclk
  cases edge.ppuRises <;> rfl

/-- With the strobes low the ROMs keep their contents. -/
theorem mclk_quiet (port : AvalonPort) {prgmr : RomPrgmr} (nes : Nes) (edge : MclkEdge)
    (quiet : prgmr.Quiet) : (mclk port prgmr nes edge).gameRoms = nes.gameRoms := by
  rw [mclk_gameRoms, quiet.1, quiet.2]
  rfl

/-- Under the strobe of a word it is stored. -/
theorem mclk_strobes {port : AvalonPort} {prgmr : RomPrgmr} (nes : Nes) (edge : MclkEdge)
    (strobes : prgmr.Strobes word) (data : port.writedata = word) :
    (mclk port prgmr nes edge).gameRoms = nes.gameRoms.store word := by
  rw [mclk_gameRoms, strobes.1, strobes.2, RomPrgmr.romAddr, RomPrgmr.romData, data]
  unfold GameRoms.store
  cases word.getLsbD 31 <;> rfl

/-- A period with low strobes keeps the ROMs. -/
theorem period_quiet (p : Period) (quiet : l.prgmr.Quiet) :
    (l.period p).nes.gameRoms = l.nes.gameRoms := by
  show (p.edges.foldl (mclk p.port l.prgmr) l.nes).gameRoms = l.nes.gameRoms
  generalize l.nes = nes
  induction p.edges generalizing nes with
  | nil => rfl
  | cons edge edges ih =>
    rw [List.foldl_cons, ih, mclk_quiet p.port nes edge quiet]

/-- A period under the strobe of a word stores it, if an edge of `MCLK` falls into it. -/
theorem period_strobes (p : Period) (strobes : l.prgmr.Strobes word)
    (data : p.port.writedata = word) :
    (l.period p).nes.gameRoms =
      if p.edges = [] then l.nes.gameRoms else l.nes.gameRoms.store word := by
  show (p.edges.foldl (mclk p.port l.prgmr) l.nes).gameRoms = _
  generalize l.nes = nes
  induction p.edges generalizing nes with
  | nil => rfl
  | cons edge edges ih =>
    rw [List.foldl_cons, ih, mclk_strobes nes edge strobes data,
      if_neg (List.cons_ne_nil edge edges)]
    split
    · rfl
    · exact GameRoms.store_store word _

/-- The two strobes are never both high while these periods last. -/
def NeverBoth (l : Loader) : List Period → Prop
  | [] => l.prgmr.Apart
  | p :: periods => l.prgmr.Apart ∧ (l.period p).NeverBoth periods

/-- Periods one after the other. -/
theorem run_append (front back : List Period) :
    l.run (front ++ back) = (l.run front).run back := List.foldl_append

/-- The strobes stay apart over two lists of periods when they do over each. -/
theorem NeverBoth.append {front back : List Period} (first : l.NeverBoth front)
    (second : (l.run front).NeverBoth back) : l.NeverBoth (front ++ back) := by
  induction front generalizing l with
  | nil => exact second
  | cons p front ih => exact ⟨first.1, ih first.2 second⟩

/-- They are apart after each number of the periods. -/
theorem NeverBoth.run {front back : List Period} (never : l.NeverBoth (front ++ back)) :
    (l.run front).prgmr.Apart := by
  induction front generalizing l with
  | nil =>
    cases back with
    | nil => exact never
    | cons p back => exact never.1
  | cons p front ih => exact ih never.2

/-! ## A word -/

/-- Periods with the word presented and the write line low keep everything but the header. -/
theorem run_low {periods : List Period} (low : ∀ p ∈ periods, p.port = ⟨true, false, word⟩)
    (quiet : l.prgmr.Quiet) :
    (l.run periods).prgmr.Quiet ∧ (l.run periods).nes.gameRoms = l.nes.gameRoms ∧
      l.NeverBoth periods := by
  induction periods generalizing l with
  | nil => exact ⟨quiet, rfl, quiet.apart⟩
  | cons p periods ih =>
    have here : p.port = ⟨true, false, word⟩ := low p List.mem_cons_self
    have after : (l.period p).prgmr.Quiet := by
      show (l.prgmr.clock p.port).Quiet
      rw [here]
      exact RomPrgmr.clock_low word (Or.inl quiet)
    have rest := ih (fun q inside => low q (List.mem_cons_of_mem p inside)) after
    exact ⟨rest.1, rest.2.1.trans (period_quiet p quiet), quiet.apart, rest.2.2⟩

/-- Periods with the write line high, from the second on, store the word if an edge of `MCLK`
falls into one of them. -/
theorem run_high {periods : List Period} (high : ∀ p ∈ periods, p.port = ⟨true, true, word⟩)
    (strobes : l.prgmr.Strobes word) :
    (l.run periods).prgmr.Strobes word ∧
      (l.run periods).nes.gameRoms =
        (if ∀ p ∈ periods, p.edges = [] then l.nes.gameRoms else l.nes.gameRoms.store word) ∧
      l.NeverBoth periods := by
  induction periods generalizing l with
  | nil => exact ⟨strobes, (if_pos (by simp)).symm, strobes.apart⟩
  | cons p periods ih =>
    have here : p.port = ⟨true, true, word⟩ := high p List.mem_cons_self
    have after : (l.period p).prgmr.Strobes word := by
      show (l.prgmr.clock p.port).Strobes word
      rw [here]
      exact RomPrgmr.clock_high word (Or.inr strobes)
    have rest := ih (fun q inside => high q (List.mem_cons_of_mem p inside)) after
    have data : p.port.writedata = word := by rw [here]
    refine ⟨rest.1, ?_, strobes.apart, rest.2.2⟩
    refine rest.2.1.trans ?_
    rw [period_strobes p strobes data]
    simp only [List.forall_mem_cons]
    by_cases none : p.edges = []
    · simp only [none, true_and, if_true]
    · simp only [none, false_and, if_false, GameRoms.store_store, ite_self]

/-- The header registers after periods that present one word. -/
theorem run_header {periods : List Period} (some : periods ≠ [])
    (presented : ∀ p ∈ periods, p.port.cs = true ∧ p.port.writedata = word) :
    (l.run periods).prgmr.header = l.prgmr.header.store word := by
  have again (h : Header) : (h.store word).store word = h.store word := by
    unfold Header.store
    cases word.getLsbD 28 <;> cases word.getLsbD 30 <;> rfl
  induction periods generalizing l with
  | nil => exact absurd rfl some
  | cons p periods ih =>
    have here := presented p List.mem_cons_self
    have port : p.port = ⟨true, p.port.write, word⟩ := by rw [← here.1, ← here.2]
    have first : (l.period p).prgmr.header = l.prgmr.header.store word := by
      show (l.prgmr.clock p.port).header = _
      rw [port]
      exact RomPrgmr.clock_header l.prgmr p.port.write word
    cases periods with
    | nil => exact first
    | cons q periods =>
      have rest : ((l.period p).run (q :: periods)).prgmr.header =
          (l.period p).prgmr.header.store word :=
        ih (List.cons_ne_nil q periods)
          fun r inside => presented r (List.mem_cons_of_mem p inside)
      exact rest.trans ((congrArg (Header.store word) first).trans (again _))

end Loader

/-- Periods that present the same in each of them. -/
theorem ports_replicate {periods : List Period} {count : ℕ} {port : AvalonPort}
    (ports : periods.map Period.port = List.replicate count port) :
    periods.length = count ∧ ∀ p ∈ periods, p.port = port := by
  have both := List.eq_replicate_iff.mp ports
  rw [List.length_map] at both
  exact ⟨both.1, fun p inside => both.2 p.port (List.mem_map_of_mem inside)⟩

/-- Ticking periods tick in every part of them. -/
theorem Ticking.append {front back : List Period} (ticking : Ticking (front ++ back)) :
    Ticking front ∧ Ticking back := by
  constructor
  · intro first last before one two three whole
    apply ticking first (last ++ back) before one two three
    rw [whole, List.append_assoc]
    rfl
  · intro first last before one two three whole
    apply ticking (front ++ first) last before one two three
    rw [whole, List.append_assoc]

/-- Ticking periods tick after the first of them. -/
theorem Ticking.tail {first : Period} {periods : List Period}
    (ticking : Ticking (first :: periods)) : Ticking periods :=
  (Ticking.append (show Ticking ([first] ++ periods) from ticking)).2

/-- Four ticking periods hold an edge of `MCLK`. -/
theorem Ticking.four {periods : List Period} (ticking : Ticking periods)
    (long : 4 ≤ periods.length) : ∃ p ∈ periods, p.edges ≠ [] := by
  match periods, long with
  | before :: one :: two :: three :: back, _ =>
    rcases ticking [] back before one two three rfl with last | inside | inside | inside
    · refine ⟨before, List.mem_cons_self, ?_⟩
      intro none
      rw [Period.edges, List.append_eq_nil_iff, Option.toList_eq_nil_iff] at none
      rw [none.2] at last
      exact Bool.false_ne_true last
    · exact ⟨one, by simp, inside⟩
    · exact ⟨two, by simp, inside⟩
    · exact ⟨three, by simp, inside⟩

namespace Loader

variable {l : Loader} {word : BitVec 32}

/-- The periods of a strobe and the one after it store the word, when four of them tick. -/
theorem run_strobe {first last : Period} {high : List Period} (quiet : l.prgmr.Quiet)
    (opens : first.port = ⟨true, true, word⟩) (highs : ∀ p ∈ high, p.port = ⟨true, true, word⟩)
    (closes : last.port = ⟨true, false, word⟩) (ticking : Ticking (high ++ [last]))
    (long : 3 ≤ high.length) :
    (l.run (first :: (high ++ [last]))).prgmr.Quiet ∧
      (l.run (first :: (high ++ [last]))).nes.gameRoms = l.nes.gameRoms.store word ∧
      l.NeverBoth (first :: (high ++ [last])) := by
  have opened : (l.period first).prgmr.Strobes word := by
    show (l.prgmr.clock first.port).Strobes word
    rw [opens]
    exact RomPrgmr.clock_high word (Or.inl quiet)
  have same := period_quiet first quiet
  have held := run_high highs opened
  have data : last.port.writedata = word := by rw [closes]
  have final := period_strobes last held.1 data
  have closed : (((l.period first).run high).period last).prgmr.Quiet := by
    show (((l.period first).run high).prgmr.clock last.port).Quiet
    rw [closes]
    exact RomPrgmr.clock_low word (Or.inr held.1)
  have whole : l.run (first :: (high ++ [last])) = ((l.period first).run high).period last :=
    (l.period first).run_append high [last]
  have four : 4 ≤ (high ++ [last]).length := by
    rw [List.length_append, List.length_singleton]
    omega
  obtain ⟨p, inside, edge⟩ := ticking.four four
  rw [whole]
  refine ⟨closed, ?_, quiet.apart, held.2.2.append ⟨held.1.apart, closed.apart⟩⟩
  rw [final, held.2.1, same]
  by_cases none : ∀ p ∈ high, p.edges = []
  · have here : last.edges ≠ [] := by
      rcases List.mem_append.mp inside with early | late
      · exact absurd (none p early) edge
      · rw [List.mem_singleton.mp late] at edge
        exact edge
    rw [if_pos none, if_neg here]
  · rw [if_neg none]
    simp only [GameRoms.store_store, ite_self]

/-- A word presented on the bus is stored once, and leaves the strobes low. -/
theorem run_word {periods : List Period} (setup strobe hold : ℕ)
    (lasts : 4 ≤ strobe) (holds : 1 ≤ hold) (quiet : l.prgmr.Quiet) (ticking : Ticking periods)
    (ports : periods.map Period.port =
      List.replicate setup ⟨true, false, word⟩ ++ List.replicate strobe ⟨true, true, word⟩ ++
        List.replicate hold ⟨true, false, word⟩) :
    (l.run periods).prgmr.Quiet ∧
      (l.run periods).nes.gameRoms = l.nes.gameRoms.store word ∧
      (l.run periods).prgmr.header = l.prgmr.header.store word ∧ l.NeverBoth periods := by
  obtain ⟨front, tail, rfl, fronts, tails⟩ := List.map_eq_append_iff.mp ports
  obtain ⟨low, high, rfl, lows, highs⟩ := List.map_eq_append_iff.mp fronts
  have low' := ports_replicate lows
  have high' := ports_replicate highs
  have tail' := ports_replicate tails
  have presented : ∀ p ∈ low ++ high ++ tail, p.port.cs = true ∧ p.port.writedata = word := by
    intro p inside
    rw [List.mem_append, List.mem_append] at inside
    rcases inside with (early | middle) | late
    · rw [low'.2 p early]
      exact ⟨rfl, rfl⟩
    · rw [high'.2 p middle]
      exact ⟨rfl, rfl⟩
    · rw [tail'.2 p late]
      exact ⟨rfl, rfl⟩
  cases high with
  | nil => exact absurd (lasts.trans_eq high'.1.symm) (by simp)
  | cons first high =>
    cases tail with
    | nil => exact absurd (holds.trans_eq tail'.1.symm) (by simp)
    | cons last rest =>
      have whole : low ++ first :: high ++ last :: rest =
          low ++ ((first :: (high ++ [last])) ++ rest) := by simp
      have some : low ++ first :: high ++ last :: rest ≠ [] := by simp
      have header : (l.run (low ++ first :: high ++ last :: rest)).prgmr.header =
          l.prgmr.header.store word := run_header some presented
      have long : 3 ≤ high.length := by
        have length := high'.1
        rw [List.length_cons] at length
        omega
      rw [whole] at ticking header ⊢
      have settled := run_low low'.2 quiet
      have strobed := run_strobe settled.1 (high'.2 first List.mem_cons_self)
        (fun p inside => high'.2 p (List.mem_cons_of_mem first inside))
        (tail'.2 last List.mem_cons_self) ticking.append.2.append.1.tail long
      have held := run_low (fun p inside => tail'.2 p (List.mem_cons_of_mem last inside)) strobed.1
      refine ⟨?_, ?_, header, settled.2.2.append (strobed.2.2.append held.2.2)⟩
      · rw [run_append, run_append]
        exact held.1
      · rw [run_append, run_append, held.2.1, strobed.2.1, settled.2.1]

/-- A list of words presented on the bus is stored in order, each once. -/
theorem run_presents {words : List (BitVec 32)} {ports : List AvalonPort}
    (presents : Presents words ports) (periods : List Period)
    (same : periods.map Period.port = ports) (quiet : l.prgmr.Quiet)
    (ticking : Ticking periods) :
    (l.run periods).prgmr.Quiet ∧
      (l.run periods).nes.gameRoms =
        words.foldl (fun roms word => roms.store word) l.nes.gameRoms ∧
      (l.run periods).prgmr.header =
        words.foldl (fun header word => header.store word) l.prgmr.header ∧
      l.NeverBoth periods := by
  induction presents generalizing l periods with
  | done =>
    rw [List.map_eq_nil_iff] at same
    rw [same]
    exact ⟨quiet, rfl, rfl, quiet.apart⟩
  | idle write data _ ih =>
    obtain ⟨p, rest, rfl, port, ports⟩ := List.map_eq_cons_iff.mp same
    have idle : (l.period p).prgmr.Quiet ∧ (l.period p).prgmr.header = l.prgmr.header := by
      show (l.prgmr.clock p.port).Quiet ∧ (l.prgmr.clock p.port).header = l.prgmr.header
      rw [port]
      exact RomPrgmr.clock_idle l.prgmr write data
    have after := ih rest ports idle.1 ticking.tail
    rw [period_quiet p quiet, idle.2] at after
    exact ⟨after.1, after.2.1, after.2.2.1, quiet.apart, after.2.2.2⟩
  | word data setup strobe hold _ lasts holds _ ih =>
    obtain ⟨front, rest, rfl, fronts, ports⟩ := List.map_eq_append_iff.mp same
    have here := run_word setup strobe hold lasts holds quiet ticking.append.1 fronts
    have after := ih rest ports here.1 ticking.append.2
    rw [here.2.1, here.2.2.1] at after
    rw [run_append]
    exact ⟨after.1, after.2.1, after.2.2.1, here.2.2.2.append after.2.2.2⟩

end Loader

/-! ## The words of a game -/

/-- The address of a driver word. -/
theorem romWord_addr (address : BitVec 16) (data : Byte) :
    (romWord address data).extractLsb' 0 16 = address := by
  apply BitVec.eq_of_getLsbD_eq
  intro i inside
  have bound : i < 32 := by omega
  simp [romWord, inside, bound]

/-- The data of a driver word. -/
theorem romWord_data (address : BitVec 16) (data : Byte) :
    (romWord address data).extractLsb' 16 8 = data := by
  apply BitVec.eq_of_getLsbD_eq
  intro i inside
  have bound : 16 + i < 32 := by omega
  simp [romWord, inside, bound]

/-- The top byte of a driver word is clear before the driver marks it. -/
theorem romWord_high (address : BitVec 16) (data : Byte) (i : ℕ) (high : 24 ≤ i) :
    (romWord address data).getLsbD i = false := by
  have low : address.getLsbD i = false := BitVec.getLsbD_of_ge _ _ (by omega)
  have past : data.getLsbD (i - 16) = false := BitVec.getLsbD_of_ge _ _ (by omega)
  simp [romWord, low, past]

/-- A program word stores its byte in the program ROM. -/
theorem GameRoms.store_prg (r : GameRoms) (address : BitVec 16) (data : Byte) :
    r.store (writePrgRom address data) =
      { r with prg := Function.update r.prg (address.setWidth 15) data } := by
  have selects : (writePrgRom address data).getLsbD 31 = true := by
    rw [writePrgRom, BitVec.getLsbD_or]
    rfl
  have addr : (writePrgRom address data).extractLsb' 0 16 = address := by
    rw [writePrgRom, BitVec.extractLsb'_or, romWord_addr]
    exact BitVec.zero_or
  have byte : (writePrgRom address data).extractLsb' 16 8 = data := by
    rw [writePrgRom, BitVec.extractLsb'_or, romWord_data]
    exact BitVec.zero_or
  rw [store, selects, addr, byte]
  rfl

/-- A character word stores its byte in the character ROM. -/
theorem GameRoms.store_chr (r : GameRoms) (address : BitVec 16) (data : Byte) :
    r.store (writeChrRom address data) = { r with chr := Chr.store r.chr address data } := by
  have word : writeChrRom address data = romWord address data := BitVec.zero_or
  rw [word, store, romWord_high address data 31 (by decide), romWord_addr, romWord_data]
  rfl

/-- Neither has header bits. -/
theorem Header.store_rom (h : Header) (address : BitVec 16) (data : Byte) :
    h.store (writePrgRom address data) = h ∧ h.store (writeChrRom address data) = h := by
  have chr : writeChrRom address data = romWord address data := BitVec.zero_or
  have kind : (romWord address data).getLsbD 28 = false := romWord_high address data 28 (by decide)
  have mode : (romWord address data).getLsbD 30 = false := romWord_high address data 30 (by decide)
  have prgKind : (writePrgRom address data).getLsbD 28 = false := by
    rw [writePrgRom, BitVec.getLsbD_or, kind]
    rfl
  have prgMode : (writePrgRom address data).getLsbD 30 = false := by
    rw [writePrgRom, BitVec.getLsbD_or, mode]
    rfl
  constructor
  · rw [store, prgKind, prgMode]
    rfl
  · rw [store, chr, kind, mode]
    rfl

/-- The header word sets both header registers, and leaves the character ROM alone. -/
theorem store_writeHeaderInfo (h : Header) (r : GameRoms) (isVertical isChrRam : BitVec 32) :
    h.store (writeHeaderInfo isVertical isChrRam) = ⟨isChrRam != 0, isVertical != 0⟩ ∧
      (r.store (writeHeaderInfo isVertical isChrRam)).chr = r.chr := by
  unfold writeHeaderInfo
  by_cases vertical : isVertical = 0
  · by_cases ram : isChrRam = 0
    · rw [vertical, ram]
      exact ⟨rfl, rfl⟩
    · simp only [vertical, ne_eq, ram, not_true_eq_false, not_false_eq_true, if_true, if_false]
      rw [bne_iff_ne.mpr ram]
      exact ⟨rfl, rfl⟩
  · by_cases ram : isChrRam = 0
    · simp only [vertical, ne_eq, ram, not_true_eq_false, not_false_eq_true, if_true, if_false]
      rw [bne_iff_ne.mpr vertical]
      exact ⟨rfl, rfl⟩
    · simp only [vertical, ne_eq, ram, not_false_eq_true, if_true]
      rw [bne_iff_ne.mpr vertical, bne_iff_ne.mpr ram]
      exact ⟨rfl, rfl⟩

/-- The cell of a program address: the upper half of the address space holds one image of 32
KiB, or one of 16 KiB twice. -/
theorem prgCell_toNat (base : BitVec 16) (i : ℕ) :
    ((base + BitVec.ofNat 16 i).setWidth 15).toNat = (base.toNat + i) % 32768 := by
  rw [BitVec.toNat_setWidth, BitVec.toNat_add, BitVec.toNat_ofNat]
  omega

/-- One round of the loop over a program image of one or two 16 KiB banks stores its byte in
every cell that mirrors it. -/
theorem prgWrites_store (prg : List Byte) (r : GameRoms) (i : ℕ) (inside : i < prg.length)
    (size : prg.length = 16384 ∨ prg.length = 32768) :
    (prgWrites prg i).foldl (fun roms word => roms.store word) r =
      { r with prg := fun cell =>
          if cell.toNat % prg.length = i then prg.getD i 0 else r.prg cell } := by
  have low (cell : BitVec 15) : cell = (0x8000 + BitVec.ofNat 16 i : BitVec 16).setWidth 15 ↔
      cell.toNat = i := by
    rw [← BitVec.toNat_inj, prgCell_toNat]
    show cell.toNat = (0x8000 + i) % 32768 ↔ cell.toNat = i
    omega
  rcases size with one | two
  · have high (cell : BitVec 15) : cell = (0xC000 + BitVec.ofNat 16 i : BitVec 16).setWidth 15 ↔
        cell.toNat = 16384 + i := by
      rw [← BitVec.toNat_inj, prgCell_toNat]
      show cell.toNat = (0xC000 + i) % 32768 ↔ cell.toNat = 16384 + i
      omega
    have words : prgWrites prg i =
        [writePrgRom (0xC000 + BitVec.ofNat 16 i) (prg.getD i 0),
          writePrgRom (0x8000 + BitVec.ofNat 16 i) (prg.getD i 0)] := by
      show (if prg.length = 16384 then _ else _) ++ _ = _
      rw [if_pos one]
      rfl
    rw [words, List.foldl_cons, List.foldl_cons, List.foldl_nil, GameRoms.store_prg,
      GameRoms.store_prg]
    congr 1
    funext cell
    have bound := cell.isLt
    simp only [Function.update_apply, low, high, one]
    by_cases first : cell.toNat = i
    · rw [if_pos first, if_pos (by omega)]
    · by_cases second : cell.toNat = 16384 + i
      · rw [if_neg first, if_pos second, if_pos (by omega)]
      · rw [if_neg first, if_neg second, if_neg (by omega)]
  · have words : prgWrites prg i =
        [writePrgRom (0x8000 + BitVec.ofNat 16 i) (prg.getD i 0)] := by
      show (if prg.length = 16384 then _ else _) ++ _ = _
      rw [if_neg (by omega)]
      rfl
    rw [words, List.foldl_cons, List.foldl_nil, GameRoms.store_prg]
    congr 1
    funext cell
    have bound := cell.isLt
    simp only [Function.update_apply, low, two, Nat.mod_eq_of_lt bound]

/-- The loop over the program image leaves each cell with its byte of the image. -/
theorem prgLoop_store (prg : List Byte) (r : GameRoms) (rounds : ℕ) (inside : rounds ≤ prg.length)
    (size : prg.length = 16384 ∨ prg.length = 32768) :
    ((List.range rounds).flatMap (prgWrites prg)).foldl (fun roms word => roms.store word) r =
      { r with prg := fun cell =>
          if cell.toNat % prg.length < rounds then prg.getD (cell.toNat % prg.length) 0
          else r.prg cell } := by
  induction rounds with
  | zero => rfl
  | succ i ih =>
    rw [List.range_succ, List.flatMap_append, List.foldl_append, ih (by omega),
      List.flatMap_singleton, prgWrites_store prg _ i inside size]
    congr 1
    funext cell
    dsimp only
    by_cases here : cell.toNat % prg.length = i
    · rw [if_pos here, if_pos (by omega), here]
    · rw [if_neg here]
      by_cases before : cell.toNat % prg.length < i
      · rw [if_pos before, if_pos (by omega)]
      · rw [if_neg before, if_neg (by omega)]

/-- The loop over the character image stores it from the first cell on. -/
theorem chrLoop_store (chr : List Byte) (r : GameRoms) (rounds : ℕ) (inside : rounds ≤ 8192) :
    ((List.range rounds).flatMap (chrWrites chr)).foldl (fun roms word => roms.store word) r =
      { r with chr := fun cell =>
          if cell.toNat < rounds then chr.getD cell.toNat 0 else r.chr cell } := by
  induction rounds with
  | zero => rfl
  | succ i ih =>
    have address : (0x0000 + BitVec.ofNat 16 i : BitVec 16) = BitVec.ofNat 16 i := BitVec.zero_add _
    have value : (BitVec.ofNat 16 i).toNat = i := by
      rw [BitVec.toNat_ofNat]
      omega
    have here (cell : BitVec 13) : cell = (BitVec.ofNat 16 i).setWidth 13 ↔ cell.toNat = i := by
      rw [← BitVec.toNat_inj, BitVec.toNat_setWidth, value]
      omega
    rw [List.range_succ, List.flatMap_append, List.foldl_append, ih (by omega),
      List.flatMap_singleton, chrWrites, List.foldl_cons, List.foldl_nil, GameRoms.store_chr,
      address, Chr.store, value, if_pos (by omega)]
    congr 1
    funext cell
    simp only [Function.update_apply, here]
    by_cases now : cell.toNat = i
    · rw [if_pos now, if_pos (by omega), now]
    · rw [if_neg now]
      by_cases before : cell.toNat < i
      · rw [if_pos before, if_pos (by omega)]
      · rw [if_neg before, if_neg (by omega)]

/-- Words without header bits keep the header. -/
theorem header_kept {words : List (BitVec 32)} (h : Header)
    (kept : ∀ word ∈ words, ∀ h : Header, h.store word = h) :
    words.foldl (fun header word => header.store word) h = h := by
  induction words with
  | nil => rfl
  | cons word words ih =>
    rw [List.foldl_cons, kept word List.mem_cons_self]
    exact ih fun other inside => kept other (List.mem_cons_of_mem word inside)

/-- What the words of a game leave in the ROMs and in the header registers. -/
theorem programWrites_store (isVertical isChrRam : BitVec 32) (prg chr : List Byte)
    (roms : GameRoms) (h : Header) (size : prg.length = 16384 ∨ prg.length = 32768)
    (chrSize : chr.length ≤ 8192) :
    let words := programWrites isVertical isChrRam prg chr
    let after := words.foldl (fun roms word => roms.store word) roms
    (∀ cell, after.prg cell = prg.getD (cell.toNat % prg.length) 0) ∧
      (∀ cell, cell.toNat < chr.length → after.chr cell = chr.getD cell.toNat 0) ∧
      words.foldl (fun header word => header.store word) h =
        ⟨isChrRam != 0, isVertical != 0⟩ := by
  have info := store_writeHeaderInfo h roms isVertical isChrRam
  have bare : ∀ word ∈ (List.range prg.length).flatMap (prgWrites prg) ++
      (List.range chr.length).flatMap (chrWrites chr), ∀ h : Header, h.store word = h := by
    intro word inside h
    rw [List.mem_append, List.mem_flatMap, List.mem_flatMap] at inside
    rcases inside with ⟨i, -, written⟩ | ⟨i, -, written⟩
    · rw [prgWrites, List.mem_append, List.mem_singleton] at written
      rcases written with mirror | word'
      · split at mirror
        · rw [List.mem_singleton.mp mirror]
          exact (h.store_rom _ _).1
        · exact absurd mirror List.not_mem_nil
      · rw [word']
        exact (h.store_rom _ _).1
    · rw [List.mem_singleton.mp written]
      exact (h.store_rom _ _).2
  intro words after
  have loaded : after =
      { prg := fun cell =>
          if cell.toNat % prg.length < prg.length then prg.getD (cell.toNat % prg.length) 0
          else (roms.store (writeHeaderInfo isVertical isChrRam)).prg cell
        chr := fun cell =>
          if cell.toNat < chr.length then chr.getD cell.toNat 0
          else (roms.store (writeHeaderInfo isVertical isChrRam)).chr cell } := by
    show (programWrites isVertical isChrRam prg chr).foldl _ roms = _
    rw [programWrites, List.foldl_cons, List.foldl_append,
      prgLoop_store prg _ prg.length (Nat.le_refl _) size, chrLoop_store chr _ chr.length chrSize]
  refine ⟨fun cell => ?_, fun cell inside => ?_, ?_⟩
  · have below : cell.toNat % prg.length < prg.length := Nat.mod_lt _ (by omega)
    rw [loaded]
    exact if_pos below
  · rw [loaded]
    exact if_pos inside
  · show (programWrites isVertical isChrRam prg chr).foldl _ h = _
    rw [programWrites, List.foldl_cons, info.1]
    exact header_kept _ bare

/-- After `main` has stored a game over any presentation of its words on the bus and any two
clocks of which `MCLK` has an edge in every three periods of `CLK`: the processor reads the
program image, twice when it is 16 KiB, the character ROM holds its image, the header registers
hold the header, and no edge of `MCLK` met both strobes high. -/
theorem game_programmed (isVertical isChrRam : BitVec 32) (prg chr : List Byte) (start : Nes)
    (periods : List Period) (size : prg.length = 16384 ∨ prg.length = 32768)
    (chrSize : chr.length ≤ 8192)
    (presents : Presents (programWrites isVertical isChrRam prg chr) (periods.map Period.port))
    (ticking : Ticking periods) :
    let done := (Loader.powerUp start).run periods
    (∀ (port : AvalonPort) (pins : Pins) (addr : BitVec 16), 0x8000 ≤ addr.toNat →
        some (done.nes.cpuReads (done.prgmr.drive port pins) addr) =
          prg[(addr.toNat - 0x8000) % prg.length]?) ∧
      (∀ i < chr.length, some (done.nes.mem.chrRom.mem (BitVec.ofNat 13 i)) = chr[i]?) ∧
      done.prgmr.mirroringMode = (isVertical != 0) ∧
      done.prgmr.isChrRam = (isChrRam != 0) ∧
      (∀ front back, periods = front ++ back →
        ¬ (((Loader.powerUp start).run front).prgmr.prgRomWrite = true ∧
          ((Loader.powerUp start).run front).prgmr.chrRomWrite = true)) := by
  intro done
  have stored := Loader.run_presents presents periods rfl
    (show (Loader.powerUp start).prgmr.Quiet from ⟨rfl, rfl⟩) ticking
  have words := programWrites_store isVertical isChrRam prg chr start.gameRoms
    (Loader.powerUp start).prgmr.header size chrSize
  have roms : done.nes.gameRoms = _ := stored.2.1
  have header : done.prgmr.header = ⟨isChrRam != 0, isVertical != 0⟩ :=
    stored.2.2.1.trans words.2.2
  refine ⟨fun port pins addr high => ?_, fun i inside => ?_, congrArg Header.mirroringMode header,
    congrArg Header.isChrRam header, fun front back whole => ?_⟩
  · have bound := addr.isLt
    have index : (addr.setWidth 15).toNat % prg.length = (addr.toNat - 0x8000) % prg.length := by
      rw [BitVec.toNat_setWidth]
      rcases size with one | two
      · rw [one]
        omega
      · rw [two]
        omega
    have below : (addr.toNat - 0x8000) % prg.length < prg.length := Nat.mod_lt _ (by omega)
    have idle : (done.prgmr.drive port pins).prgRomPrgmrWren = false := stored.1.1
    have cell : done.nes.mem.prgRom.mem (addr.setWidth 15) =
        prg.getD ((addr.toNat - 0x8000) % prg.length) 0 := by
      rw [← index, ← words.1 (addr.setWidth 15)]
      exact congrFun (congrArg GameRoms.prg roms) _
    rw [Nes.cpuReads_rom _ addr done.nes (by omega), Nes.romCell, Nes.programmedRom, idle,
      if_neg Bool.false_ne_true, cell, List.getD_eq_getElem?_getD,
      List.getElem?_eq_getElem below]
    rfl
  · have value : (BitVec.ofNat 13 i).toNat = i := by
      rw [BitVec.toNat_ofNat]
      omega
    have cell : done.nes.mem.chrRom.mem (BitVec.ofNat 13 i) = chr.getD i 0 := by
      have image := words.2.1 (BitVec.ofNat 13 i) (by omega)
      rw [value] at image
      rw [← image]
      exact congrFun (congrArg GameRoms.chr roms) _
    rw [cell, List.getD_eq_getElem?_getD, List.getElem?_eq_getElem inside]
    rfl
  · have never := stored.2.2.2
    rw [whole] at never
    exact never.run

/-- A bus that presents each word in the least number of cycles, with an edge of `MCLK` on each
edge of `CLK`. -/
def brisk (words : List (BitVec 32)) : List Period :=
  words.flatMap fun word =>
    let edge : MclkEdge := ⟨.playing, .fetch 0x8000, false, false⟩
    [⟨⟨true, false, word⟩, [], some edge⟩, ⟨⟨true, true, word⟩, [], some edge⟩,
      ⟨⟨true, true, word⟩, [], some edge⟩, ⟨⟨true, true, word⟩, [], some edge⟩,
      ⟨⟨true, true, word⟩, [], some edge⟩, ⟨⟨true, false, word⟩, [], some edge⟩]

/-- It presents them. -/
theorem brisk_presents (words : List (BitVec 32)) :
    Presents words ((brisk words).map Period.port) := by
  induction words with
  | nil => exact .done
  | cons word words ih =>
    exact .word word 1 4 1 (Nat.le_refl 1) (Nat.le_refl 4) (Nat.le_refl 1) ih

/-- It ticks. -/
theorem brisk_ticking (words : List (BitVec 32)) : Ticking (brisk words) := by
  intro front back before first second third whole
  have inside : before ∈ brisk words := by
    rw [whole]
    exact List.mem_append_right front List.mem_cons_self
  left
  obtain ⟨word, -, here⟩ := List.mem_flatMap.mp inside
  simp only [List.mem_cons, List.not_mem_nil, or_false] at here
  rcases here with rfl | rfl | rfl | rfl | rfl | rfl <;> rfl

/-- A game of one bank without CHR RAM: the reset vector, the second byte of CHR ROM and the
mirroring are as its words give them. -/
theorem oneBank_programmed :
    let game := programWrites 1 0 (List.replicate 16384 0xEA) [0x3C, 0x42]
    let done := (Loader.powerUp (.powerUp .blank)).run (brisk game)
    done.nes.cpuReads (done.prgmr.drive ⟨false, false, 0⟩ .playing) 0xFFFC = 0xEA ∧
      done.nes.mem.chrRom.mem (BitVec.ofNat 13 1) = 0x42 ∧ done.prgmr.mirroringMode = true := by
  intro game
  have loaded := game_programmed 1 0 (List.replicate 16384 0xEA) [0x3C, 0x42] (.powerUp .blank)
    (brisk game) (Or.inl List.length_replicate) (by simp) (brisk_presents game)
    (brisk_ticking game)
  generalize (Loader.powerUp (.powerUp .blank)).run (brisk game) = done at loaded ⊢
  have vector := loaded.1 ⟨false, false, 0⟩ .playing 0xFFFC (by decide)
  rw [List.length_replicate, List.getElem?_replicate, if_pos (by decide)] at vector
  have second := loaded.2.1 1 (by decide)
  exact ⟨Option.some.inj vector, Option.some.inj second, loaded.2.2.1⟩

end FpgaNes
