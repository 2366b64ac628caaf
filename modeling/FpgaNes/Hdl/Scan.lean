import Mathlib.Data.Nat.Periodic

/-!
# Scans that fill a bounded store

A scan visits positions in order and keeps those that satisfy a test, until its store is
full. When the positions run more than once around a table, what a search of the store
finds is already found in the first round.
-/

namespace FpgaNes.Hdl

variable {limit period : ℕ} {test : ℕ → Bool}

/-- The positions a scan of some length has kept. -/
def collected (limit : ℕ) (test : ℕ → Bool) (count : ℕ) : List ℕ :=
  ((List.range count).filter test).take limit

/-- A scan that has visited nothing has kept nothing. -/
@[simp] theorem collected_zero : collected limit test 0 = [] := List.take_nil

/-- The store is never over its limit. -/
theorem length_collected_le (limit : ℕ) (test : ℕ → Bool) (count : ℕ) :
    (collected limit test count).length ≤ limit :=
  List.length_take_le limit _

/-- Kept positions have been visited and satisfy the test. -/
theorem mem_collected {count position : ℕ} (kept : position ∈ collected limit test count) :
    position < count ∧ test position = true := by
  have passed := List.mem_filter.mp (List.mem_of_mem_take kept)
  exact ⟨List.mem_range.mp passed.1, passed.2⟩

/-- A store that is not full holds every visited position that satisfies the test. -/
theorem mem_collected_of_room {count position : ℕ}
    (room : (collected limit test count).length < limit) (visited : position < count)
    (passes : test position = true) : position ∈ collected limit test count := by
  have whole : ((List.range count).filter test).length ≤ limit := by
    rw [collected, List.length_take] at room
    omega
  rw [collected, List.take_of_length_le whole]
  exact List.mem_filter.mpr ⟨List.mem_range.mpr visited, passes⟩

/-- A visited position that satisfies the test leaves something in the store. -/
theorem length_collected_pos {count position : ℕ} (positive : 0 < limit)
    (visited : position < count) (passes : test position = true) :
    0 < (collected limit test count).length := by
  apply Nat.pos_of_ne_zero
  intro empty
  have kept := mem_collected_of_room (empty.trans_lt positive) visited passes
  rw [List.length_eq_zero_iff.mp empty] at kept
  exact List.not_mem_nil kept

/-- One more position is kept when it satisfies the test and there is room. -/
theorem collected_succ (count : ℕ) :
    collected limit test (count + 1) =
      if (collected limit test count).length < limit ∧ test count = true then
        collected limit test count ++ [count]
      else collected limit test count := by
  unfold collected
  rw [List.range_succ, List.filter_append, List.take_append, List.length_take]
  by_cases room : ((List.range count).filter test).length < limit
  · have whole : min limit ((List.range count).filter test).length < limit := by omega
    obtain ⟨spare, left⟩ : ∃ spare, limit - ((List.range count).filter test).length = spare + 1 :=
      ⟨limit - ((List.range count).filter test).length - 1, by omega⟩
    cases passes : test count with
    | true => rw [if_pos ⟨whole, rfl⟩, left, List.filter_cons_of_pos passes]; simp
    | false =>
      rw [if_neg (fun both => Bool.false_ne_true both.2),
        List.filter_cons_of_neg (Bool.eq_false_iff.mp passes), List.filter_nil, List.take_nil,
        List.append_nil]
  · have full : ¬ min limit ((List.range count).filter test).length < limit := by omega
    have none : limit - ((List.range count).filter test).length = 0 := by omega
    rw [if_neg (fun both => full both.1), none, List.take_zero, List.append_nil]

/-- A scan depends on the test at the visited positions only. -/
theorem collected_congr {other : ℕ → Bool} (limit count : ℕ)
    (agree : ∀ position < count, test position = other position) :
    collected limit test count = collected limit other count := by
  unfold collected
  rw [List.filter_congr fun position visited => agree position (List.mem_range.mp visited)]

/-- A longer scan keeps what a shorter one has kept, in the same places. -/
theorem collected_append (limit : ℕ) (test : ℕ → Bool) (count more : ℕ) :
    ∃ rest, collected limit test (count + more) = collected limit test count ++ rest := by
  induction more with
  | zero => exact ⟨[], (List.append_nil _).symm⟩
  | succ more ih =>
    obtain ⟨rest, same⟩ := ih
    rw [← Nat.add_assoc, collected_succ, same]
    by_cases keeps : (collected limit test count ++ rest).length < limit ∧
        test (count + more) = true
    · rw [if_pos keeps, List.append_assoc]
      exact ⟨rest ++ [count + more], rfl⟩
    · rw [if_neg keeps]
      exact ⟨rest, rfl⟩

/-- What a scan has kept stays kept. -/
theorem collected_mono {count later position : ℕ} (order : count ≤ later)
    (kept : position ∈ collected limit test count) : position ∈ collected limit test later := by
  obtain ⟨more, rfl⟩ := Nat.exists_eq_add_of_le order
  obtain ⟨rest, same⟩ := collected_append limit test count more
  rw [same]
  exact List.mem_append_left rest kept

/-- A scan that keeps its first position keeps it in the first place. -/
theorem head?_collected (count : ℕ) (positive : 0 < limit) (visits : 0 < count)
    (passes : test 0 = true) : (collected limit test count).head? = some 0 := by
  obtain ⟨more, rfl⟩ := Nat.exists_eq_add_of_lt visits
  have first : collected limit test (0 + 1) = [0] := by
    rw [collected_succ, collected_zero, if_pos ⟨positive, passes⟩]
    rfl
  have order : 0 + more + 1 = 0 + 1 + more := by omega
  obtain ⟨rest, same⟩ := collected_append limit test (0 + 1) more
  rw [order, same, first]
  rfl

/-- Going around a table again adds nothing that a search can find. -/
theorem find?_collected_around {search : ℕ → Bool} (more : ℕ) (positive : 0 < period)
    (tests : Function.Periodic test period) (searches : Function.Periodic search period) :
    (collected limit test (period + more)).find? search =
      (collected limit test period).find? search := by
  obtain ⟨rest, same⟩ := collected_append limit test period more
  rw [same, List.find?_append]
  cases found : (collected limit test period).find? search with
  | some position => rfl
  | none =>
    have missed := List.find?_eq_none.mp found
    rw [Option.none_or, List.find?_eq_none]
    intro position added
    have kept : position ∈ collected limit test (period + more) := by
      rw [same]
      exact List.mem_append_right _ added
    have room : (collected limit test period).length < limit := by
      have bound := length_collected_le limit test (period + more)
      have some := List.length_pos_of_mem added
      rw [same, List.length_append] at bound
      omega
    have passes := (mem_collected kept).2
    rw [← tests.map_mod_nat] at passes
    rw [← searches.map_mod_nat]
    exact missed _ (mem_collected_of_room room (Nat.mod_lt position positive) passes)

/-- Each round of a table finds the same number of positions. -/
theorem length_filter_rounds (tests : Function.Periodic test period) (rounds : ℕ) :
    ((List.range (rounds * period)).filter test).length =
      rounds * ((List.range period).filter test).length := by
  induction rounds with
  | zero => rw [Nat.zero_mul, Nat.zero_mul]; rfl
  | succ rounds ih =>
    have shifted : test ∘ (fun k => rounds * period + k) = test := by
      funext k
      show test (rounds * period + k) = test k
      rw [Nat.add_comm]
      exact tests.nat_mul rounds k
    rw [Nat.succ_mul, Nat.succ_mul, List.range_add, List.filter_append, List.length_append, ih,
      List.filter_map, List.length_map, shifted]

/-- A scan that goes around a table some number of times keeps as many positions, up to its
limit, as all of its rounds find. -/
theorem length_collected_rounds (tests : Function.Periodic test period) (rounds : ℕ) :
    (collected limit test (rounds * period)).length =
      min limit (rounds * ((List.range period).filter test).length) := by
  rw [collected, List.length_take, length_filter_rounds tests]

/-- The first positions a scan keeps are those of its first round. -/
theorem getElem?_collected_around (more : ℕ) {slot : ℕ} (fits : slot < limit)
    (inside : slot < ((List.range period).filter test).length) :
    (collected limit test (period + more))[slot]? =
      ((List.range period).filter test)[slot]? := by
  have first : (collected limit test period)[slot]? =
      ((List.range period).filter test)[slot]? := by
    rw [collected, List.getElem?_take, if_pos fits]
  have taken : slot < (collected limit test period).length := by
    rw [collected, List.length_take]
    omega
  obtain ⟨rest, same⟩ := collected_append limit test period more
  rw [same, List.getElem?_append_left taken, first]

/-- A search of the slots of a store finds the slot of what a search of its items finds. -/
theorem find?_slots {α : Type*} (kept : List α) (slots : ℕ) (fits : kept.length ≤ slots)
    (search : α → Bool) (shows : Fin slots → Bool)
    (filled : ∀ (i : Fin slots) (inside : i.val < kept.length), shows i = search kept[i.val])
    (blank : ∀ i : Fin slots, kept.length ≤ i.val → shows i = false) :
    ((List.finRange slots).find? shows).bind (fun i => kept[i.val]?) = kept.find? search := by
  induction kept generalizing slots with
  | nil =>
    have none : (List.finRange slots).find? shows = none := by
      apply List.find?_eq_none.mpr
      intro i _
      rw [blank i (Nat.zero_le _)]
      exact Bool.false_ne_true
    rw [none]
    rfl
  | cons item kept ih =>
    obtain ⟨more, rfl⟩ := Nat.exists_eq_add_of_le' (Nat.one_le_of_lt fits)
    have first : shows 0 = search item := filled 0 (Nat.succ_pos _)
    rw [List.finRange_succ, List.find?_cons, List.find?_cons, first]
    cases search item with
    | true => rfl
    | false =>
      have rest := ih more (Nat.le_of_succ_le_succ fits) (fun i => shows i.succ)
        (fun i inside => filled i.succ (Nat.succ_lt_succ inside))
        (fun i past => blank i.succ (Nat.succ_le_succ past))
      rw [← rest]
      simp only [List.find?_map, Option.bind_map]
      rfl

end FpgaNes.Hdl
