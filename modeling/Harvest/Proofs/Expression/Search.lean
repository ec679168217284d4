import Harvest.Expression.Matching

/-!
# Where an expression matches

What follows an expression is tried only at positions between the one it is matched at and the end
of the text. So a match that starts within the text also ends there, and not before its start. A
search yields the match at the least position that has one.
-/

namespace Harvest

namespace Expression

variable {s : Array Char}

/-- Whatever comes out was passed on by the continuation, at a position between the one that was
tried and the end of the text. -/
def Confined (s : Array Char)
    (body : Nat → Captures → Continuation → Option (Nat × Captures)) : Prop :=
  ∀ i c k r, i ≤ s.size → body i c k = some r → ∃ j d, i ≤ j ∧ j ≤ s.size ∧ k j d = some r

theorem add_le_size_of_repeatsAt {f : Folding} {i j n : Nat} (hi : i ≤ s.size)
    (h : repeatsAt s f i j n = true) : i + n ≤ s.size := by
  induction n generalizing i j with
  | zero => exact hi
  | succ n ih =>
    rw [repeatsAt] at h
    split at h
    · rename_i c d hc hd
      have hlt : i < s.size := (Array.getElem?_eq_some_iff.1 hc).1
      rw [Bool.and_eq_true] at h
      have hrest := ih hlt h.2
      omega
    · cases h

theorem add_runLength_le (cs : CharSet) (fuel : Nat) {i : Nat} (hi : i ≤ s.size) :
    i + runLength s cs fuel i ≤ s.size := by
  induction fuel generalizing i with
  | zero => exact hi
  | succ fuel ih =>
    rw [runLength]
    split
    · exact hi
    · rename_i c hc
      have hlt : i < s.size := (Array.getElem?_eq_some_iff.1 hc).1
      split
      · have hrest : i + 1 + runLength s cs fuel (i + 1) ≤ s.size := ih hlt
        omega
      · exact hi

theorem exists_of_fromLongest {i least n : Nat} {c : Captures} {k : Continuation}
    {r : Nat × Captures} (h : fromLongest i least c k n = some r) :
    ∃ j, i ≤ j ∧ j ≤ i + n ∧ k j c = some r := by
  induction n with
  | zero =>
    rw [fromLongest] at h
    split at h
    · exact ⟨i, Nat.le_refl i, Nat.le_refl i, h⟩
    · cases h
  | succ n ih =>
    rw [fromLongest] at h
    split at h
    · cases h
    · split at h
      · rename_i r' hr
        exact ⟨i + (n + 1), Nat.le_add_right _ _, Nat.le_refl _, hr.trans h⟩
      · obtain ⟨j, hij, hj, hk⟩ := ih h
        exact ⟨j, hij, by omega, hk⟩

theorem exists_of_fromShortest {i n : Nat} {c : Captures} {k : Continuation} {r : Nat × Captures}
    (h : fromShortest c k n i = some r) : ∃ j, i ≤ j ∧ j ≤ i + n ∧ k j c = some r := by
  induction n generalizing i with
  | zero => exact ⟨i, Nat.le_refl i, Nat.le_refl i, h⟩
  | succ n ih =>
    rw [fromShortest] at h
    split at h
    · rename_i r' hr
      exact ⟨i, Nat.le_refl i, Nat.le_add_right _ _, hr.trans h⟩
    · obtain ⟨j, hij, hj, hk⟩ := ih h
      exact ⟨j, by omega, by omega, hk⟩

theorem confined_rounds {body : Nat → Captures → Continuation → Option (Nat × Captures)}
    (hbody : Confined s body) (least : Nat) (most : Option Nat) (greedy : Bool) (fuel done : Nat)
    (last : Option Nat) :
    Confined s fun i c k => rounds body least most greedy k fuel done last i c := by
  intro i c k r hi h
  induction fuel generalizing done last i c with
  | zero => cases h
  | succ fuel ih =>
    have hround : ∀ last', body i c (rounds body least most greedy k fuel (done + 1) last') =
        some r → ∃ j d, i ≤ j ∧ j ≤ s.size ∧ k j d = some r := by
      intro last' hr
      obtain ⟨j, d, hij, hj, hnext⟩ := hbody i c _ r hi hr
      obtain ⟨j', d', hjj', hj', hk⟩ := ih (done + 1) last' j d hj hnext
      exact ⟨j', d', Nat.le_trans hij hjj', hj', hk⟩
    have hstop : k i c = some r → ∃ j d, i ≤ j ∧ j ≤ s.size ∧ k j d = some r :=
      fun hk => ⟨i, c, Nat.le_refl i, hi, hk⟩
    simp only [rounds] at h
    split at h
    · exact hround last h
    · split at h
      · split at h
        · split at h
          · rename_i r' hr
            exact hround (some i) (hr.trans h)
          · exact hstop h
        · split at h
          · rename_i r' hr
            exact hstop (hr.trans h)
          · exact hround (some i) h
      · exact hstop h

/-- A look around a position passes on that position only. -/
theorem exists_of_look {x : Option (Nat × Captures)} {negative : Bool} {i : Nat} {c : Captures}
    {k : Continuation} {r : Nat × Captures} (hi : i ≤ s.size)
    (h : (match x with
      | some q => if negative = true then none else k i q.2
      | none => if negative = true then k i c else none) = some r) :
    ∃ j d, i ≤ j ∧ j ≤ s.size ∧ k j d = some r := by
  split at h
  · split at h
    · cases h
    · exact ⟨i, _, Nat.le_refl i, hi, h⟩
  · split at h
    · exact ⟨i, c, Nat.le_refl i, hi, h⟩
    · cases h

theorem confined_repeated_set (least : Nat) (most : Option Nat) (greedy : Bool) (cs : CharSet) :
    Confined s (run s (.repeated least most greedy (.set cs))) := by
  intro i c k r hi h
  rw [run] at h
  have hrun := add_runLength_le cs (most.elim (s.size - i) (min (s.size - i))) hi
  cases greedy with
  | true =>
    obtain ⟨j, hij, hj, hk⟩ := exists_of_fromLongest h
    exact ⟨j, c, hij, by omega, hk⟩
  | false =>
    simp only [Bool.false_eq_true, if_false] at h
    split at h
    · cases h
    · obtain ⟨j, hij, hj, hk⟩ := exists_of_fromShortest h
      exact ⟨j, c, by omega, by omega, hk⟩

/-- Matching an expression never goes back, and never past the end of the text. -/
theorem confined_run (e : Expression) : Confined s (run s e) := by
  induction e with
  | empty =>
    intro i c k r hi h
    exact ⟨i, c, Nat.le_refl i, hi, h⟩
  | set cs =>
    intro i c k r hi h
    rw [run] at h
    split at h
    · rename_i ch hch
      have hlt : i < s.size := (Array.getElem?_eq_some_iff.1 hch).1
      split at h
      · exact ⟨i + 1, c, Nat.le_succ i, hlt, h⟩
      · cases h
    · cases h
  | sequence a b iha ihb =>
    intro i c k r hi h
    obtain ⟨j, d, hij, hj, hb⟩ := iha i c _ r hi h
    obtain ⟨j', d', hjj', hj', hk⟩ := ihb j d k r hj hb
    exact ⟨j', d', Nat.le_trans hij hjj', hj', hk⟩
  | choice a b iha ihb =>
    intro i c k r hi h
    rw [run] at h
    split at h
    · rename_i r' hr
      exact iha i c k r hi (hr.trans h)
    · exact ihb i c k r hi h
  | group n e ih =>
    intro i c k r hi h
    obtain ⟨j, d, hij, hj, hk⟩ := ih i c _ r hi h
    exact ⟨j, _, hij, hj, hk⟩
  | backreference n f =>
    intro i c k r hi h
    rw [run] at h
    split at h
    · rename_i g hg
      split at h
      · rename_i hrepeats
        exact ⟨_, c, Nat.le_add_right _ _, add_le_size_of_repeatsAt hi hrepeats, h⟩
      · cases h
    · cases h
  | anchor a =>
    intro i c k r hi h
    rw [run] at h
    split at h
    · exact ⟨i, c, Nat.le_refl i, hi, h⟩
    · cases h
  | look behind negative e ih =>
    intro i c k r hi h
    cases behind with
    | none =>
      rw [run] at h
      exact exists_of_look hi h
    | some width =>
      rw [run] at h
      split at h
      · split at h
        · exact ⟨i, c, Nat.le_refl i, hi, h⟩
        · cases h
      · exact exists_of_look hi h
  | repeated least most greedy e ih =>
    -- A set is repeated by counting how far it reaches, and everything else in rounds.
    by_cases hset : ∃ cs, e = .set cs
    · obtain ⟨cs, rfl⟩ := hset
      exact confined_repeated_set least most greedy cs
    · intro i c k r hi h
      rw [run] at h
      · exact confined_rounds ih least most greedy _ 0 none i c k r hi h
      · exact fun cs he => hset ⟨cs, he⟩
  | atomic e ih =>
    intro i c k r hi h
    rw [run] at h
    split at h
    · rename_i q hq
      obtain ⟨j, d, hij, hj, hq'⟩ := ih i c _ q hi hq
      cases hq'
      exact ⟨j, d, hij, hj, h⟩
    · cases h
  | conditional n present missing ihpresent ihmissing =>
    intro i c k r hi h
    rw [run] at h
    split at h
    · exact ihpresent i c k r hi h
    · exact ihmissing i c k r hi h

end Expression

namespace Compiled

variable {r : Compiled} {s : Array Char} {m : Match}

theorem start_of_matchAt {i : Nat} (h : r.matchAt s i = some m) : m.span.start = i := by
  obtain ⟨p, -, rfl⟩ := Option.map_eq_some_iff.1 h
  rfl

theorem length_groups_of_matchAt {i : Nat} (h : r.matchAt s i = some m) :
    m.groups.length = r.groupCount := by
  obtain ⟨p, -, rfl⟩ := Option.map_eq_some_iff.1 h
  rw [List.length_map, List.length_range]

/-- A match that starts within the text ends there, not before its start. -/
theorem stop_of_matchAt {i : Nat} (hi : i ≤ s.size) (h : r.matchAt s i = some m) :
    m.span.start ≤ m.span.stop ∧ m.span.stop ≤ s.size := by
  obtain ⟨p, hp, rfl⟩ := Option.map_eq_some_iff.1 h
  obtain ⟨j, d, hij, hj, hjd⟩ := Expression.confined_run r.expression i [] _ p hi hp
  cases hjd
  exact ⟨hij, hj⟩

theorem searchFrom_eq_none_iff {n i : Nat} :
    r.searchFrom s n i = none ↔ ∀ q, i ≤ q → q ≤ i + n → r.matchAt s q = none := by
  induction n generalizing i with
  | zero =>
    rw [searchFrom]
    constructor
    · intro h q hiq hqi
      rwa [Nat.le_antisymm hqi hiq]
    · intro h
      exact h i (Nat.le_refl i) (Nat.le_refl i)
  | succ n ih =>
    rw [searchFrom]
    constructor
    · intro h q hiq hqi
      split at h
      · cases h
      · rename_i hnone
        rcases Nat.eq_or_lt_of_le hiq with rfl | hlt
        · exact hnone
        · exact ih.1 h q hlt (by omega)
    · intro h
      rw [h i (Nat.le_refl i) (Nat.le_add_right _ _)]
      exact ih.2 fun q hiq hqi => h q (by omega) (by omega)

theorem least_of_searchFrom {n i : Nat} (h : r.searchFrom s n i = some m) :
    i ≤ m.span.start ∧ m.span.start ≤ i + n ∧ r.matchAt s m.span.start = some m ∧
      ∀ q, i ≤ q → q < m.span.start → r.matchAt s q = none := by
  induction n generalizing i with
  | zero =>
    rw [searchFrom] at h
    rw [start_of_matchAt h]
    exact ⟨Nat.le_refl i, Nat.le_refl i, h, fun q hiq hqi => by omega⟩
  | succ n ih =>
    rw [searchFrom] at h
    split at h
    · rename_i m' hm
      cases h
      rw [start_of_matchAt hm]
      exact ⟨Nat.le_refl i, Nat.le_add_right _ _, hm, fun q hiq hqi => by omega⟩
    · rename_i hnone
      obtain ⟨hi, hn, hm, hleast⟩ := ih h
      refine ⟨by omega, by omega, hm, fun q hiq hqm => ?_⟩
      rcases Nat.eq_or_lt_of_le hiq with rfl | hlt
      · exact hnone
      · exact hleast q hlt hqm

/-- A search that finds nothing has no match to find. -/
theorem search_eq_none_iff {i : Nat} :
    r.search s i = none ↔ ∀ q, i ≤ q → q ≤ s.size → r.matchAt s q = none := by
  rw [search]
  split
  · rename_i hi
    rw [searchFrom_eq_none_iff, Nat.add_sub_cancel' hi]
  · rename_i hi
    exact ⟨fun _ q hiq hq => by omega, fun _ => rfl⟩

/-- A search finds the match at the least position that has one. -/
theorem least_of_search {i : Nat} (h : r.search s i = some m) :
    i ≤ m.span.start ∧ r.matchAt s m.span.start = some m ∧ m.span.start ≤ m.span.stop ∧
      m.span.stop ≤ s.size ∧ ∀ q, i ≤ q → q < m.span.start → r.matchAt s q = none := by
  rw [search] at h
  split at h
  · rename_i hi
    obtain ⟨hstart, hsize, hm, hleast⟩ := least_of_searchFrom h
    rw [Nat.add_sub_cancel' hi] at hsize
    obtain ⟨hstop, hend⟩ := stop_of_matchAt hsize hm
    exact ⟨hstart, hm, hstop, hend, hleast⟩
  · cases h

/-- A search starts with the position itself. -/
theorem search_of_matchAt {i : Nat} (hi : i ≤ s.size) (h : r.matchAt s i = some m) :
    r.search s i = some m := by
  rw [search, if_pos hi]
  cases s.size - i with
  | zero => exact h
  | succ n => rw [searchFrom, h]

theorem matchAt_of_search {i : Nat} (h : r.search s i = some m) (hstart : m.span.start = i) :
    r.matchAt s i = some m := by
  obtain ⟨-, hmatch, -⟩ := least_of_search h
  rwa [hstart] at hmatch

end Compiled

end Harvest
