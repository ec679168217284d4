import Harvest.Proofs.Expression.Search

/-!
# Sets of code points, once and repeated

What matching a set does depends on the text that is left only. A greedy repetition of a set goes as
far as the set reaches, and then gives back one code point after the other until what follows the
repetition matches: it ends at the last position where that does.
-/

namespace Harvest

namespace Expression

namespace CharSet

/-- The set of the given code points, compared as they stand. -/
def ofChars (xs : List Char) : CharSet :=
  ⟨xs.map fun x => .range x.toNat x.toNat, false, .none, false⟩

theorem contains_ofChars (xs : List Char) (x : Char) : (ofChars xs).contains x = xs.contains x := by
  induction xs with
  | nil => rfl
  | cons y xs ih =>
    have hy : (ofChars (y :: xs)).contains x =
        ((exactly y).contains x || (ofChars xs).contains x) := by
      simp [contains, ofChars, exactly]
    rw [hy, ih, contains_exactly, List.contains_cons]
    rfl

/-- Every code point, line ends included. -/
def all : CharSet := ⟨[], true, .none, false⟩

theorem contains_all (x : Char) : all.contains x = true := rfl

/-- The decimal digits of every script. -/
def digits : CharSet := ⟨[.category .digit false], false, .none, false⟩

theorem contains_digits (x : Char) : digits.contains x = Text.isDigit x := by
  simp [contains, digits, Folding.representative, CharClass.contains]

/-- The white space of every script. -/
def blanks : CharSet := ⟨[.category .blank false], false, .none, false⟩

theorem contains_blanks (x : Char) : blanks.contains x = Text.isBlank x := by
  simp [contains, blanks, Folding.representative, CharClass.contains]

end CharSet

variable {s : Array Char} {i : Nat} {c : Captures} {k : Continuation}

theorem getElem?_eq_head?_drop (s : Array Char) (i : Nat) : s[i]? = (s.toList.drop i).head? := by
  rw [List.head?_drop, Array.getElem?_toList]

/-- A set takes the next code point of what is left. -/
theorem run_set (cs : CharSet) : run s (.set cs) i c k =
    match s.toList.drop i with
    | x :: _ => if cs.contains x then k (i + 1) c else none
    | [] => none := by
  rw [run, getElem?_eq_head?_drop]
  cases s.toList.drop i <;> rfl

theorem drop_succ_of_drop_eq_cons {x : Char} {r : Text} (h : s.toList.drop i = x :: r) :
    s.toList.drop (i + 1) = r := by
  rw [← List.tail_drop, h, List.tail_cons]

theorem runLength_eq_length_takeWhile (cs : CharSet) (fuel : Nat) :
    runLength s cs fuel i = (((s.toList.drop i).take fuel).takeWhile cs.contains).length := by
  induction fuel generalizing i with
  | zero => rw [runLength, List.take_zero, List.takeWhile_nil, List.length_nil]
  | succ fuel ih =>
    rw [runLength, getElem?_eq_head?_drop]
    cases hdrop : s.toList.drop i with
    | nil => rfl
    | cons x r =>
      rw [List.take_succ_cons, List.takeWhile_cons]
      simp only [List.head?_cons, ih, drop_succ_of_drop_eq_cons hdrop]
      split <;> rfl

/-- A greedy repetition of a set goes as far as the set reaches, within its limit. -/
theorem run_greedy (least : Nat) (most : Option Nat) (cs : CharSet) {r : Text}
    (h : s.toList.drop i = r) : run s (.repeated least most true (.set cs)) i c k =
      fromLongest i least c k ((most.elim r (r.take ·)).takeWhile cs.contains).length := by
  have hlength : r.length = s.size - i := by rw [← h, List.length_drop, Array.length_toList]
  have hreach : r.take (most.elim (s.size - i) (min (s.size - i))) = most.elim r (r.take ·) := by
    cases most with
    | none => exact List.take_of_length_le (Nat.le_of_eq hlength)
    | some n =>
      rw [Option.elim_some, Option.elim_some, List.take_eq_take_iff]
      omega
  rw [run, if_pos rfl, runLength_eq_length_takeWhile, h, hreach]

/-- A greedy repetition fails when what follows it does at every position. -/
theorem fromLongest_eq_none_iff {least n : Nat} :
    fromLongest i least c k n = none ↔ ∀ j, least ≤ j → j ≤ n → k (i + j) c = none := by
  induction n with
  | zero =>
    rw [fromLongest]
    constructor
    · intro h j hleast hj
      obtain rfl : j = 0 := Nat.le_zero.1 hj
      rwa [if_pos (Nat.le_zero.1 hleast)] at h
    · intro h
      split
      · rename_i hleast
        exact h 0 (Nat.le_of_eq hleast) (Nat.le_refl 0)
      · rfl
  | succ n ih =>
    rw [fromLongest]
    constructor
    · intro h j hleast hj
      split at h
      · omega
      · split at h
        · cases h
        · rename_i hnone
          rcases Nat.eq_or_lt_of_le hj with rfl | hlt
          · exact hnone
          · exact ih.1 h j hleast (Nat.le_of_lt_succ hlt)
    · intro h
      split
      · rfl
      · rename_i hleast
        rw [h (n + 1) (Nat.le_of_not_lt hleast) (Nat.le_refl _)]
        exact ih.2 fun j hj hjn => h j hj (Nat.le_succ_of_le hjn)

/-- A greedy repetition ends at the last position where what follows it matches. -/
theorem fromLongest_eq_of_last {least n j : Nat} {r : Nat × Captures} (hj : least ≤ j) (hjn : j ≤ n)
    (hk : k (i + j) c = some r) (hlast : ∀ j', j < j' → j' ≤ n → k (i + j') c = none) :
    fromLongest i least c k n = some r := by
  induction n with
  | zero =>
    obtain rfl : j = 0 := Nat.le_zero.1 hjn
    rw [fromLongest, if_pos (Nat.le_zero.1 hj)]
    exact hk
  | succ n ih =>
    rw [fromLongest, if_neg (by omega)]
    rcases Nat.eq_or_lt_of_le hjn with rfl | hlt
    · rw [hk]
    · rw [hlast (n + 1) hlt (Nat.le_refl _)]
      exact ih (Nat.le_of_lt_succ hlt) fun j' hj' hjn' => hlast j' hj' (Nat.le_succ_of_le hjn')

/-- Where nothing that follows can fail, a set that is needed once is taken as often as it is
there. -/
theorem run_needed_set (most : Option Nat) (cs : CharSet) (g : Nat → Captures → Nat × Captures)
    {r xs : Text} (h : s.toList.drop i = r)
    (hxs : (most.elim r (r.take ·)).takeWhile cs.contains = xs) :
    run s (.repeated 1 most true (.set cs)) i c (fun j d => some (g j d)) =
      if xs = [] then none else some (g (i + xs.length) c) := by
  rw [run_greedy 1 most cs h, hxs]
  cases xs with
  | nil => rfl
  | cons x xs =>
    refine fromLongest_eq_of_last (j := (x :: xs).length) (Nat.succ_le_succ (Nat.zero_le _))
      (Nat.le_refl _) rfl fun j' hj' hjn => ?_
    omega

end Expression

end Harvest
