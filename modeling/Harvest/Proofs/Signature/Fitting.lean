import Harvest.Registry.Standard

/-!
# Arguments that fit

Parameters come in the order in which a host can declare them: those that an argument may be left
out for are behind those that need one, and parameters that are only filled by name come last. Then
the number of arguments decides alone whether they fit.
-/

namespace Harvest

/-- The place of a parameter in a declaration. -/
def Parameter.rank (p : Parameter) : Nat :=
  match p.kind with
  | .positional => if p.required then 0 else 1
  | .rest => 2
  | .keyword => 3

theorem Parameter.rank_le_one_iff (p : Parameter) : p.rank ≤ 1 ↔ p.kind = .positional := by
  rw [rank]
  cases p.kind with
  | positional => cases p.required <;> simp
  | rest => simp
  | keyword => simp

theorem Parameter.rank_eq_zero_iff (p : Parameter) :
    p.rank = 0 ↔ p.kind = .positional ∧ p.required = true := by
  rw [rank]
  cases p.kind with
  | positional => cases p.required <;> simp
  | rest => simp
  | keyword => simp

namespace Signature

/-- Signatures of factories that take static arguments by position only. The order is the one in
which parameters can be declared at all. -/
structure Positional (s : Signature) : Prop where
  ordered : s.Pairwise fun p q => p.rank ≤ q.rank
  noRest : s.hasRest = false
  optionalKeywords : ∀ p ∈ s, p.kind = .keyword → p.required = false

theorem Positional.tail {p : Parameter} {s : Signature} (h : Positional (p :: s)) :
    Positional s where
  ordered := h.ordered.of_cons
  noRest := by
    have hrest := h.noRest
    rw [hasRest, List.any_cons, Bool.or_eq_false_iff] at hrest
    exact hrest.2
  optionalKeywords q hq := h.optionalKeywords q (List.mem_cons_of_mem _ hq)

theorem positional_cons_of_positional {p : Parameter} (s : Signature)
    (hp : p.kind = .positional) : positional (p :: s) = p :: positional s :=
  List.filter_cons_of_pos (decide_eq_true hp)

theorem positional_cons_of_keyword {p : Parameter} {s : Signature} (h : Positional (p :: s))
    (hp : p.kind = .keyword) : positional (p :: s) = [] := by
  have hrank : p.rank = 3 := by rw [Parameter.rank, hp]
  refine List.filter_eq_nil_iff.2 fun q hq => ?_
  rw [decide_eq_true_eq, ← Parameter.rank_le_one_iff]
  rcases List.mem_cons.1 hq with rfl | hq
  · omega
  · have hle := List.rel_of_pairwise_cons h.ordered hq
    omega

theorem mismatch?_cons_zero {p : Parameter} (s : Signature) (hp : p.kind ≠ .rest) :
    mismatch? (p :: s) 0 = if p.required then some (.missing p.name) else mismatch? s 0 := by
  rw [mismatch?.eq_def]
  cases hkind : p.kind with
  | positional => simp only [hkind]
  | rest => exact absurd hkind hp
  | keyword => simp only [hkind]

theorem mismatch?_cons_succ {p : Parameter} (s : Signature) (hp : p.kind = .positional) (n : Nat) :
    mismatch? (p :: s) (n + 1) = mismatch? s n := by
  rw [mismatch?.eq_def]
  simp only [hp]

/-- Behind a parameter that can go without an argument there is none that needs one. -/
theorem filter_required_of_optional {p : Parameter} {s : Signature} (h : Positional (p :: s))
    (hp : p.kind = .positional) (hoptional : p.required = false) :
    (positional s).filter (·.required) = [] := by
  have hrank : p.rank = 1 := by
    rw [Parameter.rank, hp, hoptional]
    rfl
  refine List.filter_eq_nil_iff.2 fun q hq hrequired => ?_
  obtain ⟨hmem, hqkind⟩ := List.mem_filter.1 hq
  have hle := List.rel_of_pairwise_cons h.ordered hmem
  have hqrank := q.rank_eq_zero_iff.2 ⟨of_decide_eq_true hqkind, hrequired⟩
  omega

/-- Arguments that are not too many leave the first parameter missing that needs one and gets none,
and fit if there is no such parameter. -/
theorem mismatch?_eq_getElem? {s : Signature} (h : s.Positional) {n : Nat} (hn : n ≤ s.arity) :
    s.mismatch? n =
      (s.positional.filter (·.required))[n]?.map fun p => .missing p.name := by
  induction s generalizing n with
  | nil =>
    have hzero : n = 0 := Nat.le_zero.1 hn
    rw [hzero]
    rfl
  | cons p s ih =>
    cases hp : p.kind with
    | positional =>
      have hcons := positional_cons_of_positional s hp
      rw [arity, hcons, List.length_cons] at hn
      rw [hcons]
      cases hrequired : p.required with
      | true =>
        rw [List.filter_cons_of_pos hrequired]
        cases n with
        | zero =>
          rw [mismatch?_cons_zero s (by simp [hp]), if_pos hrequired]
          rfl
        | succ n =>
          rw [mismatch?_cons_succ s hp, List.getElem?_cons_succ]
          exact ih h.tail (Nat.le_of_succ_le_succ hn)
      | false =>
        rw [List.filter_cons_of_neg (by simp [hrequired])]
        cases n with
        | zero =>
          rw [mismatch?_cons_zero s (by simp [hp]), hrequired]
          exact ih h.tail (Nat.zero_le _)
        | succ n =>
          rw [mismatch?_cons_succ s hp, ih h.tail (Nat.le_of_succ_le_succ hn),
            filter_required_of_optional h hp hrequired]
          rfl
    | rest =>
      have hrest := h.noRest
      rw [hasRest, List.any_cons, hp] at hrest
      cases hrest
    | keyword =>
      have hnone := positional_cons_of_keyword h hp
      rw [arity, hnone] at hn
      have hzero : n = 0 := Nat.le_zero.1 hn
      have hrequired : p.required = false := h.optionalKeywords p List.mem_cons_self hp
      have htail : positional s = [] := by
        rw [positional, List.filter_cons_of_neg (by simp [hp])] at hnone
        exact hnone
      rw [hzero, mismatch?_cons_zero s (by simp [hp]), hrequired, hnone,
        ih h.tail (Nat.zero_le _), htail]
      rfl

theorem mismatch?_eq_none {s : Signature} (h : s.Positional) {n : Nat}
    (hrequired : s.requiredCount ≤ n) (hn : n ≤ s.arity) : s.mismatch? n = none := by
  rw [mismatch?_eq_getElem? h hn, List.getElem?_eq_none hrequired]
  rfl

end Signature

/-- The signatures of the standard factories: parameters that need an argument, and others behind
them. -/
theorem Standard.positional (needed others : List Text) :
    Signature.Positional (needed.map required ++ others.map optional) where
  ordered := by
    rw [List.pairwise_append, List.pairwise_map, List.pairwise_map]
    refine ⟨List.pairwise_of_forall fun _ _ => Nat.le_refl 0,
      List.pairwise_of_forall fun _ _ => Nat.le_refl 1, fun p hp q _ => ?_⟩
    obtain ⟨name, -, rfl⟩ := List.mem_map.1 hp
    exact Nat.zero_le _
  noRest := by
    rw [Signature.hasRest, List.any_append, List.any_map, List.any_map]
    simp [required, optional]
  optionalKeywords p hp hkind := by
    rcases List.mem_append.1 hp with hp | hp
    · obtain ⟨name, -, rfl⟩ := List.mem_map.1 hp
      cases hkind
    · obtain ⟨name, -, rfl⟩ := List.mem_map.1 hp
      cases hkind

end Harvest
