import Harvest.Proofs.Text.Pieces
import Mathlib.Data.List.Sort

/-!
# Cutting a text at a delimiter

A delimiter of any length cuts a text where it is met from left to right. The places where it is met
are those that a search finds which always goes on behind the last find: the delimiter stands at
each, they do not overlap, and it stands nowhere else but over one of them. There is one piece more
than places, no piece holds the delimiter, and the pieces joined by it are the text.
-/

namespace Harvest.Text

variable {d t a b p : Text} {ps : List Text} {is js : List Nat} {i : Nat}

theorem infix_iff_exists_prefix_drop : d <:+: t ↔ ∃ i ≤ t.length, d <+: t.drop i := by
  rw [List.infix_iff_prefix_suffix]
  constructor
  · rintro ⟨r, hstart, hsuffix⟩
    rw [List.suffix_iff_eq_drop] at hsuffix
    exact ⟨t.length - r.length, Nat.sub_le _ _, hsuffix ▸ hstart⟩
  · rintro ⟨i, -, hstart⟩
    exact ⟨t.drop i, hstart, List.drop_suffix i t⟩

/-! ### The first occurrence -/

theorem not_prefix_of_cut?_eq_none (h : cut? d t = none) (i : Nat) : ¬ d <+: t.drop i := by
  induction t generalizing i with
  | nil =>
    rw [cut?] at h
    split at h
    · cases h
    · rename_i hd
      rw [List.drop_nil, List.prefix_nil]
      rintro rfl
      exact hd rfl
  | cons c r ih =>
    rw [cut?] at h
    split at h
    · cases h
    · rename_i hd
      cases i with
      | zero => exact fun hstart => hd (List.isPrefixOf_iff_prefix.2 hstart)
      | succ i => exact ih (Option.map_eq_none_iff.1 h) i

/-- The delimiter stands nowhere before the place where it is cut out. -/
theorem not_prefix_of_cut?_eq_some (h : cut? d t = some (a, b)) (hi : i < a.length) :
    ¬ d <+: t.drop i := by
  induction t generalizing a i with
  | nil =>
    rw [cut?] at h
    split at h <;> cases h
    cases hi
  | cons c r ih =>
    rw [cut?] at h
    split at h
    · cases h
      cases hi
    · rename_i hd
      obtain ⟨q, hq, hab⟩ := Option.map_eq_some_iff.1 h
      cases hab
      cases i with
      | zero => exact fun hstart => hd (List.isPrefixOf_iff_prefix.2 hstart)
      | succ i => exact ih hq (Nat.lt_of_succ_lt_succ hi)

theorem not_infix_of_cut?_eq_none (h : cut? d t = none) : ¬ d <:+: t := by
  rw [infix_iff_exists_prefix_drop]
  rintro ⟨i, -, hstart⟩
  exact not_prefix_of_cut?_eq_none h i hstart

theorem not_infix_of_cut?_eq_some (hd : d ≠ []) (h : cut? d t = some (a, b)) : ¬ d <:+: a := by
  rw [infix_iff_exists_prefix_drop]
  rintro ⟨i, -, hstart⟩
  have hi : i < a.length := by
    have hlength := hstart.length_le
    have hpos := List.length_pos_iff.2 hd
    rw [List.length_drop] at hlength
    omega
  refine not_prefix_of_cut?_eq_some h hi ?_
  rw [cut?_eq_some h, List.append_assoc, List.drop_append_of_le_length (Nat.le_of_lt hi)]
  exact hstart.trans (List.prefix_append _ _)

/-! ### One piece after the other -/

theorem split_of_cut?_eq_none (hd : d ≠ []) (h : cut? d t = none) : split d t = [t] := by
  obtain ⟨c, d, rfl⟩ := List.exists_cons_of_ne_nil hd
  rw [split, pieces]
  split
  · rfl
  · rename_i hcut
    cases hcut.symm.trans h

theorem split_of_cut?_eq_some (hd : d ≠ []) (h : cut? d t = some (a, b)) :
    split d t = a :: split d b := by
  obtain ⟨c, d, rfl⟩ := List.exists_cons_of_ne_nil hd
  rw [split, pieces]
  split
  · rename_i hcut
    cases hcut.symm.trans h
  · rename_i hcut
    cases hcut.symm.trans h
    rfl

/-- What holds of texts without the delimiter, and of a text when it holds of what is behind the
first delimiter, holds of all texts. -/
theorem induction_on_cuts {motive : Text → Prop} (hd : d ≠ [])
    (uncut : ∀ t, cut? d t = none → motive t)
    (cut : ∀ t a b, cut? d t = some (a, b) → motive b → motive t) (t : Text) : motive t := by
  induction hn : t.length using Nat.strongRecOn generalizing t with
  | ind n ih =>
    cases hcut : cut? d t with
    | none => exact uncut t hcut
    | some q =>
      have hlength := length_of_cut? hcut
      have hpos := List.length_pos_iff.2 hd
      exact cut t q.1 q.2 hcut (ih q.2.length (by omega) q.2 rfl)

theorem split_ne_nil (hd : d ≠ []) (t : Text) : split d t ≠ [] := by
  cases hcut : cut? d t with
  | none =>
    rw [split_of_cut?_eq_none hd hcut]
    exact List.cons_ne_nil _ _
  | some q =>
    rw [split_of_cut?_eq_some hd hcut]
    exact List.cons_ne_nil _ _

theorem join_cons_of_ne_nil (h : ps ≠ []) : join d (p :: ps) = p ++ (d ++ join d ps) := by
  obtain ⟨q, ps, rfl⟩ := List.exists_cons_of_ne_nil h
  rw [join, List.intercalate_cons_cons, List.append_assoc]
  rfl

theorem join_append {qs : List Text} (hp : ps ≠ []) (hq : qs ≠ []) (d : Text) :
    join d (ps ++ qs) = join d ps ++ (d ++ join d qs) := by
  induction ps with
  | nil => exact absurd rfl hp
  | cons p ps ih =>
    rw [List.cons_append]
    by_cases hps : ps = []
    · rw [hps, List.nil_append, join_cons_of_ne_nil hq, join, join, List.intercalate_singleton]
    · rw [join_cons_of_ne_nil (List.append_ne_nil_of_left_ne_nil hps qs), ih hps,
        join_cons_of_ne_nil hps, List.append_assoc, List.append_assoc]

/-- Pieces that were joined before are joined to the same text with the others. -/
theorem join_join_cons (hp : ps ≠ []) (qs : List Text) (d : Text) :
    join d (join d ps :: qs) = join d (ps ++ qs) := by
  by_cases hq : qs = []
  · rw [hq, List.append_nil, join, List.intercalate_singleton]
  · rw [join_cons_of_ne_nil hq, join_append hp hq]

theorem infix_join (h : p ∈ ps) (d : Text) : p <:+: join d ps := by
  obtain ⟨before, after, rfl⟩ := List.append_of_mem h
  have hrest : p <:+: join d (p :: after) := by
    by_cases hafter : after = []
    · simp only [hafter, join, List.intercalate_singleton, List.infix_rfl]
    · rw [join_cons_of_ne_nil hafter]
      exact (List.prefix_append _ _).isInfix
  by_cases hbefore : before = []
  · rwa [hbefore]
  · rw [join_append hbefore (List.cons_ne_nil _ _)]
    exact hrest.trans ((List.suffix_append _ _).trans (List.suffix_append _ _)).isInfix

theorem join_split (hd : d ≠ []) (t : Text) : join d (split d t) = t := by
  induction t using induction_on_cuts hd with
  | uncut t hcut =>
    rw [split_of_cut?_eq_none hd hcut]
    exact List.intercalate_singleton
  | cut t a b hcut ih =>
    rw [split_of_cut?_eq_some hd hcut, join_cons_of_ne_nil (split_ne_nil hd b), ih,
      cut?_eq_some hcut, List.append_assoc]

theorem not_infix_of_mem_split (hd : d ≠ []) (hp : p ∈ split d t) : ¬ d <:+: p := by
  induction t using induction_on_cuts hd with
  | uncut t hcut =>
    rw [split_of_cut?_eq_none hd hcut, List.mem_singleton] at hp
    rw [hp]
    exact not_infix_of_cut?_eq_none hcut
  | cut t a b hcut ih =>
    rw [split_of_cut?_eq_some hd hcut, List.mem_cons] at hp
    rcases hp with rfl | hp
    · exact not_infix_of_cut?_eq_some hd hcut
    · exact ih hp

/-! ### The places of the delimiter -/

/-- The places where a delimiter is met from left to right: it stands there, they do not overlap,
and wherever else it stands it begins under one of them. -/
structure Met (d t : Text) (is : List Nat) : Prop where
  stands : ∀ i ∈ is, d <+: t.drop i
  apart : is.Pairwise fun i j => i + d.length ≤ j
  covered : ∀ j, d <+: t.drop j → ∃ i ∈ is, i ≤ j ∧ j < i + d.length

theorem Met.add_length_le (h : Met d t is) {j : Nat} (hi : i ∈ is) (hj : j ∈ is) (hij : i < j) :
    i + d.length ≤ j := by
  have hlater : is.Pairwise fun i j => i < j → i + d.length ≤ j :=
    h.apart.imp fun {i j} hij (_ : i < j) => hij
  have hearlier : is.Pairwise (flip fun i j => i < j → i + d.length ≤ j) :=
    h.apart.imp fun {i j} hij (hji : j < i) => by omega
  exact hlater.forall_of_forall_of_flip (fun i _ hii => absurd hii (Nat.lt_irrefl i)) hearlier
    hi hj hij

/-- A place in one list is in the other as well, if the places before it in the other are in the
first. -/
theorem Met.mem_of_mem (hi : Met d t is) (hj : Met d t js) (hmem : i ∈ is)
    (hbefore : ∀ k < i, k ∈ js → k ∈ is) : i ∈ js := by
  obtain ⟨j, hjmem, hji, hover⟩ := hj.covered i (hi.stands i hmem)
  rcases Nat.lt_or_eq_of_le hji with hlt | rfl
  · have hapart := hi.add_length_le (hbefore j hlt hjmem) hmem hlt
    exact absurd hover (Nat.not_lt.2 hapart)
  · exact hjmem

theorem Met.pairwise_lt (h : Met d t is) (hd : d ≠ []) : is.Pairwise (· < ·) := by
  have hpos := List.length_pos_iff.2 hd
  exact h.apart.imp fun hij => by omega

theorem Met.unique (hi : Met d t is) (hj : Met d t js) (hd : d ≠ []) : js = is := by
  refine (hj.pairwise_lt hd).eq_of_mem_iff (hi.pairwise_lt hd) fun i => ?_
  -- from left to right: where the lists agree on all smaller places, they agree on the next
  induction i using Nat.strongRecOn with
  | ind i ih =>
    exact ⟨fun h => hj.mem_of_mem hi h fun k hk => (ih k hk).2,
      fun h => hi.mem_of_mem hj h fun k hk => (ih k hk).1⟩

theorem met_of_cut?_eq_none (h : cut? d t = none) : Met d t [] where
  stands _ hi := absurd hi List.not_mem_nil
  apart := .nil
  covered j hj := absurd hj (not_prefix_of_cut?_eq_none h j)

theorem met_of_cut?_eq_some (h : cut? d t = some (a, b)) (hb : Met d b is) :
    Met d t (a.length :: is.map (· + (a.length + d.length))) := by
  have hdrop : ∀ i, t.drop (i + (a.length + d.length)) = b.drop i := by
    intro i
    rw [cut?_eq_some h, Nat.add_comm, ← List.length_append, List.drop_length_add_append]
  refine ⟨fun i hi => ?_, ?_, fun j hj => ?_⟩
  · rcases List.mem_cons.1 hi with rfl | hi
    · rw [cut?_eq_some h, List.append_assoc, List.drop_left]
      exact List.prefix_append d b
    · obtain ⟨k, hk, rfl⟩ := List.mem_map.1 hi
      rw [hdrop]
      exact hb.stands k hk
  · refine List.pairwise_cons.2 ⟨fun i hi => ?_, ?_⟩
    · obtain ⟨k, -, rfl⟩ := List.mem_map.1 hi
      exact Nat.le_add_left _ _
    · rw [List.pairwise_map]
      exact hb.apart.imp fun hij => by omega
  · by_cases hbefore : j < a.length
    · exact absurd hj (not_prefix_of_cut?_eq_some h hbefore)
    by_cases hover : j < a.length + d.length
    · exact ⟨a.length, List.mem_cons_self, Nat.le_of_not_lt hbefore, hover⟩
    · obtain ⟨k, rfl⟩ := Nat.exists_eq_add_of_le' (Nat.le_of_not_lt hover)
      rw [hdrop] at hj
      obtain ⟨i, hi, hik, hki⟩ := hb.covered k hj
      exact ⟨_, List.mem_cons_of_mem _ (List.mem_map_of_mem hi), by omega, by omega⟩

/-- A text has one piece more than places where the delimiter is met. -/
theorem exists_met (hd : d ≠ []) (t : Text) :
    ∃ is, Met d t is ∧ (split d t).length = is.length + 1 := by
  induction t using induction_on_cuts hd with
  | uncut t hcut =>
    refine ⟨[], met_of_cut?_eq_none hcut, ?_⟩
    rw [split_of_cut?_eq_none hd hcut]
    rfl
  | cut t a b hcut ih =>
    obtain ⟨is, his, hlength⟩ := ih
    refine ⟨_, met_of_cut?_eq_some hcut his, ?_⟩
    rw [split_of_cut?_eq_some hd hcut, List.length_cons, hlength, List.length_cons, List.length_map]

end Harvest.Text
