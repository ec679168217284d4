import Harvest.Text.Basic
import Mathlib.Data.List.TakeWhile

/-!
# Cutting a text at a single code point

At a delimiter of one code point the pieces of a text are those of the library's `splitOn`, and its
theory of splitting and joining applies. A text that was joined from pieces without the delimiter is
cut into these pieces again; a first piece with the delimiter in it is only cut further.
-/

namespace Harvest.Text

variable {c : Char}

theorem cut?_singleton_cons (x : Char) (t : Text) :
    cut? [c] (x :: t) =
      if c = x then some ([], t) else (cut? [c] t).map fun p => (x :: p.1, p.2) := by
  rw [cut?]
  by_cases hx : c = x
  · simp [hx]
  · simp [hx]

theorem not_mem_of_cut?_eq_none {t : Text} (h : cut? [c] t = none) : c ∉ t := by
  induction t with
  | nil => exact List.not_mem_nil
  | cons x t ih =>
    rw [cut?_singleton_cons] at h
    by_cases hx : c = x
    · rw [if_pos hx] at h
      cases h
    · rw [if_neg hx, Option.map_eq_none_iff] at h
      rw [List.mem_cons, not_or]
      exact ⟨hx, ih h⟩

theorem not_mem_of_cut?_eq_some {t a b : Text} (h : cut? [c] t = some (a, b)) : c ∉ a := by
  induction t generalizing a with
  | nil => cases h
  | cons x t ih =>
    rw [cut?_singleton_cons] at h
    by_cases hx : c = x
    · rw [if_pos hx] at h
      cases h
      exact List.not_mem_nil
    · rw [if_neg hx, Option.map_eq_some_iff] at h
      obtain ⟨p, hp, hab⟩ := h
      cases hab
      rw [List.mem_cons, not_or]
      exact ⟨hx, ih hp⟩

theorem cut?_append_cons {a : Text} (ha : c ∉ a) (b : Text) :
    cut? [c] (a ++ c :: b) = some (a, b) := by
  induction a with
  | nil => rw [List.nil_append, cut?_singleton_cons, if_pos rfl]
  | cons x a ih =>
    rw [List.mem_cons, not_or] at ha
    rw [List.cons_append, cut?_singleton_cons, if_neg ha.1, ih ha.2]
    rfl

theorem partition_append_cons {a : Text} (ha : c ∉ a) (b : Text) :
    partition c (a ++ c :: b) = (a, b) := by
  rw [partition, cut?_append_cons ha]

theorem takeWhile_append_cons {a : Text} (ha : c ∉ a) (b : Text) :
    (a ++ c :: b).takeWhile (· != c) = a := by
  have hall : ∀ x ∈ a, (x != c) = true := fun x hx => bne_iff_ne.2 fun hxc => ha (hxc ▸ hx)
  rw [List.takeWhile_append_of_pos hall, List.takeWhile_cons_of_neg (by simp), List.append_nil]

theorem split_singleton (c : Char) (t : Text) : split [c] t = t.splitOn c := by
  rw [split]
  induction hn : t.length using Nat.strongRecOn generalizing t with
  | ind n ih =>
    rw [pieces]
    split
    · rename_i hcut
      rw [List.splitOn_eq_singleton (not_mem_of_cut?_eq_none hcut)]
    · rename_i a b hcut
      have hlength := length_of_cut? hcut
      have hshort : b.length < n := by
        rw [List.length_singleton] at hlength
        omega
      have ht : t = a ++ c :: b := by simpa using cut?_eq_some hcut
      have ha : c ∉ a := not_mem_of_cut?_eq_some hcut
      have hsplit : t.splitOn c = a :: b.splitOn c := by
        rw [ht, List.splitOn_append_cons_self_of_not_mem ha]
      rw [hsplit]
      exact congrArg (a :: ·) (ih b.length hshort b rfl)

theorem join_splitOn (c : Char) (t : Text) : join [c] (t.splitOn c) = t :=
  List.intercalate_splitOn c

theorem join_cons_cons (a b : Text) (ps : List Text) :
    join [c] (a :: b :: ps) = a ++ c :: join [c] (b :: ps) := by
  rw [join, List.intercalate_cons_cons, List.append_assoc]
  rfl

/-- Only the first of the pieces that were joined is cut further. -/
theorem splitOn_join_cons (a : Text) {ps : List Text} (hps : ∀ p ∈ ps, c ∉ p) :
    (join [c] (a :: ps)).splitOn c = a.splitOn c ++ ps := by
  cases ps with
  | nil =>
    have ha : join [c] [a] = a := List.intercalate_singleton
    rw [ha, List.append_nil]
  | cons b ps =>
    rw [join_cons_cons, List.splitOn_append_cons_self, join,
      List.splitOn_intercalate c hps (List.cons_ne_nil b ps)]

/-- Delimiters at the end are empty pieces at the end. -/
theorem join_append_replicate (c : Char) (a : Text) (ps : List Text) (m : Nat) :
    join [c] (a :: ps) ++ List.replicate m c = join [c] (a :: (ps ++ List.replicate m [])) := by
  induction ps generalizing a with
  | nil =>
    induction m generalizing a with
    | zero => rw [List.replicate_zero, List.replicate_zero, List.append_nil, List.nil_append]
    | succ m ih =>
      have hempty := ih []
      have ha : join [c] [a] = a := List.intercalate_singleton
      have hnil : join [c] [([] : Text)] = [] := List.intercalate_singleton
      rw [hnil, List.nil_append, List.nil_append] at hempty
      rw [ha, List.nil_append, List.replicate_succ, List.replicate_succ, join_cons_cons, hempty]
  | cons b ps ih =>
    rw [List.cons_append, join_cons_cons, join_cons_cons, ← ih b, List.append_assoc,
      List.cons_append]

end Harvest.Text
