import Harvest.Pattern.Template
import Harvest.Proofs.Pattern.Reading
import Harvest.Proofs.Pattern.Scan
import Mathlib.Algebra.Ring.Nat

/-!
# Matches and what stands between them

The matches of a pattern cut a text into gaps with a match between each and the next. Replacing puts
something else between the gaps, and matching tells what stood there. Both go by the same matches,
so that matches which are replaced by themselves give the text back.
-/

namespace Harvest

/-! ### Templates -/

theorem Template.pieces_of_not_mem {t : Text} (h : '$' ∉ t) : pieces t = t.map .char := by
  induction t with
  | nil => rfl
  | cons c t ih =>
    rw [List.mem_cons, not_or] at h
    have hc : c ≠ '$' := fun heq => h.1 heq.symm
    rw [pieces, ih h.2]
    · rfl
    all_goals
      intros
      contradiction

/-- A template without a dollar sign stands for itself. -/
theorem Template.expand_of_not_mem (s : Array Char) (m : Match) {t : Text} (h : '$' ∉ t) :
    expand s m t = t := by
  rw [expand, pieces_of_not_mem h, List.flatMap_map]
  exact List.flatMap_singleton' t

theorem Template.expand_whole (s : Array Char) (m : Match) :
    expand s m "$&" = Pattern.textOf s m.span := List.append_nil _

namespace Pattern

variable {p : Pattern} {s : Array Char} {i : Nat} {ms : List Match}

/-! ### Slices -/

theorem slice_eq_take_drop (s : Array Char) (i j : Nat) :
    slice s i j = (s.toList.drop i).take (j - i) := by
  rw [slice, Array.toList_extract, List.extract_eq_take_drop]

theorem slice_of_prefix {r : Text} {i : Nat} (h : r <+: s.toList.drop i) :
    slice s i (i + r.length) = r := by
  rw [slice_eq_take_drop, Nat.add_sub_cancel_left]
  exact (List.prefix_iff_eq_take.1 h).symm

theorem slice_append_slice {j k : Nat} (hij : i ≤ j) (hjk : j ≤ k) :
    slice s i j ++ slice s j k = slice s i k := by
  rw [slice, slice, slice, ← Array.toList_append, Array.extract_append_extract,
    Nat.min_eq_left hij, Nat.max_eq_right hjk]

theorem slice_toArray (t : Text) : slice t.toArray 0 t.toArray.size = t := by
  rw [slice, Array.extract_size]

/-! ### Gaps -/

/-- What stands from a position on before, between and behind matches. -/
def gaps (s : Array Char) : Nat → List Match → List Text
  | i, [] => [slice s i s.size]
  | i, m :: ms => slice s i m.span.start :: gaps s m.span.stop ms

/-- Gaps with a text between each and the next. -/
def weave : List Text → List Text → Text
  | gap :: gaps, x :: xs => gap ++ (x ++ weave gaps xs)
  | gaps, _ => gaps.flatten

/-- Matches that stand in the text from a position on, one behind the other. -/
def Apart (s : Array Char) : Nat → List Match → Prop
  | i, [] => i ≤ s.size
  | i, m :: ms => i ≤ m.span.start ∧ m.span.start ≤ m.span.stop ∧ Apart s m.span.stop ms

theorem apart_scan {fuel j : Nat} (hji : j ≤ i) (hj : j ≤ s.size) :
    Apart s j (p.scan s fuel i) := by
  induction fuel generalizing i j with
  | zero => exact hj
  | succ fuel ih =>
    obtain ⟨-, hscan⟩ | ⟨hi, m, hnext, hscan⟩ := scan_succ p s fuel i
    · rw [hscan]
      exact hj
    · have hfound := found_of_next? hi hnext
      have hresume : m.span.stop ≤ resume m := by
        rw [resume_eq_max hfound.ordered]
        exact Nat.le_max_left _ _
      rw [hscan]
      refine ⟨Nat.le_trans hji hfound.reached, hfound.ordered, ?_⟩
      split
      · exact ih hresume hfound.inside
      · exact hfound.inside

theorem apart_occurrences (p : Pattern) (s : Array Char) : Apart s 0 (p.occurrences s) :=
  apart_scan (Nat.le_refl 0) (Nat.zero_le _)

theorem Apart.le_size (h : Apart s i ms) : i ≤ s.size := by
  induction ms generalizing i with
  | nil => exact h
  | cons m ms ih =>
    obtain ⟨hstart, hstop, hrest⟩ := h
    exact Nat.le_trans (Nat.le_trans hstart hstop) (ih hrest)

theorem length_gaps : (gaps s i ms).length = ms.length + 1 := by
  induction ms generalizing i with
  | nil => rfl
  | cons m ms ih => rw [gaps, List.length_cons, ih, List.length_cons]

/-- The matches stand between the gaps. -/
theorem weave_gaps (h : Apart s i ms) :
    weave (gaps s i ms) (ms.map fun m => textOf s m.span) = slice s i s.size := by
  induction ms generalizing i with
  | nil => exact List.append_nil _
  | cons m ms ih =>
    obtain ⟨hstart, hstop, hrest⟩ := h
    rw [gaps, List.map_cons, weave, ih hrest, textOf, slice_append_slice hstop hrest.le_size,
      slice_append_slice hstart (Nat.le_trans hstop hrest.le_size)]

theorem stitch_eq_weave (template : Text) :
    stitch s template i ms =
      weave (gaps s i ms) (ms.map fun m => Template.expand s m template) := by
  induction ms generalizing i with
  | nil => exact (List.append_nil _).symm
  | cons m ms ih => rw [stitch, ih, gaps, List.map_cons, weave]

theorem length_weave {gs xs : List Text} (h : xs.length ≤ gs.length) :
    (weave gs xs).length = (gs.map List.length).sum + (xs.map List.length).sum := by
  induction xs generalizing gs with
  | nil =>
    have hweave : weave gs [] = gs.flatten := by cases gs <;> rfl
    rw [hweave, List.length_flatten]
    rfl
  | cons x xs ih =>
    cases gs with
    | nil => cases h
    | cons g gs =>
      rw [weave, List.length_append, List.length_append, ih (Nat.le_of_succ_le_succ h),
        List.map_cons, List.map_cons, List.sum_cons, List.sum_cons]
      omega

/-! ### Replacing -/

/-- The texts of the matches. -/
def matched (p : Pattern) (t : Text) : List Text :=
  (p.occurrences t.toArray).map fun m => textOf t.toArray m.span

/-- What stands before, between and behind the matches. -/
def between (p : Pattern) (t : Text) : List Text := gaps t.toArray 0 (p.occurrences t.toArray)

/-- What a template stands for at each match. -/
def expanded (p : Pattern) (t template : Text) : List Text :=
  (p.occurrences t.toArray).map fun m => Template.expand t.toArray m template

theorem length_between (p : Pattern) (t : Text) :
    (p.between t).length = (p.matched t).length + 1 := by
  rw [between, length_gaps, matched, List.length_map]

theorem length_weave_between (p : Pattern) (t : Text) {xs : List Text}
    (h : xs.length = (p.matched t).length) : (weave (p.between t) xs).length =
      ((p.between t).map List.length).sum + (xs.map List.length).sum :=
  length_weave (by rw [length_between, h]; exact Nat.le_succ _)

/-- The matches stand between the gaps. -/
theorem weave_matched (p : Pattern) (t : Text) : weave (p.between t) (p.matched t) = t := by
  rw [between, matched, weave_gaps (apart_occurrences p t.toArray), slice_toArray]

theorem replace_eq_weave (p : Pattern) (t template : Text) :
    p.replace t template = weave (p.between t) (p.expanded t template) :=
  stitch_eq_weave template

theorem expanded_whole (p : Pattern) (t : Text) : p.expanded t "$&" = p.matched t := by
  simp only [expanded, Template.expand_whole, matched]

theorem expanded_of_not_mem (p : Pattern) (t : Text) {template : Text} (h : '$' ∉ template) :
    p.expanded t template = List.replicate (p.matched t).length template := by
  simp only [expanded, Template.expand_of_not_mem _ _ h, List.map_const', matched, List.length_map]

theorem expanded_of_matched_nil {t : Text} (h : p.matched t = []) (template : Text) :
    p.expanded t template = [] := by
  rw [matched, List.map_eq_nil_iff] at h
  rw [expanded, h, List.map_nil]

theorem length_eq_sum (p : Pattern) (t : Text) :
    t.length = ((p.between t).map List.length).sum + ((p.matched t).map List.length).sum := by
  rw [← length_weave_between p t rfl, weave_matched]

/-- The length changes by what stands for each match instead of the match. -/
theorem length_replace (p : Pattern) (t : Text) {template : Text} (h : '$' ∉ template) :
    (p.replace t template).length = t.length - ((p.matched t).map List.length).sum +
      (p.matched t).length * template.length := by
  rw [replace_eq_weave, expanded_of_not_mem p t h,
    length_weave_between p t List.length_replicate, length_eq_sum p t, Nat.add_sub_cancel,
    List.map_replicate, List.sum_replicate_nat]

/-! ### Matching -/

/-- A pattern that does not ask for every match has one at most. -/
theorem occurrences_of_first (s : Array Char) (h : p.everywhere = false) :
    p.occurrences s = [] ∨
      ∃ m, p.occurrences s = [m] ∧ p.compiled.matchAt s m.span.start = some m := by
  obtain ⟨-, hscan⟩ | ⟨hi, m, hnext, hscan⟩ := scan_succ p s s.size 0
  · exact .inl hscan
  · rw [h, if_neg Bool.false_ne_true] at hscan
    exact .inr ⟨m, hscan, (found_of_next? hi hnext).matched⟩

/-- A sticky pattern that does not ask for every match has the one at the start, if any. -/
theorem occurrences_of_sticky (s : Array Char) (hg : p.everywhere = false) (hy : p.sticky = true) :
    p.occurrences s = (p.compiled.matchAt s 0).toList := by
  have hnext : p.next? s 0 = p.compiled.matchAt s 0 := by rw [next?, hy, if_pos rfl]
  rw [occurrences, scan, if_pos (Nat.zero_le _), hnext]
  cases p.compiled.matchAt s 0 with
  | none => rfl
  | some m =>
    simp only [hg, Bool.false_eq_true, if_false]
    rfl

theorem match?_of_cons {t : Text} {m : Match} (h : p.occurrences t.toArray = m :: ms) :
    p.match? t =
      if p.everywhere then some ((p.matched t).map some)
      else some (some (textOf t.toArray m.span) :: m.groups.map (·.map (textOf t.toArray))) := by
  simp only [match?, matched, h, List.map_map]
  rfl

theorem match?_eq_none_iff {t : Text} : p.match? t = none ↔ p.matched t = [] := by
  cases h : p.occurrences t.toArray with
  | nil => simp only [match?, matched, h, List.map_nil]
  | cons m ms =>
    rw [match?_of_cons h, matched, h]
    split <;> simp

/-- Replacing and matching go by the same matches, which cut the text into gaps with a match between
each and the next. Replacing puts something else between the gaps. Matching tells every match, or
the first with the groups of the expression, or that there is none. -/
theorem replace_match?_of_read {names : CharacterNames} {source : Text} {p : Pattern}
    (hp : read names source = .ok p) (t : Text) :
    (p.between t).length = (p.matched t).length + 1 ∧
      weave (p.between t) (p.matched t) = t ∧
      (∀ template, p.replace t template = weave (p.between t) (p.expanded t template)) ∧
      p.replace t "$&" = t ∧
      (p.matched t = [] → ∀ template, p.replace t template = t) ∧
      (∀ template, '$' ∉ template → (p.replace t template).length =
        t.length - ((p.matched t).map List.length).sum +
          (p.matched t).length * template.length) ∧
      (p.match? t = none ↔ p.matched t = []) ∧
      (p.everywhere = true → p.matched t ≠ [] → p.match? t = some ((p.matched t).map some)) ∧
      (p.everywhere = false → p.matched t ≠ [] → ∃ m, p.occurrences t.toArray = [m] ∧
        p.match? t =
          some (some (textOf t.toArray m.span) :: m.groups.map (·.map (textOf t.toArray))) ∧
        m.groups.length = p.compiled.expression.numbers.length) := by
  have hsome : p.matched t ≠ [] → p.occurrences t.toArray ≠ [] := by
    intro h hnone
    rw [matched, hnone] at h
    exact h rfl
  refine ⟨length_between p t, weave_matched p t, replace_eq_weave p t, ?_, fun hnone template => ?_,
    fun template htemplate => length_replace p t htemplate, match?_eq_none_iff, fun hg h => ?_,
    fun hg h => ?_⟩
  · rw [replace_eq_weave, expanded_whole, weave_matched]
  · have htext := weave_matched p t
    rw [hnone] at htext
    rw [replace_eq_weave, expanded_of_matched_nil hnone, htext]
  · obtain ⟨m, rest, hms⟩ := List.exists_cons_of_ne_nil (hsome h)
    rw [match?_of_cons hms, if_pos hg]
  · obtain ⟨m, hm, hmatch⟩ := (occurrences_of_first t.toArray hg).resolve_left (hsome h)
    refine ⟨m, hm, ?_, ?_⟩
    · rw [match?_of_cons hm, hg, if_neg Bool.false_ne_true]
    · rw [numbers_of_read hp, List.length_range', Compiled.length_groups_of_matchAt hmatch]

/-- An `a`, behind an `x` or not, as read from `/(x)?a/g`. -/
def optionalX : Pattern :=
  ⟨⟨.sequence (.repeated 0 (some 1) true (.group 1 (.set (.exactly 'x'))))
    (.set (.exactly 'a')), 1⟩, true, false, false, false⟩

theorem replace_optionalX : read .empty "/(x)?a/g" = .ok optionalX ∧
    optionalX.matched "caxab" = ["a".toList, "xa"] ∧
    optionalX.between "caxab" = ["c".toList, [], "b"] ∧
    optionalX.replace "caxab" "$&" = "caxab".toList ∧
    optionalX.replace "caxab" "[$1]" = weave ["c".toList, [], "b"] ["[]".toList, "[x]"] ∧
    optionalX.match? "caxab" = some [some "a".toList, some "xa".toList] := by
  have hread : read .empty "/(x)?a/g" = .ok optionalX := rfl
  obtain ⟨-, -, hreplace, hwhole, -, -, -, hmatch, -⟩ := replace_match?_of_read hread "caxab"
  have hmatched : optionalX.matched "caxab" = ["a".toList, "xa"] := by decide
  have hbetween : optionalX.between "caxab" = ["c".toList, [], "b"] := by decide
  have hexpanded : optionalX.expanded "caxab" "[$1]" = ["[]".toList, "[x]"] := by decide
  refine ⟨hread, hmatched, hbetween, hwhole, ?_, ?_⟩
  · rw [hreplace, hbetween, hexpanded]
  · rw [hmatch rfl (by rw [hmatched]; exact List.cons_ne_nil _ _), hmatched]
    rfl

end Pattern

end Harvest
