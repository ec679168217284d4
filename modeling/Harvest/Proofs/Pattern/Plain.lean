import Harvest.Proofs.Expression.Escaping
import Harvest.Proofs.Pattern.Decomposition
import Harvest.Proofs.Pattern.Slashes
import Harvest.Proofs.Pattern.Templates
import Harvest.Proofs.Text.Splitting
import Mathlib.Order.Bounds.Basic

/-!
# Plain patterns

A text that is no pattern between slashes is a pattern for itself, whatever code points it has. It
is found where it first stands in a text, and there only.
-/

namespace Harvest

namespace Pattern

variable {source t : Text} {p : Pattern} {i : Nat}

/-- A pattern without flags for its scan yields what a search from the start finds. -/
theorem occurrences_eq_toList_search (s : Array Char) (hg : p.everywhere = false)
    (hy : p.sticky = false) : p.occurrences s = (p.compiled.search s 0).toList := by
  have hnext : p.next? s 0 = p.compiled.search s 0 := by
    rw [next?, hy, if_neg Bool.false_ne_true]
  rw [occurrences, scan, if_pos (Nat.zero_le _), hnext]
  cases p.compiled.search s 0 with
  | none => rfl
  | some m =>
    simp only [hg, Bool.false_eq_true, if_false]
    rfl

theorem search_literal_eq_none_iff :
    (⟨Expression.literal source, 0⟩ : Compiled).search t.toArray 0 = none ↔ ¬ source <:+: t := by
  rw [Compiled.search_eq_none_iff, Text.infix_iff_exists_prefix_drop]
  constructor
  · rintro hnone ⟨i, hi, hstart⟩
    have hmatch := hnone i (Nat.zero_le i) (by simpa using hi)
    rw [Expression.matchAt_literal, if_pos hstart] at hmatch
    cases hmatch
  · intro hnot i _ hi
    rw [Expression.matchAt_literal, if_neg fun hstart => hnot ⟨i, by simpa using hi, hstart⟩]

/-- The one occurrence of a plain pattern is the first place where its text stands. -/
theorem occurrences_plain_of_infix (h : source <:+: t) :
    ∃ i, IsLeast {i | source <+: t.drop i} i ∧
      (plain source).occurrences t.toArray = [⟨⟨i, i + source.length⟩, []⟩] := by
  obtain ⟨m, hsearch⟩ := Option.ne_none_iff_exists'.1
    fun hnone => search_literal_eq_none_iff.1 hnone h
  obtain ⟨-, hmatch, -, -, hleast⟩ := Compiled.least_of_search hsearch
  rw [Expression.matchAt_literal] at hmatch
  split at hmatch
  · rename_i hstart
    refine ⟨m.span.start, ⟨hstart, fun j hj => ?_⟩, ?_⟩
    · change source <+: t.drop j at hj
      refine Nat.le_of_not_lt fun hlt => ?_
      have hnone := hleast j (Nat.zero_le j) hlt
      rw [Expression.matchAt_literal, if_pos hj] at hnone
      cases hnone
    · rw [occurrences_eq_toList_search _ rfl rfl, plain, hsearch, Option.some.inj hmatch]
      rfl
  · cases hmatch

theorem occurrences_plain_of_not_infix (h : ¬ source <:+: t) :
    (plain source).occurrences t.toArray = [] := by
  rw [occurrences_eq_toList_search _ rfl rfl, plain, search_literal_eq_none_iff.2 h]
  rfl

theorem replace_of_nil (h : p.occurrences t.toArray = []) (template : Text) :
    p.replace t template = t := by
  rw [replace, h, stitch, slice_toArray]

theorem replace_of_single {m : Match} (h : p.occurrences t.toArray = [m]) (template : Text) :
    p.replace t template = t.take m.span.start ++
      (Template.expand t.toArray m template ++ t.drop m.span.stop) := by
  have hbefore : slice t.toArray 0 m.span.start = t.take m.span.start := slice_eq_take_drop _ _ _
  have hbehind : slice t.toArray m.span.stop t.toArray.size = t.drop m.span.stop := by
    rw [slice_eq_take_drop, List.take_of_length_le]
    rw [List.length_drop]
    exact Nat.le_refl _
  rw [replace, h, stitch, stitch, hbefore, hbehind]

/-- A text that is no pattern between slashes is always a pattern, and its expression is that of the
escaped text. It is found where it first stands: matching tells the text itself, and replacing puts
a template without groups in its place. -/
theorem read_plain (names : CharacterNames) (h : isSlashed source = false) (t : Text) :
    ∃ q, read names source = .ok q ∧ q.everywhere = false ∧ q.sticky = false ∧
      (∃ r, Expression.read names .plain (Expression.escape source) = .ok r ∧
        ∀ s i, r.matchAt s i = q.compiled.matchAt s i) ∧
      (source <:+: t → ∃ i, IsLeast {i | source <+: t.drop i} i ∧
        q.occurrences t.toArray = [⟨⟨i, i + source.length⟩, []⟩] ∧
        q.match? t = some [some source] ∧
        ∀ template, ∃ x, Template.Reads source [] template x ∧
          q.replace t template = t.take i ++ (x ++ t.drop (i + source.length))) ∧
      (¬ source <:+: t → q.occurrences t.toArray = [] ∧ q.match? t = none ∧
        ∀ template, q.replace t template = t) ∧
      (source = [] → q.occurrences t.toArray = [⟨⟨0, 0⟩, []⟩]) := by
  refine ⟨plain source, read_of_not_slashed h, rfl, rfl, ?_, fun hinfix => ?_, fun hinfix => ?_, ?_⟩
  · refine ⟨_, by rw [Expression.read, Expression.readWhole_escape]; rfl, fun s i => ?_⟩
    rw [Compiled.matchAt, Expression.run_toExpression_charItems]
    rfl
  · obtain ⟨i, hleast, hoccurrences⟩ := occurrences_plain_of_infix hinfix
    have htext : textOf t.toArray ⟨i, i + source.length⟩ = source := slice_of_prefix hleast.1
    refine ⟨i, hleast, hoccurrences, ?_, fun template => ?_⟩
    · rw [match?_of_cons hoccurrences]
      simp [plain, htext]
    · refine ⟨_, ?_, replace_of_single hoccurrences template⟩
      have hreads := Template.reads_iff.2 (rfl : Template.expand t.toArray
        ⟨⟨i, i + source.length⟩, []⟩ template = _)
      rwa [htext] at hreads
  · have hoccurrences := occurrences_plain_of_not_infix hinfix
    have hmatched : (plain source).matched t = [] := by rw [matched, hoccurrences, List.map_nil]
    exact ⟨hoccurrences, match?_eq_none_iff.2 hmatched, replace_of_nil hoccurrences⟩
  · rintro rfl
    obtain ⟨i, hleast, hoccurrences⟩ := occurrences_plain_of_infix (List.nil_infix (l := t))
    obtain rfl : i = 0 := Nat.le_zero.1 (hleast.2 List.nil_prefix)
    exact hoccurrences

theorem read_plainSum : isSlashed ['1', '+', '1'] = false ∧ ∃ q,
    read .empty ['1', '+', '1'] = .ok q ∧
    q.occurrences #['a', '1', '+', '1', '+', '1'] = [⟨⟨1, 4⟩, []⟩] ∧
    q.match? ['a', '1', '+', '1', '+', '1'] = some [some ['1', '+', '1']] ∧
    ∃ x, Template.Reads ['1', '+', '1'] [] ['<', '$', '&', '>'] x ∧
      q.replace ['a', '1', '+', '1', '+', '1'] ['<', '$', '&', '>'] =
        ['a'] ++ (x ++ ['+', '1']) := by
  have hplain : isSlashed ['1', '+', '1'] = false := by decide
  obtain ⟨q, hq, -, -, -, hfound, -⟩ := read_plain .empty hplain ['a', '1', '+', '1', '+', '1']
  obtain ⟨i, hleast, hoccurrences, hmatch, hreplace⟩ := hfound (by decide)
  have hone : IsLeast {i | ['1', '+', '1'] <+: ['a', '1', '+', '1', '+', '1'].drop i} 1 := by
    refine ⟨?_, fun j hj => Nat.one_le_iff_ne_zero.2 ?_⟩
    · change ['1', '+', '1'] <+: ['a', '1', '+', '1', '+', '1'].drop 1
      decide
    · rintro rfl
      change ['1', '+', '1'] <+: ['a', '1', '+', '1', '+', '1'].drop 0 at hj
      revert hj
      decide
  obtain rfl : i = 1 := hleast.unique hone
  exact ⟨hplain, q, hq, hoccurrences, hmatch, hreplace ['<', '$', '&', '>']⟩

end Pattern

end Harvest
