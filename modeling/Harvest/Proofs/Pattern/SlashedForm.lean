import Harvest.Proofs.Expression.Repetition
import Harvest.Proofs.Pattern.Slashes

/-!
# An expression for patterns between slashes

Patterns between slashes are described by an expression of their own, in which the body is greedy. A
whole text is matched by it exactly when it is such a pattern, and is then taken apart at its last
slash: only there do flags follow up to the end.
-/

namespace Harvest

namespace Expression

/-- Goes on at the end of a text only. -/
def atEnd (s : Array Char) : Continuation := fun j c => if j = s.size then some (j, c) else none

end Expression

namespace Compiled

/-- A match from the start of a text that also ends at its end. -/
def matchWhole? (r : Compiled) (s : Array Char) : Option Match :=
  (r.expression.run s 0 [] (Expression.atEnd s)).map fun p =>
    ⟨⟨0, p.1⟩, (List.range r.groupCount).map fun n => p.2.lookup (n + 1)⟩

end Compiled

namespace Pattern

open Expression

variable {s : Array Char} {i : Nat} {c : Captures} {t body flags : Text}

/-- The flags of a pattern, as a group. -/
def flagsForm : Expression :=
  .group 2 (.repeated 0 (some 4) true (.set (.ofChars ['g', 'i', 'm', 'y'])))

/-- A slash and the flags behind it. -/
def endForm : Expression := .sequence (.set (.exactly '/')) flagsForm

/-- Patterns between slashes, as read from `/(.*)/([gimy]{0,4})` where dots match line ends. -/
def slashedForm : Compiled :=
  ⟨.sequence (.set (.exactly '/'))
    (.sequence (.group 1 (.repeated 0 none true (.set .all))) endForm), 2⟩

theorem size_eq_of_drop {r : Text} (h : s.toList.drop i = r) (hi : i ≤ s.size) :
    s.size = i + r.length := by
  rw [← h, List.length_drop, Array.length_toList, Nat.add_sub_cancel' hi]

theorem contains_flagSet : (CharSet.ofChars ['g', 'i', 'm', 'y']).contains = isFlag := by
  funext x
  rw [CharSet.contains_ofChars, Bool.eq_iff_iff, isFlag_iff]
  simp

/-- What are not flags altogether has fewer flags at its beginning. -/
theorem length_takeWhile_isFlag_lt (h : ¬ IsFlags flags) :
    ((flags.take 4).takeWhile isFlag).length < flags.length := by
  have htaken : (flags.take 4).takeWhile isFlag <+: flags :=
    (List.takeWhile_prefix _).trans (List.take_prefix _ _)
  refine Nat.lt_of_not_le fun hlength => h (isFlags_iff.2 ?_)
  have hwhole := htaken.eq_of_length_le hlength
  constructor
  · rw [← hwhole]
    exact (List.takeWhile_prefix _).length_le.trans (List.length_take_le _ _)
  · rw [← hwhole]
    exact List.all_takeWhile

/-- Flags match up to the end of the text exactly when they are all that is left. -/
theorem run_flagsForm (hi : i ≤ s.size) (h : s.toList.drop i = flags) :
    run s flagsForm i c (atEnd s) =
      if IsFlags flags then some (s.size, (2, ⟨i, s.size⟩) :: c) else none := by
  have hsize := size_eq_of_drop h hi
  rw [flagsForm, run, run_greedy 0 (some 4) _ h, contains_flagSet, Option.elim_some]
  split
  · rename_i hflags
    obtain ⟨hlength, hall⟩ := isFlags_iff.1 hflags
    rw [List.take_of_length_le hlength, List.takeWhile_eq_self_iff.2 (List.all_eq_true.1 hall)]
    refine fromLongest_eq_of_last (Nat.zero_le _) (Nat.le_refl _) ?_ fun j' hj' hjn' => by omega
    rw [atEnd, if_pos hsize.symm, hsize]
  · rename_i hflags
    have hfewer := length_takeWhile_isFlag_lt hflags
    refine fromLongest_eq_none_iff.2 fun j _ hj => ?_
    rw [atEnd, if_neg (by omega)]

/-- What follows the body matches exactly at a slash with flags behind it. -/
theorem run_endForm (hi : i ≤ s.size) : run s endForm i c (atEnd s) =
    match s.toList.drop i with
    | x :: flags =>
      if x = '/' ∧ IsFlags flags then some (s.size, (2, ⟨i + 1, s.size⟩) :: c) else none
    | [] => none := by
  rw [endForm, run, run_set]
  cases hdrop : s.toList.drop i with
  | nil => rfl
  | cons x flags =>
    have hnext : i + 1 ≤ s.size := by
      have hsize := size_eq_of_drop hdrop hi
      rw [List.length_cons] at hsize
      omega
    simp only [CharSet.contains_exactly, decide_eq_true_eq,
      run_flagsForm hnext (drop_succ_of_drop_eq_cons hdrop), ite_and]

/-! ### The last slash -/

theorem drop_slash (r : Text) (n : Nat) : ('/' :: r).toArray.toList.drop (1 + n) = r.drop n := by
  rw [Nat.add_comm]
  rfl

theorem le_size_slash {r : Text} {n : Nat} (hn : n ≤ r.length) :
    1 + n ≤ ('/' :: r).toArray.size := by
  rw [List.size_toArray, List.length_cons]
  omega

/-- The body is tried from the longest on, and ends where slash and flags follow. -/
theorem run_slashedForm (r : Text) :
    run ('/' :: r).toArray slashedForm.expression 0 [] (atEnd ('/' :: r).toArray) =
      fromLongest 1 0 [] (fun j d => run ('/' :: r).toArray endForm j ((1, ⟨1, j⟩) :: d)
        (atEnd ('/' :: r).toArray)) r.length := by
  have hall : r.takeWhile CharSet.all.contains = r :=
    List.takeWhile_eq_self_iff.2 fun x _ => CharSet.contains_all x
  rw [slashedForm, run, run_set]
  simp only [List.drop_zero, CharSet.contains_exactly, decide_true, if_true]
  change run ('/' :: r).toArray (.repeated 0 none true (.set .all)) 1 []
    (fun j d => run ('/' :: r).toArray endForm j ((1, ⟨1, j⟩) :: d) (atEnd ('/' :: r).toArray)) = _
  rw [run_greedy 0 none .all (drop_slash r 0), List.drop_zero, Option.elim_none, hall]

/-- A body ends at the last slash when there are flags behind it. -/
theorem run_slashed (hflags : IsFlags flags) :
    run (slashed body flags).toArray slashedForm.expression 0 []
        (atEnd (slashed body flags).toArray) =
      some ((slashed body flags).length, [(2, ⟨1 + body.length + 1, (slashed body flags).length⟩),
        (1, ⟨1, 1 + body.length⟩)]) := by
  have hlength : (body ++ '/' :: flags).length = body.length + 1 + flags.length := by
    rw [List.length_append, List.length_cons]
    omega
  rw [slashed, run_slashedForm]
  refine fromLongest_eq_of_last (Nat.zero_le _) (j := body.length) (by omega) ?_ fun j hj hjn => ?_
  · rw [run_endForm (le_size_slash (by omega)), drop_slash, List.drop_left]
    exact if_pos ⟨rfl, hflags⟩
  · -- Behind the last slash there are only flags.
    obtain ⟨k, rfl⟩ := Nat.exists_eq_add_of_lt hj
    have hrest : (body ++ '/' :: flags).drop (body.length + k + 1) = flags.drop k := by
      rw [Nat.add_assoc, List.drop_length_add_append, List.drop_succ_cons]
    rw [run_endForm (le_size_slash hjn), drop_slash, hrest]
    cases hdrop : flags.drop k with
    | nil => rfl
    | cons x r =>
      refine if_neg ?_
      rintro ⟨rfl, -⟩
      exact hflags.slash_not_mem (List.mem_of_mem_drop (hdrop ▸ List.mem_cons_self))

/-- Without flags behind its last slash a text is not matched. -/
theorem run_of_splitSlashes?_eq_none (h : splitSlashes? t = none) :
    run t.toArray slashedForm.expression 0 [] (atEnd t.toArray) = none := by
  cases t with
  | nil => rfl
  | cons x r =>
    by_cases hx : x = '/'
    · subst hx
      rw [run_slashedForm]
      refine fromLongest_eq_none_iff.2 fun j _ hj => ?_
      rw [run_endForm (le_size_slash hj), drop_slash]
      cases hdrop : r.drop j with
      | nil => rfl
      | cons y flags =>
        refine if_neg ?_
        rintro ⟨rfl, hflags⟩
        have ht : '/' :: r = slashed (r.take j) flags := by
          rw [slashed, ← hdrop, List.take_append_drop]
        rw [ht, splitSlashes?_slashed hflags] at h
        cases h
    · rw [slashedForm, run, run_set]
      simp only [List.drop_zero, CharSet.contains_exactly, decide_eq_false hx, Bool.false_eq_true,
        if_false]

/-- The expression takes a text apart at its last slash. -/
theorem matchWhole?_slashedForm (t : Text) : slashedForm.matchWhole? t.toArray =
    (splitSlashes? t).map fun (body, _) => ⟨⟨0, t.length⟩,
      [some ⟨1, body.length + 1⟩, some ⟨body.length + 2, t.length⟩]⟩ := by
  rw [Compiled.matchWhole?]
  cases hsplit : splitSlashes? t with
  | some p =>
    obtain ⟨body, flags⟩ := p
    obtain ⟨hflags, rfl⟩ := splitSlashes?_eq_some_iff.1 hsplit
    rw [run_slashed hflags, Nat.add_comm 1 body.length]
    rfl
  | none =>
    rw [run_of_splitSlashes?_eq_none hsplit]
    rfl

theorem read_slashedForm (names : CharacterNames) :
    Expression.read names { Options.plain with dotAll := true } "/(.*)/([gimy]\x7b0,4\x7d)" =
      .ok slashedForm := rfl

/-! ### Patterns between slashes and all others -/

/-- A text is a pattern between slashes exactly when it has a body and flags, and so finds the
greedy expression for such texts. There is only one body and one list of flags then: the body is
compiled with what the flags ask for, in whatever order and how often. All other texts stand for
themselves. -/
theorem read_by_slashes (names : CharacterNames) (t : Text) :
    (isSlashed t = true ↔ ∃ body flags, IsFlags flags ∧ t = slashed body flags) ∧
      (∃ form, Expression.read names { Options.plain with dotAll := true }
          "/(.*)/([gimy]\x7b0,4\x7d)" = .ok form ∧
        form.matchWhole? t.toArray = (splitSlashes? t).map fun (body, _) => ⟨⟨0, t.length⟩,
          [some ⟨1, body.length + 1⟩, some ⟨body.length + 2, t.length⟩]⟩) ∧
      (∀ body flags, IsFlags flags → t = slashed body flags →
        splitSlashes? t = some (body, flags) ∧ '/' ∉ flags ∧
        (∀ body' flags', IsFlags flags' → t = slashed body' flags' →
          body' = body ∧ flags' = flags) ∧
        read names t = (Expression.readWhole names
          ⟨decide ('i' ∈ flags), decide ('m' ∈ flags), false, false, false⟩ body).map
            fun (r, o) => ⟨r, decide ('g' ∈ flags), decide ('y' ∈ flags), o.ignoreCase,
              o.multiline⟩) ∧
      (isSlashed t = false → read names t = .ok (plain t)) := by
  refine ⟨isSlashed_iff, ⟨slashedForm, read_slashedForm names, matchWhole?_slashedForm t⟩, ?_,
    read_of_not_slashed⟩
  rintro body flags hflags rfl
  refine ⟨splitSlashes?_slashed hflags, hflags.slash_not_mem,
    fun body' flags' hflags' heq => ?_, ?_⟩
  · obtain ⟨hbody, hsame⟩ := slashed_inj hflags hflags' heq
    exact ⟨hbody.symm, hsame.symm⟩
  · rw [read_slashed body hflags, optionsOf]
    simp only [List.contains_eq_mem]
    rfl

theorem read_nestedSlashes : IsFlags "gig" ∧ "/a/b/gig".toList = slashed "a/b" "gig" ∧
    isSlashed "/a/b/gig" = true ∧ splitSlashes? "/a/b/gig" = some ("a/b".toList, "gig".toList) ∧
    read .empty "/a/b/gig" =
      (Expression.readWhole .empty ⟨true, false, false, false, false⟩ "a/b").map fun (r, o) =>
        ⟨r, true, false, o.ignoreCase, o.multiline⟩ := by
  have hflags : IsFlags "gig" := by decide
  obtain ⟨hslashed, -, hread, -⟩ := read_by_slashes .empty "/a/b/gig"
  obtain ⟨hsplit, -, -, heq⟩ := hread "a/b" "gig" hflags rfl
  exact ⟨hflags, rfl, hslashed.2 ⟨"a/b", "gig", hflags, rfl⟩, hsplit, heq⟩

end Pattern

end Harvest
