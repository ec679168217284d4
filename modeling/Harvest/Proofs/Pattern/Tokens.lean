import Harvest.Proofs.Expression.Repetition
import Harvest.Proofs.Pattern.Decomposition
import Harvest.Proofs.Pattern.Templates

/-!
# Templates as patterns

The references in a template are the matches of a pattern of its own. When each of them is replaced
by what it refers to, and what stands between them is kept, the template has been read once from
left to right: no reference is missed, none begins inside another, and what was put in is not looked
at.
-/

namespace Harvest

namespace Template

open Expression

variable {s : Array Char} {i j fuel : Nat} {c : Captures} {ref r t x : Text}

/-- A dollar sign, the sign for the whole match, or one or two digits. -/
def referenceForm : Expression :=
  .choice (.set (.exactly '$')) (.choice (.set (.exactly '&'))
    (.repeated 1 (some 2) true (.set .digits)))

/-- The references of a template, as read from `/\$(\$|&|\d{1,2})/g`. -/
def references : Pattern :=
  ⟨⟨.sequence (.set (.exactly '$')) (.group 1 referenceForm), 1⟩, true, false, false, false⟩

theorem read_references (names : CharacterNames) :
    Pattern.read names "/\\$(\\$|&|\\d\x7b1,2\x7d)/g" = .ok references := rfl

/-! ### Where a reference matches -/

theorem run_choice (a b : Expression) (k : Continuation) :
    run s (.choice a b) i c k = (run s a i c k).or (run s b i c k) := by
  rw [run]
  cases run s a i c k <;> rfl

theorem run_referenceForm (g : Nat → Captures → Nat × Captures) :
    run s referenceForm i c (fun j d => some (g j d)) =
      (reference? (s.toList.drop i)).map fun ref => g (i + ref.length) c := by
  have hdigits := run_needed_set (c := c) (some 2) .digits g (rfl : s.toList.drop i = _) rfl
  have hset : CharSet.digits.contains = Text.isDigit := funext CharSet.contains_digits
  rw [referenceForm, run_choice, run_choice, run_set, run_set, hdigits, hset, Option.elim_some]
  cases s.toList.drop i with
  | nil => rfl
  | cons x r =>
    simp only [CharSet.contains_exactly, decide_eq_true_eq]
    by_cases hdollar : x = '$'
    · subst hdollar
      rfl
    by_cases hwhole : x = '&'
    · subst hwhole
      rfl
    rw [if_neg hdollar, if_neg hwhole, reference?_of_ne hdollar hwhole]
    cases ((x :: r).take 2).takeWhile Text.isDigit <;> rfl

/-- References behind a dollar sign. -/
def token? : Text → Option Text
  | '$' :: r => reference? r
  | _ => none

theorem matchAt_references : references.compiled.matchAt s i =
    (token? (s.toList.drop i)).map fun ref =>
      ⟨⟨i, i + 1 + ref.length⟩, [some ⟨i + 1, i + 1 + ref.length⟩]⟩ := by
  have hmatch : references.compiled.matchAt s i =
      (run s (.set (.exactly '$')) i [] fun j d => run s referenceForm j d fun j' d' =>
        some (j', (1, ⟨j, j'⟩) :: d')).map fun p =>
          ⟨⟨i, p.1⟩, (List.range 1).map fun n => p.2.lookup (n + 1)⟩ := rfl
  rw [hmatch, run_set]
  cases hdrop : s.toList.drop i with
  | nil => rfl
  | cons x r =>
    simp only [CharSet.contains_exactly, decide_eq_true_eq]
    by_cases hx : x = '$'
    · subst hx
      rw [if_pos rfl, run_referenceForm, drop_succ_of_drop_eq_cons hdrop, token?]
      cases reference? r <;> rfl
    · rw [if_neg hx, token?]
      · rfl
      · exact fun _ h => hx (List.cons.inj h).1

/-! ### Reading by references -/

variable {whole : Text} {groups : List (Option Text)}

theorem reads_of_token (h : token? t = some ref)
    (hx : Reads whole groups (t.drop (1 + ref.length)) x) :
    Reads whole groups t (tokenValue whole groups ref ++ x) := by
  rw [token?.eq_def] at h
  split at h
  · rename_i r
    obtain ⟨ref', href, hreads⟩ | ⟨hnone, -⟩ := reads_dollar whole groups r
    · obtain rfl : ref' = ref := Option.some.inj (href.symm.trans h)
      refine hreads x ?_
      rwa [Nat.add_comm, List.drop_succ_cons] at hx
    · rw [hnone] at h
      cases h
  · cases h

theorem reads_of_not_token {c : Char} (h : token? (c :: r) = none) (hx : Reads whole groups r x) :
    Reads whole groups (c :: r) (c :: x) := by
  by_cases hc : c = '$'
  · subst hc
    obtain ⟨ref, href, -⟩ | ⟨-, hreads⟩ := reads_dollar whole groups r
    · rw [token?, href] at h
      cases h
    · exact hreads x hx
  · exact .copied hc hx

theorem prefix_of_reference? (h : reference? r = some ref) : ref <+: r := by
  rw [reference?.eq_def] at h
  split at h
  · cases h
    exact ⟨_, rfl⟩
  · cases h
    exact ⟨_, rfl⟩
  · split at h
    · cases h
    · cases h
      exact (List.takeWhile_prefix _).trans (List.take_prefix 2 _)

theorem prefix_of_token? (h : token? (s.toList.drop i) = some ref) :
    ref <+: s.toList.drop (i + 1) := by
  rw [token?.eq_def] at h
  split at h
  · rename_i r hdrop
    rw [drop_succ_of_drop_eq_cons hdrop]
    exact prefix_of_reference? h
  · cases h

/-- What stands before a reference is kept. -/
theorem reads_slice_append (hij : i ≤ j) (hj : j ≤ s.size)
    (hnone : ∀ q, i ≤ q → q < j → token? (s.toList.drop q) = none)
    (hx : Reads whole groups (s.toList.drop j) x) :
    Reads whole groups (s.toList.drop i) (Pattern.slice s i j ++ x) := by
  obtain ⟨n, rfl⟩ := Nat.exists_eq_add_of_le hij
  induction n generalizing i with
  | zero =>
    rw [Pattern.slice_eq_take_drop, Nat.add_zero, Nat.sub_self, List.take_zero]
    exact hx
  | succ n ih =>
    have hend : i + (n + 1) = i + 1 + n := by omega
    cases hdrop : s.toList.drop i with
    | nil =>
      rw [List.drop_eq_nil_iff, Array.length_toList] at hdrop
      omega
    | cons c r =>
      have hrest : Reads whole groups r (Pattern.slice s (i + 1) (i + 1 + n) ++ x) := by
        rw [← drop_succ_of_drop_eq_cons hdrop]
        refine ih (Nat.le_add_right _ _) (hend ▸ hj)
          (fun q hiq hqj => hnone q (by omega) (by omega)) ?_
        rwa [← hend]
      have hslice : Pattern.slice s i (i + (n + 1)) = c :: Pattern.slice s (i + 1) (i + 1 + n) := by
        rw [Pattern.slice_eq_take_drop, Pattern.slice_eq_take_drop, hdrop,
          drop_succ_of_drop_eq_cons hdrop, Nat.add_sub_cancel_left, Nat.add_sub_cancel_left,
          List.take_succ_cons]
      have htoken := hnone i (Nat.le_refl i) (by omega)
      rw [hdrop] at htoken
      rw [hslice]
      exact reads_of_not_token htoken hrest

theorem groupText_of_reference (h : ref <+: s.toList.drop i) (a : Span) :
    groupText (groupTexts s ⟨a, [some ⟨i, i + ref.length⟩]⟩) 1 = ref :=
  Pattern.slice_of_prefix h

/-- Replacing the references and keeping what stands between them is one reading. -/
theorem reads_weave_scan (hi : i ≤ s.size) (hfuel : s.size < i + fuel) :
    Reads whole groups (s.toList.drop i)
      (Pattern.weave (Pattern.gaps s i (references.scan s fuel i))
        ((references.scan s fuel i).map fun m =>
          tokenValue whole groups (groupText (groupTexts s m) 1))) := by
  induction fuel generalizing i with
  | zero => omega
  | succ fuel ih =>
    have hnotoken : ∀ q, references.compiled.matchAt s q = none →
        token? (s.toList.drop q) = none := by
      intro q hq
      rwa [matchAt_references, Option.map_eq_none_iff] at hq
    obtain ⟨hend, hscan⟩ | ⟨-, m, hnext, hscan⟩ := Pattern.scan_succ references s fuel i
    · -- No reference is left: the rest is copied.
      have hnone := Compiled.search_eq_none_iff.1 (hend.resolve_left (by omega))
      rw [hscan]
      refine reads_slice_append hi (Nat.le_refl _)
        (fun q hiq hqs => hnotoken q (hnone q hiq (Nat.le_of_lt hqs))) ?_
      rw [List.drop_eq_nil_of_le (Nat.le_of_eq Array.length_toList)]
      exact .done
    · -- Up to the next match no reference stands, as the search would have found it.
      obtain ⟨hstart, hmatch, -, hstop, hleast⟩ := Compiled.least_of_search hnext
      rw [matchAt_references, Option.map_eq_some_iff] at hmatch
      obtain ⟨ref, htoken, hm⟩ := hmatch
      generalize m.span.start = j at *
      subst hm
      have hresume : Pattern.resume ⟨⟨j, j + 1 + ref.length⟩, [some ⟨j + 1, j + 1 + ref.length⟩]⟩ =
          j + 1 + ref.length := if_pos (by dsimp only; omega)
      have hrest := ih (i := j + 1 + ref.length) hstop (by omega)
      rw [hscan, hresume]
      refine reads_slice_append hstart (by dsimp only at hstop ⊢; omega)
        (fun q hiq hqj => hnotoken q (hleast q hiq hqj)) ?_
      refine reads_of_token ((groupText_of_reference (prefix_of_token? htoken) _).symm ▸ htoken) ?_
      rw [groupText_of_reference (prefix_of_token? htoken), List.drop_drop, ← Nat.add_assoc]
      exact hrest

/-- A template is expanded as its references are replaced one by one, and as it is read once from
left to right. Parts that are written so that none runs into the next are expanded part by part, and
a text whose dollar signs are doubled stands for itself. -/
theorem expand_reads_once (names : CharacterNames) (s : Array Char) (m : Match) :
    (∀ t x, Reads (Pattern.textOf s m.span) (groupTexts s m) t x ↔ x = expand s m t) ∧
      (∃ tokens, Pattern.read names "/\\$(\\$|&|\\d\x7b1,2\x7d)/g" = .ok tokens ∧
        ∀ t, expand s m t = Pattern.weave (tokens.between t) ((tokens.occurrences t.toArray).map
          fun o => tokenValue (Pattern.textOf s m.span) (groupTexts s m)
            (groupText (groupTexts t.toArray o) 1))) ∧
      (∀ n, 1 ≤ n → n ≤ min m.groups.length 99 →
        ∃ tens ones, (Part.group n tens ones).Fits m.groups.length) ∧
      (∀ ps : List Part, (∀ p ∈ ps, p.Fits m.groups.length) →
        expand s m (ps.flatMap Part.written) =
          ps.flatMap (Part.value (Pattern.textOf s m.span) (groupTexts s m))) ∧
      ∀ t, expand s m (doubled t) = t := by
  have hgroups : (groupTexts s m).length = m.groups.length := List.length_map _
  refine ⟨fun t x => reads_iff, ⟨references, read_references names, fun t => ?_⟩,
    fun n hn hmin => exists_fits_group hn (by omega) (by omega), fun ps hps => ?_, fun t => ?_⟩
  · have hfuel : t.toArray.size < 0 + (t.toArray.size + 1) := by omega
    exact (reads_iff.1 (reads_weave_scan (Nat.zero_le t.toArray.size) hfuel)).symm
  · rw [← hgroups] at hps
    exact (reads_iff.1 (reads_flatMap_written hps)).symm
  · exact (reads_iff.1 (reads_doubled t)).symm

theorem expand_adjacentParts :
    expand #['x', 'a', 'y'] ⟨⟨0, 3⟩, [some ⟨0, 1⟩, none]⟩ "$010$$$&$02&" = "x0$xay&".toList ∧
      expand #['x', 'a', 'y'] ⟨⟨0, 3⟩, [some ⟨0, 1⟩, none]⟩ "$$1$$&" = "$1$&".toList := by
  obtain ⟨-, -, -, hparts, hdoubled⟩ :=
    expand_reads_once .empty #['x', 'a', 'y'] ⟨⟨0, 3⟩, [some ⟨0, 1⟩, none]⟩
  exact ⟨hparts [.group 1 '0' '1', .literal "0$", .whole, .group 2 '0' '2', .literal "&"]
    (by decide), hdoubled "$1$&"⟩

end Template

end Harvest
