import Harvest.Pattern.Basic
import Harvest.Proofs.Expression.Search

/-!
# Going through a text for matches

A scan takes the next match, goes on behind it, and ends when there is none or the text is at its
end. It has moved on by then at least once for each match, so that it always ends. The matches it
yields are in order, within the text and apart from each other. A scan for every match misses none:
wherever the expression matches, a match that was yielded lies over the position.
-/

namespace Harvest.Pattern

variable {p : Pattern} {s : Array Char} {m : Match} {i fuel : Nat}

/-- A match within the text, at the position or behind it. -/
structure Found (p : Pattern) (s : Array Char) (i : Nat) (m : Match) : Prop where
  reached : i ≤ m.span.start
  matched : p.compiled.matchAt s m.span.start = some m
  ordered : m.span.start ≤ m.span.stop
  inside : m.span.stop ≤ s.size

theorem Found.mono {j : Nat} (h : Found p s j m) (hij : i ≤ j) : Found p s i m :=
  ⟨Nat.le_trans hij h.reached, h.matched, h.ordered, h.inside⟩

theorem found_of_next? (hi : i ≤ s.size) (h : p.next? s i = some m) : Found p s i m := by
  rw [next?] at h
  split at h
  · have hstart := Compiled.start_of_matchAt h
    obtain ⟨hordered, hinside⟩ := Compiled.stop_of_matchAt hi h
    exact ⟨Nat.le_of_eq hstart.symm, by rw [hstart, h], hordered, hinside⟩
  · obtain ⟨hreached, hmatched, hordered, hinside, -⟩ := Compiled.least_of_search h
    exact ⟨hreached, hmatched, hordered, hinside⟩

/-- A scan goes on behind a match, and one further when it is empty. -/
theorem resume_eq_max (h : m.span.start ≤ m.span.stop) :
    resume m = max m.span.stop (m.span.start + 1) := by
  rw [resume]
  split <;> omega

theorem Found.lt_resume (h : Found p s i m) : i < resume m := by
  have hreached := h.reached
  rw [resume_eq_max h.ordered]
  omega

/-- What a scan does at a position: it ends, or yields a match and goes on or not. -/
theorem scan_succ (p : Pattern) (s : Array Char) (fuel i : Nat) :
    (s.size < i ∨ p.next? s i = none) ∧ p.scan s (fuel + 1) i = [] ∨
      i ≤ s.size ∧ ∃ m, p.next? s i = some m ∧
        p.scan s (fuel + 1) i = m :: if p.everywhere then p.scan s fuel (resume m) else [] := by
  rw [scan]
  by_cases hi : i ≤ s.size
  · cases hnext : p.next? s i with
    | none => exact .inl ⟨.inr rfl, by rw [if_pos hi]⟩
    | some m => exact .inr ⟨hi, m, rfl, by rw [if_pos hi]⟩
  · exact .inl ⟨.inl (Nat.lt_of_not_le hi), by rw [if_neg hi]⟩

theorem found_of_mem_scan (h : m ∈ p.scan s fuel i) : Found p s i m := by
  induction fuel generalizing i with
  | zero => cases h
  | succ fuel ih =>
    obtain ⟨-, hscan⟩ | ⟨hi, m', hnext, hscan⟩ := scan_succ p s fuel i
    · rw [hscan] at h
      cases h
    · have hfound := found_of_next? hi hnext
      rw [hscan] at h
      rcases List.mem_cons.1 h with rfl | h
      · exact hfound
      · split at h
        · exact (ih h).mono (Nat.le_of_lt hfound.lt_resume)
        · cases h

/-- No position yields two matches. -/
theorem length_scan_le : (p.scan s fuel i).length ≤ s.size + 1 - i := by
  induction fuel generalizing i with
  | zero => exact Nat.zero_le _
  | succ fuel ih =>
    obtain ⟨-, hscan⟩ | ⟨hi, m, hnext, hscan⟩ := scan_succ p s fuel i
    · rw [hscan]
      exact Nat.zero_le _
    · have hresume := (found_of_next? hi hnext).lt_resume
      rw [hscan, List.length_cons]
      split
      · have hrest : (p.scan s fuel (resume m)).length ≤ s.size + 1 - resume m := ih
        omega
      · rw [List.length_nil]
        omega

/-- A scan that may yield a match for each position that is left has come to its end. -/
theorem scan_eq_scan {fuel' : Nat} (h : s.size < i + fuel) (h' : s.size < i + fuel') :
    p.scan s fuel i = p.scan s fuel' i := by
  induction fuel generalizing i fuel' with
  | zero =>
    have hnil : ∀ n, p.scan s n i = [] := by
      intro n
      refine List.eq_nil_of_length_eq_zero ?_
      have hlength : (p.scan s n i).length ≤ s.size + 1 - i := length_scan_le
      omega
    rw [hnil, hnil]
  | succ fuel ih =>
    cases fuel' with
    | zero =>
      refine List.eq_nil_of_length_eq_zero ?_
      have hlength : (p.scan s (fuel + 1) i).length ≤ s.size + 1 - i := length_scan_le
      omega
    | succ fuel' =>
      rw [scan, scan]
      split
      · rename_i hi
        cases hnext : p.next? s i with
        | none => rfl
        | some m =>
          have hresume := (found_of_next? hi hnext).lt_resume
          have hrest : p.scan s fuel (resume m) = p.scan s fuel' (resume m) :=
            ih (by omega) (by omega)
          simp only [hrest]
      · rfl

/-- Each match starts where the scan goes on after the one before, or behind that. -/
theorem pairwise_scan : (p.scan s fuel i).Pairwise fun a b => resume a ≤ b.span.start := by
  induction fuel generalizing i with
  | zero => exact .nil
  | succ fuel ih =>
    obtain ⟨-, hscan⟩ | ⟨hi, m, hnext, hscan⟩ := scan_succ p s fuel i
    · rw [hscan]
      exact .nil
    · rw [hscan]
      split
      · exact .cons (fun b hb => (found_of_mem_scan hb).reached) ih
      · exact List.pairwise_singleton _ _

/-- Every match from a position on is under one that a scan for every match yields. -/
theorem exists_mem_scan (hg : p.everywhere = true) (hy : p.sticky = false)
    (hfuel : s.size < i + fuel) {q : Nat} (hiq : i ≤ q) (hq : q ≤ s.size)
    (hmatch : (p.compiled.matchAt s q).isSome) :
    ∃ m ∈ p.scan s fuel i, m.span.start ≤ q ∧ q < resume m := by
  induction fuel generalizing i with
  | zero => omega
  | succ fuel ih =>
    have hnext : p.next? s i = p.compiled.search s i := by
      rw [next?, hy, if_neg Bool.false_ne_true]
    obtain ⟨hend, -⟩ | ⟨hi, m, hm, hscan⟩ := scan_succ p s fuel i
    · have hnone : p.compiled.matchAt s q = none := by
        rw [hnext, Compiled.search_eq_none_iff] at hend
        exact hend.resolve_left (by omega) q hiq hq
      rw [hnone] at hmatch
      cases hmatch
    · have hfound := found_of_next? hi hm
      rw [hscan, hg, if_pos rfl]
      by_cases hbehind : resume m ≤ q
      · have hresume := hfound.lt_resume
        obtain ⟨m', hm', hstart, hstop⟩ := ih (by omega) hbehind
        exact ⟨m', List.mem_cons_of_mem _ hm', hstart, hstop⟩
      · -- The position is before the end of `m`, and no match starts before that of `m`.
        rw [hnext] at hm
        obtain ⟨-, -, -, -, hleast⟩ := Compiled.least_of_search hm
        refine ⟨m, List.mem_cons_self, ?_, Nat.lt_of_not_le hbehind⟩
        refine Nat.le_of_not_lt fun hlt => ?_
        rw [hleast q hiq hlt] at hmatch
        cases hmatch

/-- A scan for every match ends after at most one match for each position, and yields the leftmost
matches that do not overlap: each is the one at its start, they lie in the text in order and apart
from each other, and none that could still be among them is missing. -/
theorem occurrences_everywhere (p : Pattern) (s : Array Char) (hg : p.everywhere = true)
    (hy : p.sticky = false) :
    (∀ fuel, s.size < fuel → p.scan s fuel 0 = p.occurrences s) ∧
      (p.occurrences s).length ≤ s.size + 1 ∧
      (∀ m ∈ p.occurrences s, p.compiled.matchAt s m.span.start = some m ∧
        m.span.start ≤ m.span.stop ∧ m.span.stop ≤ s.size) ∧
      (p.occurrences s).Pairwise (fun a b => a.span.start < b.span.start ∧
        a.span.stop ≤ b.span.start ∧ (a.span.start = a.span.stop → a.span.stop < b.span.start)) ∧
      ∀ q ≤ s.size, (p.compiled.matchAt s q).isSome →
        ∃ m ∈ p.occurrences s, m.span.start ≤ q ∧ q < max m.span.stop (m.span.start + 1) := by
  have hmem : ∀ m ∈ p.occurrences s, Found p s 0 m := fun m hm => found_of_mem_scan hm
  refine ⟨fun fuel hfuel => scan_eq_scan (by omega) (by omega), length_scan_le, fun m hm => ?_, ?_,
    fun q hq hmatch => ?_⟩
  · exact ⟨(hmem m hm).matched, (hmem m hm).ordered, (hmem m hm).inside⟩
  · refine pairwise_scan.imp_of_mem fun {a b} ha _ hab => ?_
    rw [resume_eq_max (hmem a ha).ordered] at hab
    exact ⟨by omega, by omega, fun _ => by omega⟩
  · have hfuel : s.size < 0 + (s.size + 1) := by omega
    obtain ⟨m, hm, hstart, hstop⟩ := exists_mem_scan hg hy hfuel (Nat.zero_le q) hq hmatch
    rw [resume_eq_max (hmem m hm).ordered] at hstop
    exact ⟨m, hm, hstart, hstop⟩

/-- The runs of `a`, empty ones included, as read from `/a*/g`. -/
def runsOfA : Pattern :=
  ⟨⟨.repeated 0 none true (.set (.exactly 'a')), 0⟩, true, false, false, false⟩

theorem occurrences_runsOfA : read .empty "/a*/g" = .ok runsOfA ∧ runsOfA.everywhere = true ∧
    runsOfA.sticky = false ∧
    (runsOfA.occurrences #['b', 'a', 'a', 'c']).map (·.span) = [⟨0, 0⟩, ⟨1, 3⟩, ⟨3, 3⟩, ⟨4, 4⟩] ∧
    (runsOfA.occurrences #['b', 'a', 'a', 'c']).length ≤ 5 ∧
    ∀ q ≤ 4, (runsOfA.compiled.matchAt #['b', 'a', 'a', 'c'] q).isSome →
      ∃ m ∈ runsOfA.occurrences #['b', 'a', 'a', 'c'],
        m.span.start ≤ q ∧ q < max m.span.stop (m.span.start + 1) := by
  obtain ⟨-, hlength, -, -, hcovered⟩ :=
    occurrences_everywhere runsOfA #['b', 'a', 'a', 'c'] rfl rfl
  exact ⟨rfl, rfl, rfl, by decide, hlength, hcovered⟩

end Harvest.Pattern
