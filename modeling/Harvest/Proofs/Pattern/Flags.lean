import Harvest.Proofs.Pattern.Scan
import Harvest.Proofs.Pattern.Slashes

/-!
# What flags make of a scan

A scan for every match goes over matches that a scan with other flags goes over only in part. One
that asks for the first match ends there. One that moves on only where a match starts exactly ends
where the next match is further off: it yields the longest beginning of all matches in which each
match adjoins the one before.
-/

namespace Harvest

namespace Pattern

variable {p : Pattern} {s : Array Char} {i fuel : Nat} {ms ns : List Match}

/-! ### Matches that adjoin each other -/

/-- Each match starts exactly where the scan goes on after the one before. -/
def Adjoining : Nat → List Match → Prop
  | _, [] => True
  | i, m :: ms => m.span.start = i ∧ Adjoining (resume m) ms

/-- The longest beginning in which matches adjoin each other. -/
def adjoining : Nat → List Match → List Match
  | _, [] => []
  | i, m :: ms => if m.span.start = i then m :: adjoining (resume m) ms else []

theorem adjoining_prefix_self (i : Nat) (ms : List Match) : adjoining i ms <+: ms := by
  induction ms generalizing i with
  | nil => exact List.prefix_refl []
  | cons m ms ih =>
    rw [adjoining]
    split
    · exact List.cons_prefix_cons.2 ⟨rfl, ih (resume m)⟩
    · exact List.nil_prefix

theorem adjoining_adjoining (i : Nat) (ms : List Match) : Adjoining i (adjoining i ms) := by
  induction ms generalizing i with
  | nil => exact trivial
  | cons m ms ih =>
    rw [adjoining]
    split
    · rename_i hstart
      exact ⟨hstart, ih (resume m)⟩
    · exact trivial

theorem prefix_adjoining (h : ns <+: ms) (hns : Adjoining i ns) : ns <+: adjoining i ms := by
  induction ns generalizing i ms with
  | nil => exact List.nil_prefix
  | cons n ns ih =>
    obtain ⟨rest, rfl⟩ := h
    obtain ⟨hstart, hrest⟩ := hns
    rw [List.cons_append, adjoining, if_pos hstart]
    exact List.cons_prefix_cons.2 ⟨rfl, ih (List.prefix_append ns rest) hrest⟩

/-! ### Scans with other flags -/

/-- The pattern with other flags for its scan. -/
def withScan (p : Pattern) (everywhere sticky : Bool) : Pattern :=
  { p with everywhere := everywhere, sticky := sticky }

/-- A scan for the first match yields the first that the scan for every match yields. -/
theorem scan_first (sticky : Bool) : (p.withScan false sticky).scan s fuel i =
    ((p.withScan true sticky).scan s fuel i).take 1 := by
  cases fuel with
  | zero => rfl
  | succ fuel =>
    rw [scan, scan]
    have hnext : (p.withScan false sticky).next? s i = (p.withScan true sticky).next? s i := rfl
    rw [hnext]
    split
    · cases (p.withScan true sticky).next? s i with
      | none => rfl
      | some m => rfl
    · rfl

/-- A sticky scan yields the matches that adjoin each other. -/
theorem scan_sticky : (p.withScan true true).scan s fuel i =
    adjoining i ((p.withScan true false).scan s fuel i) := by
  induction fuel generalizing i with
  | zero => rfl
  | succ fuel ih =>
    have hsticky : (p.withScan true true).next? s i = p.compiled.matchAt s i := rfl
    have hsearch : (p.withScan true false).next? s i = p.compiled.search s i := rfl
    rw [scan, scan, hsticky, hsearch]
    by_cases hi : i ≤ s.size
    · rw [if_pos hi, if_pos hi]
      cases hmatch : p.compiled.matchAt s i with
      | some m =>
        rw [Compiled.search_of_matchAt hi hmatch]
        have hstart := Compiled.start_of_matchAt hmatch
        change m :: (p.withScan true true).scan s fuel (resume m) =
          adjoining i (m :: (p.withScan true false).scan s fuel (resume m))
        rw [adjoining, if_pos hstart, ih]
      | none =>
        -- The next match is further off, if there is one.
        cases hnext : p.compiled.search s i with
        | none => rfl
        | some m =>
          have hstart : m.span.start ≠ i := by
            intro hstart
            rw [Compiled.matchAt_of_search hnext hstart] at hmatch
            cases hmatch
          change [] = adjoining i (m :: (p.withScan true false).scan s fuel (resume m))
          rw [adjoining, if_neg hstart]
    · rw [if_neg hi, if_neg hi]
      rfl

/-! ### The flags of a pattern -/

variable {names : CharacterNames}

/-- Flags that treat letters alike differ only in how the text is scanned. -/
theorem read_slashed_of_alike {body flags flags' : Text} (hflags : IsFlags flags)
    (hflags' : IsFlags flags') (hi : 'i' ∈ flags ↔ 'i' ∈ flags') (hm : 'm' ∈ flags ↔ 'm' ∈ flags')
    (hp : read names (slashed body flags) = .ok p) : read names (slashed body flags') =
      .ok (p.withScan (decide ('g' ∈ flags')) (decide ('y' ∈ flags'))) := by
  have hoptions : optionsOf flags' = optionsOf flags := by
    simp only [optionsOf, List.contains_eq_mem, hi, hm]
  rw [read_slashed body hflags] at hp
  rw [read_slashed body hflags', hoptions]
  cases hwhole : Expression.readWhole names (optionsOf flags) body with
  | error e =>
    rw [hwhole] at hp
    cases hp
  | ok q =>
    rw [hwhole] at hp
    cases hp
    simp only [Except.map, withScan, List.contains_eq_mem]

theorem withScan_of_flags {body flags : Text} (hflags : IsFlags flags) (hg : 'g' ∈ flags)
    (hy : 'y' ∉ flags) (hp : read names (slashed body flags) = .ok p) :
    p.withScan true false = p := by
  have hsame := read_slashed_of_alike hflags hflags Iff.rfl Iff.rfl hp
  rw [hp, decide_eq_true hg, decide_eq_false hy] at hsame
  exact (Except.ok.inj hsame).symm

/-- Of the matches that an expression has everywhere, those that adjoin each other from the start of
the text are the longest beginning of that kind. A pattern with other flags for its scan yields the
first match, those that adjoin each other, or the first of these. -/
theorem occurrences_by_flags {body flags flags' : Text} (hflags : IsFlags flags)
    (hflags' : IsFlags flags') (hg : 'g' ∈ flags) (hy : 'y' ∉ flags)
    (hi : 'i' ∈ flags ↔ 'i' ∈ flags') (hm : 'm' ∈ flags ↔ 'm' ∈ flags') {p : Pattern}
    (hp : read names (slashed body flags) = .ok p) (s : Array Char) :
    ∃ q ms, read names (slashed body flags') = .ok q ∧
      (ms <+: p.occurrences s ∧ Adjoining 0 ms ∧
        ∀ ns, ns <+: p.occurrences s → Adjoining 0 ns → ns <+: ms) ∧
      ('g' ∈ flags' → 'y' ∉ flags' → q.occurrences s = p.occurrences s) ∧
      ('g' ∉ flags' → 'y' ∉ flags' → q.occurrences s = (p.occurrences s).take 1) ∧
      ('g' ∈ flags' → 'y' ∈ flags' → q.occurrences s = ms) ∧
      ('g' ∉ flags' → 'y' ∈ flags' → q.occurrences s = ms.take 1) := by
  have hall : p.occurrences s = (p.withScan true false).occurrences s := by
    rw [withScan_of_flags hflags hg hy hp]
  have hsticky : (p.withScan true true).occurrences s = adjoining 0 (p.occurrences s) := by
    rw [hall]
    exact scan_sticky
  refine ⟨_, adjoining 0 (p.occurrences s), read_slashed_of_alike hflags hflags' hi hm hp,
    ⟨adjoining_prefix_self 0 _, adjoining_adjoining 0 _, fun ns => prefix_adjoining⟩,
    fun hg' hy' => ?_, fun hg' hy' => ?_, fun hg' hy' => ?_, fun hg' hy' => ?_⟩
  · rw [decide_eq_true hg', decide_eq_false hy', hall]
  · rw [decide_eq_false hg', decide_eq_false hy', hall]
    exact scan_first false
  · rw [decide_eq_true hg', decide_eq_true hy', hsticky]
  · rw [decide_eq_false hg', decide_eq_true hy', ← hsticky]
    exact scan_first true

/-- The letter `a` in either case, as read from `/a/gi`. -/
def eitherA : Pattern :=
  ⟨⟨.set ⟨[.range 97 97], false, .full, false⟩, 0⟩, true, false, true, false⟩

theorem occurrences_eitherA : IsFlags "gi" ∧ IsFlags "yig" ∧
    read .empty (slashed "a" "gi") = .ok eitherA ∧
    (eitherA.occurrences #['a', 'A', 'b', 'a']).map (·.span) = [⟨0, 1⟩, ⟨1, 2⟩, ⟨3, 4⟩] ∧
    ∃ q, read .empty (slashed "a" "yig") = .ok q ∧
      q.occurrences #['a', 'A', 'b', 'a'] <+: eitherA.occurrences #['a', 'A', 'b', 'a'] ∧
      Adjoining 0 (q.occurrences #['a', 'A', 'b', 'a']) ∧
      (q.occurrences #['a', 'A', 'b', 'a']).map (·.span) = [⟨0, 1⟩, ⟨1, 2⟩] := by
  have hflags : IsFlags "gi" := by decide
  have hflags' : IsFlags "yig" := by decide
  have hread : read .empty (slashed "a" "gi") = .ok eitherA := rfl
  obtain ⟨q, ms, hq, ⟨hstart, hadjoining, -⟩, -, -, hms, -⟩ :=
    occurrences_by_flags hflags hflags' (by decide) (by decide) (by decide) (by decide) hread
      #['a', 'A', 'b', 'a']
  have hsame := hms (by decide) (by decide)
  have hq' : read .empty (slashed "a" "yig") = .ok (eitherA.withScan true true) := rfl
  obtain rfl : q = eitherA.withScan true true := Except.ok.inj (hq.symm.trans hq')
  refine ⟨hflags, hflags', hread, by decide, _, hq, ?_, ?_, by decide⟩
  · rw [hsame]
    exact hstart
  · rw [hsame]
    exact hadjoining

end Pattern

end Harvest
