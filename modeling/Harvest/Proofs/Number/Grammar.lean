import Harvest.Number.Leading
import Harvest.Proofs.Text.Digits
import Mathlib.Computability.Language

/-!
# The language of decimals

A decimal is a mantissa of digits with at most one point, and after it there may be an exponent.
Each reader takes the longest prefix of a text that belongs to its language. This composes: when no
word of the second language starts like something inside a word of the first, then reading one word
after the other takes the longest prefix that belongs to the product.
-/

namespace Harvest.Number

open Harvest.Text

def digits : Language Char := {t | ∀ c ∈ t, isDigit c = true}

def someDigits : Language Char := {t | t ∈ digits ∧ t ≠ []}

def signs : Language Char := {[], ['+'], ['-']}

def mantissas : Language Char := someDigits * {[], ['.']} * digits + {['.']} * someDigits

def exponents : Language Char := 1 + {['e'], ['E']} * signs * someDigits

/-- Decimals and the word for infinity, with or without a sign. -/
def decimals : Language Char := signs * ({infinityWord} + mantissas * exponents)

variable {L M : Language Char} {a b p q t : Text}

/-! ### Longest prefixes -/

structure IsLongestPrefix (L : Language Char) (t p : Text) : Prop where
  isPrefix : p <+: t
  mem : p ∈ L
  length_le : ∀ q ∈ L, q <+: t → q.length ≤ p.length

theorem IsLongestPrefix.prefix_of_mem (h : IsLongestPrefix L t p) (hq : q ∈ L) (hqt : q <+: t) :
    q <+: p :=
  List.prefix_of_prefix_length_le hqt h.isPrefix (h.length_le q hq hqt)

theorem IsLongestPrefix.eq (hp : IsLongestPrefix L t p) (hq : IsLongestPrefix L t q) : p = q := by
  have hpq : p <+: q := hq.prefix_of_mem hp.mem hp.isPrefix
  exact hpq.eq_of_length_le (hp.length_le q hq.mem hq.isPrefix)

theorem isLongestPrefix_self (h : t ∈ L) : IsLongestPrefix L t t :=
  ⟨List.prefix_rfl, h, fun _ _ hq => hq.length_le⟩

/-- A word of the product that a text starts with is either parted where the longest word of the
first language ends, or not longer than that word. -/
theorem IsLongestPrefix.cases_of_mem_mul (ha : IsLongestPrefix L (a ++ b) a)
    (hstart : ∀ x ∈ M, ∀ c ∈ x.head?, c ∉ a) (hq : q ∈ L * M) (hqt : q <+: a ++ b) :
    (∃ x ∈ M, x <+: b ∧ q = a ++ x) ∨ [] ∈ M ∧ q.length ≤ a.length := by
  obtain ⟨m, hm, x, hx, rfl⟩ := Language.mem_mul.1 hq
  have hmt : m <+: a ++ b := (List.prefix_append m x).trans hqt
  obtain ⟨s, rfl⟩ := ha.prefix_of_mem hm hmt
  rw [List.append_assoc, List.prefix_append_right_inj] at hqt
  cases s with
  | nil => exact .inl ⟨x, hx, hqt, by rw [List.append_nil]⟩
  | cons c s =>
    cases x with
    | nil => exact .inr ⟨hx, by simp⟩
    | cons d x =>
      obtain ⟨rfl, -⟩ := List.cons_prefix_cons.1 hqt
      exact absurd List.mem_append_cons_self (hstart _ hx d rfl)

/-- Takes the longest word of a language that a text starts with, and fails when there is none. -/
structure Reads (L : Language Char) (read : Text → Option (Text × Text)) : Prop where
  of_some {t a b : Text} : read t = some (a, b) → a ++ b = t ∧ IsLongestPrefix L t a
  of_none {t : Text} : read t = none → ∀ q ∈ L, ¬ q <+: t

theorem Reads.mul {read next : Text → Option (Text × Text)} (hL : Reads L read)
    (hM : Reads M next) (hstart : ∀ a ∈ L, ∀ x ∈ M, ∀ c ∈ x.head?, c ∉ a) :
    Reads (L * M) fun t => (read t).bind fun p => (next p.2).map fun q => (p.1 ++ q.1, q.2) where
  of_some {t d r} h := by
    obtain ⟨⟨a, b⟩, hread, hnext⟩ := Option.bind_eq_some_iff.1 h
    obtain ⟨⟨x, y⟩, hword, hpair⟩ := Option.map_eq_some_iff.1 hnext
    cases hpair
    obtain ⟨rfl, ha⟩ := hL.of_some hread
    obtain ⟨rfl, hx⟩ := hM.of_some hword
    change a ++ x ++ y = a ++ (x ++ y) ∧ IsLongestPrefix (L * M) (a ++ (x ++ y)) (a ++ x)
    refine ⟨List.append_assoc a x y, (List.prefix_append_right_inj a).2 hx.isPrefix,
      Language.append_mem_mul ha.mem hx.mem, fun q hq hqt => ?_⟩
    rcases ha.cases_of_mem_mul (hstart a ha.mem) hq hqt with ⟨z, hz, hzb, rfl⟩ | ⟨-, hshort⟩
    · have := hx.length_le z hz hzb
      rw [List.length_append, List.length_append]
      omega
    · rw [List.length_append]
      omega
  of_none {t} h q hq hqt := by
    rw [Option.bind_eq_none_iff] at h
    cases hread : read t with
    | none =>
      obtain ⟨m, hm, x, -, rfl⟩ := Language.mem_mul.1 hq
      exact hL.of_none hread m hm ((List.prefix_append m x).trans hqt)
    | some p =>
      have hnext : next p.2 = none := Option.map_eq_none_iff.1 (h p hread)
      obtain ⟨rfl, ha⟩ := hL.of_some hread
      rcases ha.cases_of_mem_mul (hstart _ ha.mem) hq hqt with ⟨x, hx, hxb, -⟩ | ⟨hnil, -⟩
      · exact hM.of_none hnext x hx hxb
      · exact hM.of_none hnext [] hnil List.nil_prefix

/-! ### Words of the languages -/

theorem append_mem_digits (ha : a ∈ digits) (hb : b ∈ digits) : a ++ b ∈ digits :=
  fun c hc => (List.mem_append.1 hc).elim (ha c) (hb c)

theorem takeWhile_mem_digits (t : Text) : t.takeWhile isDigit ∈ digits :=
  fun _ hc => List.mem_takeWhile_imp hc

theorem mem_signs : t ∈ signs ↔ t = [] ∨ t = ['+'] ∨ t = ['-'] := Iff.rfl

theorem mem_mantissas : t ∈ mantissas ↔
    t ∈ someDigits ∨ ∃ w ∈ digits, ∃ f ∈ digits, t = w ++ '.' :: f ∧ (w ≠ [] ∨ f ≠ []) := by
  constructor
  · rintro (⟨v, ⟨w, ⟨hw, hne⟩, point, rfl | rfl, rfl⟩, f, hf, rfl⟩ |
      ⟨point, rfl, f, ⟨hf, hne⟩, rfl⟩)
    · refine .inl ⟨append_mem_digits (append_mem_digits hw nofun) hf, ?_⟩
      simp [hne]
    · exact .inr ⟨w, hw, f, hf, by simp, .inl hne⟩
    · exact .inr ⟨[], nofun, f, hf, rfl, .inr hne⟩
  · rintro (ht | ⟨w, hw, f, hf, rfl, hne⟩)
    · exact .inl ⟨t, ⟨t, ht, [], .inl rfl, List.append_nil t⟩, [], nofun, List.append_nil t⟩
    · by_cases hempty : w = []
      · subst hempty
        exact .inr ⟨['.'], rfl, f, ⟨hf, hne.resolve_left (· rfl)⟩, rfl⟩
      · exact .inl ⟨w ++ ['.'], ⟨w, ⟨hw, hempty⟩, ['.'], .inr rfl, rfl⟩, f, hf, by simp⟩

theorem mem_exponents : t ∈ exponents ↔ t = [] ∨
    ∃ c, (c = 'e' ∨ c = 'E') ∧ ∃ s ∈ signs, ∃ d ∈ someDigits, t = c :: s ++ d := by
  constructor
  · rintro (h | ⟨v, ⟨e, rfl | rfl, s, hs, rfl⟩, d, hd, rfl⟩)
    · exact .inl h
    · exact .inr ⟨'e', .inl rfl, s, hs, d, hd, rfl⟩
    · exact .inr ⟨'E', .inr rfl, s, hs, d, hd, rfl⟩
  · rintro (h | ⟨c, rfl | rfl, s, hs, d, hd, rfl⟩)
    · exact .inl h
    · exact .inr ⟨'e' :: s, ⟨['e'], .inl rfl, s, hs, rfl⟩, d, hd, rfl⟩
    · exact .inr ⟨'E' :: s, ⟨['E'], .inr rfl, s, hs, rfl⟩, d, hd, rfl⟩

theorem isDigit_or_point_of_mem_mantissas (ht : t ∈ mantissas) :
    ∀ c ∈ t, isDigit c = true ∨ c = '.' := by
  intro c hc
  rcases mem_mantissas.1 ht with hdigits | ⟨w, hw, f, hf, rfl, -⟩
  · exact .inl (hdigits.1 c hc)
  · rcases List.mem_append.1 hc with hc | hc
    · exact .inl (hw c hc)
    · rcases List.mem_cons.1 hc with rfl | hc
      · exact .inr rfl
      · exact .inl (hf c hc)

theorem ne_nil_of_mem_mantissas (ht : t ∈ mantissas) : t ≠ [] := by
  rcases mem_mantissas.1 ht with hdigits | ⟨w, -, f, -, rfl, -⟩
  · exact hdigits.2
  · simp

/-! ### Readers -/

theorem length_le_takeWhile (hq : q ∈ digits) (hqt : q <+: t) :
    q.length ≤ (t.takeWhile isDigit).length := by
  obtain ⟨r, rfl⟩ := hqt
  rw [List.takeWhile_append_of_pos hq, List.length_append]
  omega

/-- Digits are taken up to the first other code point. -/
theorem takeWhile_append_of_head? (ha : a ∈ digits) (hb : ∀ c ∈ b.head?, isDigit c = false) :
    (a ++ b).takeWhile isDigit = a ∧ (a ++ b).dropWhile isDigit = b :=
  takeWhile_append_of_stop ha hb

theorem splitSign_append {s : Text} (hs : s ∈ signs) (ht : ∀ c ∈ t.head?, c ≠ '+' ∧ c ≠ '-') :
    splitSign (s ++ t) = (s, t) := by
  rcases mem_signs.1 hs with rfl | rfl | rfl
  · cases t with
    | nil => rfl
    | cons c r =>
      obtain ⟨hplus, hminus⟩ := ht c rfl
      rw [List.nil_append, splitSign]
      · exact fun _ h => hplus (List.cons.inj h).1
      · exact fun _ h => hminus (List.cons.inj h).1
  · rfl
  · rfl

theorem splitSign_spec (t : Text) :
    (splitSign t).1 ++ (splitSign t).2 = t ∧ (splitSign t).1 ∈ signs := by
  rw [mem_signs]
  unfold splitSign
  split <;> simp

theorem reads_signs : Reads signs fun t => some (splitSign t) where
  of_some {t a b} h := by
    obtain ⟨happend, hmem⟩ := splitSign_spec t
    rw [Option.some.inj h] at happend hmem
    refine ⟨happend, ⟨b, happend⟩, hmem, fun q hq hqt => ?_⟩
    rcases mem_signs.1 hq with rfl | rfl | rfl
    · exact Nat.zero_le _
    all_goals
      obtain ⟨r, rfl⟩ := hqt
      cases h
      exact Nat.le_refl _
  of_none h := nomatch h

theorem head?_of_mem_someDigits {d : Text} (hd : d ∈ someDigits) (r : Text) :
    ∃ c, (d ++ r).head? = some c ∧ isDigit c = true := by
  cases d with
  | nil => exact absurd rfl hd.2
  | cons c d => exact ⟨c, rfl, hd.1 c List.mem_cons_self⟩

theorem splitSign_append_digits {s d : Text} (hs : s ∈ signs) (hd : d ∈ someDigits) (r : Text) :
    splitSign (s ++ (d ++ r)) = (s, d ++ r) := by
  obtain ⟨c, hhead, hc⟩ := head?_of_mem_someDigits hd r
  refine splitSign_append hs fun c' hc' => ?_
  cases hhead.symm.trans hc'
  constructor
  · rintro rfl
    cases hc
  · rintro rfl
    cases hc

/-- Where a text starts with digits and a point, these are the digits that are taken. -/
theorem split_of_pointed_prefix {w f : Text} (hw : w ∈ digits) (h : w ++ '.' :: f <+: t) :
    t.takeWhile isDigit = w ∧ ∃ r, t.dropWhile isDigit = '.' :: r ∧ f <+: r := by
  obtain ⟨s, rfl⟩ := h
  rw [List.append_assoc, List.cons_append]
  have hpoint : ∀ c ∈ ('.' :: (f ++ s)).head?, isDigit c = false := by
    rintro c ⟨⟩
    rfl
  obtain ⟨htake, hdrop⟩ := takeWhile_append_of_head? hw hpoint
  exact ⟨htake, f ++ s, hdrop, List.prefix_append f s⟩

theorem splitMantissa_of_point {r : Text} (h : t.dropWhile isDigit = '.' :: r) :
    splitMantissa t = if t.takeWhile isDigit = [] ∧ r.takeWhile isDigit = [] then none
      else some (t.takeWhile isDigit ++ '.' :: r.takeWhile isDigit, r.dropWhile isDigit) := by
  rw [splitMantissa, h]
  simp only [Bool.and_eq_true, List.isEmpty_iff]

theorem splitMantissa_of_ne_point (h : ∀ r, t.dropWhile isDigit ≠ '.' :: r) :
    splitMantissa t = if t.takeWhile isDigit = [] then none
      else some (t.takeWhile isDigit, t.dropWhile isDigit) := by
  rw [splitMantissa]
  simp only [List.isEmpty_iff]

theorem reads_mantissas : Reads mantissas splitMantissa where
  of_some {t a b} h := by
    have htext : t.takeWhile isDigit ++ t.dropWhile isDigit = t := List.takeWhile_append_dropWhile
    by_cases hpoint : ∃ r, t.dropWhile isDigit = '.' :: r
    · obtain ⟨r, hrest⟩ := hpoint
      rw [splitMantissa_of_point hrest] at h
      split at h
      · cases h
      · rename_i hsome
        cases h
        have happend :
            t.takeWhile isDigit ++ '.' :: r.takeWhile isDigit ++ r.dropWhile isDigit = t := by
          rw [List.append_assoc, List.cons_append, List.takeWhile_append_dropWhile, ← hrest, htext]
        refine ⟨happend, ⟨_, happend⟩, mem_mantissas.2 (.inr ⟨_, takeWhile_mem_digits t, _,
          takeWhile_mem_digits r, rfl, not_and_or.1 hsome⟩), fun q hq hqt => ?_⟩
        rw [List.length_append]
        rcases mem_mantissas.1 hq with hdigits | ⟨w, hw, f, hf, rfl, -⟩
        · have := length_le_takeWhile hdigits.1 hqt
          omega
        · obtain ⟨htake, r', hdrop, hfr⟩ := split_of_pointed_prefix hw hqt
          cases hrest.symm.trans hdrop
          have := length_le_takeWhile hf hfr
          rw [htake, List.length_append, List.length_cons, List.length_cons]
          omega
    · rw [splitMantissa_of_ne_point (not_exists.1 hpoint)] at h
      split at h
      · cases h
      · rename_i hsome
        cases h
        refine ⟨htext, List.takeWhile_prefix _,
          mem_mantissas.2 (.inl ⟨takeWhile_mem_digits t, hsome⟩), fun q hq hqt => ?_⟩
        rcases mem_mantissas.1 hq with hdigits | ⟨w, hw, f, -, rfl, -⟩
        · exact length_le_takeWhile hdigits.1 hqt
        · obtain ⟨-, r, hdrop, -⟩ := split_of_pointed_prefix hw hqt
          exact absurd ⟨r, hdrop⟩ hpoint
  of_none {t} h q hq hqt := by
    rcases mem_mantissas.1 hq with ⟨hdigits, hne⟩ | ⟨w, hw, f, hf, rfl, hne⟩
    · have hwhole : t.takeWhile isDigit ≠ [] := by
        have hlength := length_le_takeWhile hdigits hqt
        have hpositive : 0 < q.length := List.length_pos_iff.2 hne
        exact List.ne_nil_of_length_pos (by omega)
      by_cases hpoint : ∃ r, t.dropWhile isDigit = '.' :: r
      · obtain ⟨r, hrest⟩ := hpoint
        rw [splitMantissa_of_point hrest, if_neg fun hnone => hwhole hnone.1] at h
        cases h
      · rw [splitMantissa_of_ne_point (not_exists.1 hpoint), if_neg hwhole] at h
        cases h
    · obtain ⟨htake, r, hdrop, hfr⟩ := split_of_pointed_prefix hw hqt
      have hlength := length_le_takeWhile hf hfr
      rw [splitMantissa_of_point hdrop, htake] at h
      split at h
      · rename_i hnone
        rw [hnone.2] at hlength
        rcases hne with hne | hne
        · exact hne hnone.1
        · exact hne (List.length_eq_zero_iff.1 (Nat.le_zero.1 hlength))
      · cases h

/-- An exponent that a text starts with has the sign that is split off after its letter. -/
theorem splitSign_of_exponent_prefix (hq : q ∈ exponents) (hne : q ≠ []) (h : q <+: t) :
    ∃ c r d, (c = 'e' ∨ c = 'E') ∧ d ∈ someDigits ∧ t = c :: r ∧ q = c :: (splitSign r).1 ++ d ∧
      d <+: (splitSign r).2 := by
  rcases mem_exponents.1 hq with rfl | ⟨c, hc, s, hs, d, hd, rfl⟩
  · exact absurd rfl hne
  · obtain ⟨z, rfl⟩ := h
    have hsplit := splitSign_append_digits hs hd z
    refine ⟨c, s ++ (d ++ z), d, hc, hd, by simp, ?_, ?_⟩
    · rw [hsplit]
    · rw [hsplit]
      exact List.prefix_append d z

theorem reads_exponents : Reads exponents fun t => some (splitExponent t) where
  of_some {t a b} h := by
    have hpair := Option.some.inj h
    unfold splitExponent at hpair
    split at hpair
    · cases hpair
      exact ⟨rfl, isLongestPrefix_self (mem_exponents.2 (.inl rfl))⟩
    · rename_i c r
      obtain ⟨hsplit, hsign⟩ := splitSign_spec r
      dsimp only at hpair
      split at hpair
      · rename_i hcond
        cases hpair
        have happend : c :: (splitSign r).1 ++ (splitSign r).2.takeWhile isDigit ++
            (splitSign r).2.dropWhile isDigit = c :: r := by
          rw [List.append_assoc, List.takeWhile_append_dropWhile, List.cons_append, hsplit]
        refine ⟨happend, ⟨_, happend⟩, mem_exponents.2 (.inr ⟨c, hcond.1, _, hsign, _,
          ⟨takeWhile_mem_digits _, hcond.2⟩, rfl⟩), fun q hq hqt => ?_⟩
        by_cases hne : q = []
        · rw [hne]
          exact Nat.zero_le _
        · obtain ⟨c', r', d, -, hd, ht, rfl, hdr⟩ := splitSign_of_exponent_prefix hq hne hqt
          cases ht
          have := length_le_takeWhile hd.1 hdr
          rw [List.length_append, List.length_append]
          omega
      · rename_i hcond
        cases hpair
        refine ⟨rfl, List.nil_prefix, mem_exponents.2 (.inl rfl), fun q hq hqt => ?_⟩
        by_cases hne : q = []
        · rw [hne]
        · obtain ⟨c', r', d, hc, hd, ht, rfl, hdr⟩ := splitSign_of_exponent_prefix hq hne hqt
          cases ht
          have hlength := length_le_takeWhile hd.1 hdr
          have hpositive : 0 < d.length := List.length_pos_iff.2 hd.2
          have htaken : (splitSign r).2.takeWhile isDigit ≠ [] := by
            apply List.ne_nil_of_length_pos
            omega
          exact absurd ⟨hc, htaken⟩ hcond
  of_none h := nomatch h

/-- The letter of an exponent does not occur in a mantissa, so an exponent cannot start earlier. -/
theorem reads_unsigned : Reads (mantissas * exponents) splitDecimal := by
  have hreads := reads_mantissas.mul reads_exponents fun a ha x hx c hc => by
    intro hmem
    have hmantissa := isDigit_or_point_of_mem_mantissas ha c hmem
    rcases mem_exponents.1 hx with rfl | ⟨e, rfl | rfl, s, -, d, -, rfl⟩
    · cases hc
    all_goals
      cases hc
      revert hmantissa
      decide
  have hsame : splitDecimal = fun t => (splitMantissa t).bind fun p =>
      (some (splitExponent p.2)).map fun q => (p.1 ++ q.1, q.2) := by
    funext t
    rw [splitDecimal]
    cases splitMantissa t <;> rfl
  rw [hsame]
  exact hreads

end Harvest.Number
