import Harvest.Proofs.Expression.Repetition
import Harvest.Proofs.Number.Grammar
import Harvest.Proofs.Pattern.Decomposition
import Mathlib.Data.Nat.Digits.Defs

/-!
# The integer at the start of a text

A text parts into its leading blanks, at most one sign, the digits behind that and a rest. The
integer read from it is the signed value of these digits in base ten, whatever the rest is, and
there is none exactly when there are no digits. The expression for a leading integer finds the same
sign and digits by backtracking. Trimming changes neither, because blanks are not digits.
-/

namespace Harvest

namespace Number

open Harvest.Text

variable {t w sign ds r : Text}

/-- A text as all the blanks it starts with, a sign if one is next, all the digits behind, and a
rest. -/
structure Parting (t w sign ds r : Text) : Prop where
  append : w ++ (sign ++ (ds ++ r)) = t
  blank : ∀ c ∈ w, isBlank c = true
  unblank : ∀ c ∈ (sign ++ (ds ++ r)).head?, isBlank c = false
  sign_mem : sign ∈ signs
  unsigned : sign = [] → ∀ c ∈ (ds ++ r).head?, c ≠ '+' ∧ c ≠ '-'
  digits_mem : ds ∈ digits
  stop : ∀ c ∈ r.head?, isDigit c = false

theorem splitSign_fst_eq_nil (h : (splitSign t).1 = []) : ∀ c ∈ t.head?, c ≠ '+' ∧ c ≠ '-' := by
  rintro c hc
  cases t with
  | nil => cases hc
  | cons x r =>
    cases hc
    constructor <;>
    · rintro rfl
      cases h

/-- Every text can be parted. -/
theorem exists_parting (t : Text) : ∃ w sign ds r, Parting t w sign ds r := by
  have hsplit := splitSign_spec (trimLeft t)
  have hdigits : (splitSign (trimLeft t)).2.takeWhile isDigit ++
      (splitSign (trimLeft t)).2.dropWhile isDigit = (splitSign (trimLeft t)).2 :=
    List.takeWhile_append_dropWhile
  refine ⟨t.takeWhile isBlank, (splitSign (trimLeft t)).1,
    (splitSign (trimLeft t)).2.takeWhile isDigit, (splitSign (trimLeft t)).2.dropWhile isDigit,
    ?_, fun c hc => List.mem_takeWhile_imp hc, ?_, hsplit.2, ?_, takeWhile_mem_digits _,
    fun c => of_mem_head?_dropWhile⟩
  · rw [hdigits, hsplit.1]
    exact List.takeWhile_append_dropWhile
  · intro c hc
    rw [hdigits, hsplit.1] at hc
    exact of_mem_head?_dropWhile hc
  · intro hnone c hc
    rw [hdigits] at hc
    refine splitSign_fst_eq_nil hnone c ?_
    rwa [← hsplit.1, hnone, List.nil_append]

theorem splitSign_append_of_unsigned {u : Text} (hsign : sign ∈ signs)
    (hu : sign = [] → ∀ c ∈ u.head?, c ≠ '+' ∧ c ≠ '-') : splitSign (sign ++ u) = (sign, u) := by
  rcases mem_signs.1 hsign with rfl | rfl | rfl
  · exact splitSign_append hsign (hu rfl)
  · rfl
  · rfl

namespace Parting

theorem trimLeft_eq (h : Parting t w sign ds r) : trimLeft t = sign ++ (ds ++ r) := by
  rw [← h.append, trimLeft_append_of_blank h.blank, trimLeft_eq_self h.unblank]

theorem splitSign_eq (h : Parting t w sign ds r) :
    splitSign (sign ++ (ds ++ r)) = (sign, ds ++ r) :=
  splitSign_append_of_unsigned h.sign_mem h.unsigned

theorem leadingDigits_eq (h : Parting t w sign ds r) : leadingDigits t = (sign, ds) := by
  rw [leadingDigits, h.trimLeft_eq, h.splitSign_eq]
  exact congrArg _ (takeWhile_append_of_head? h.digits_mem h.stop).1

theorem takeWhile_isBlank (h : Parting t w sign ds r) : t.takeWhile isBlank = w := by
  rw [← h.append]
  exact (takeWhile_append_of_stop h.blank h.unblank).1

/-- There is only one way to part a text. -/
theorem unique {w' sign' ds' r' : Text} (h : Parting t w sign ds r)
    (h' : Parting t w' sign' ds' r') : w' = w ∧ sign' = sign ∧ ds' = ds ∧ r' = r := by
  obtain rfl : w' = w := h'.takeWhile_isBlank.symm.trans h.takeWhile_isBlank
  obtain ⟨rfl, rfl⟩ := Prod.mk.inj (h'.leadingDigits_eq.symm.trans h.leadingDigits_eq)
  have happend := h'.append.trans h.append.symm
  rw [List.append_cancel_left_eq, List.append_cancel_left_eq, List.append_cancel_left_eq] at happend
  exact ⟨rfl, rfl, rfl, happend⟩

end Parting

/-! ### The value of digits -/

/-- The digits that code points stand for. -/
def digitValues (ds : Text) : List Nat := ds.map fun c => (digit? c).getD 0

theorem ofDigits_eq (ds : Text) : ofDigits ds = Nat.ofDigits 10 (digitValues ds).reverse := by
  rw [ofDigits, digitValues, Nat.ofDigits_eq_foldr, List.foldr_reverse, List.foldl_map]
  congr 1
  funext n c
  exact Nat.add_comm _ _

theorem Parting.leadingInteger_eq (h : Parting t w sign ds r) : leadingInteger t =
    if ds = [] then .ok none
    else if ds.length ≤ digitLimit then
      .ok (some (withSign sign (Nat.ofDigits 10 (digitValues ds).reverse)))
    else .error ds.length := by
  rw [leadingInteger, h.leadingDigits_eq, ← ofDigits_eq]
  simp only [← Nat.not_le, ite_not]

/-! ### Trimming -/

theorem isDigit_of_isBlank {c : Char} (hc : isBlank c = true) : isDigit c = false :=
  Bool.eq_false_iff.2 fun hdigit => by rw [isBlank_of_isDigit hdigit] at hc; cases hc

theorem not_sign_of_isBlank {c : Char} (hc : isBlank c = true) : c ≠ '+' ∧ c ≠ '-' := by
  constructor <;>
  · rintro rfl
    cases hc

theorem splitSign_append_blank {v : Text} (hv : ∀ c ∈ v, isBlank c = true) (u : Text) :
    splitSign (u ++ v) = ((splitSign u).1, (splitSign u).2 ++ v) := by
  obtain ⟨happend, hsign⟩ := splitSign_spec u
  have hunsigned : (splitSign u).1 = [] →
      ∀ c ∈ ((splitSign u).2 ++ v).head?, c ≠ '+' ∧ c ≠ '-' := by
    intro hnone
    rw [hnone, List.nil_append] at happend
    rw [happend]
    exact forall_mem_head?_append (splitSign_fst_eq_nil hnone) fun c hc =>
      not_sign_of_isBlank (hv c hc)
  have hsplit := splitSign_append_of_unsigned hsign hunsigned
  rwa [← List.append_assoc, happend] at hsplit

theorem takeWhile_isDigit_append_blank {v : Text} (hv : ∀ c ∈ v, isBlank c = true) (u : Text) :
    (u ++ v).takeWhile isDigit = u.takeWhile isDigit := by
  have hstop : ∀ c ∈ (u.dropWhile isDigit ++ v).head?, isDigit c = false :=
    forall_mem_head?_append (fun c => of_mem_head?_dropWhile) fun c hc =>
      isDigit_of_isBlank (hv c hc)
  have htake := (takeWhile_append_of_head? (takeWhile_mem_digits u) hstop).1
  rwa [← List.append_assoc, List.takeWhile_append_dropWhile] at htake

theorem leadingDigits_trim (t : Text) : leadingDigits (trim t) = leadingDigits t := by
  obtain ⟨v, hv, htrim⟩ := exists_trimLeft_eq t
  rw [leadingDigits, leadingDigits, trimLeft_trim, htrim]
  simp only [splitSign_append_blank hv, takeWhile_isDigit_append_blank hv]

theorem leadingInteger_trim (t : Text) : leadingInteger (trim t) = leadingInteger t := by
  rw [leadingInteger, leadingInteger, leadingDigits_trim]

/-! ### The expression for a leading integer -/

open Expression

variable {s : Array Char} {i : Nat} {c : Captures}

/-- Digits with or without a sign. -/
def signedForm : Expression :=
  .sequence (.repeated 0 (some 1) true (.set (.ofChars ['+', '-'])))
    (.repeated 1 none true (.set .digits))

/-- Integers behind blanks, as read from `/\s*([+-]?\d+)/y`. -/
def leadingForm : Pattern :=
  ⟨⟨.sequence (.repeated 0 none true (.set .blanks)) (.group 1 signedForm), 1⟩, false, true, false,
    false⟩

theorem read_leadingForm (names : CharacterNames) :
    Pattern.read names "/\\s*([+-]?\\d+)/y" = .ok leadingForm := rfl

theorem run_digits (g : Nat → Captures → Nat × Captures) (h : s.toList.drop i = r) :
    run s (.repeated 1 none true (.set .digits)) i c (fun j d => some (g j d)) =
      if r.takeWhile isDigit = [] then none else some (g (i + (r.takeWhile isDigit).length) c) := by
  have hset : CharSet.digits.contains = isDigit := funext CharSet.contains_digits
  exact run_needed_set none .digits g h (by rw [hset, Option.elim_none])

theorem contains_signs (x : Char) :
    (CharSet.ofChars ['+', '-']).contains x = decide (x = '+' ∨ x = '-') := by
  rw [CharSet.contains_ofChars, Bool.eq_iff_iff, List.contains_iff_mem, decide_eq_true_iff]
  simp

/-- A sign is taken when there is one, as without it no digits follow. -/
theorem run_signedForm (g : Nat → Captures → Nat × Captures) (h : s.toList.drop i = r)
    (hr : splitSign r = (sign, t)) :
    run s signedForm i c (fun j d => some (g j d)) =
      if t.takeWhile isDigit = [] then none
      else some (g (i + sign.length + (t.takeWhile isDigit).length) c) := by
  have hhere := run_digits (c := c) g h
  rw [signedForm, run, run_greedy 0 (some 1) _ h, Option.elim_some]
  cases r with
  | nil =>
    cases hr
    exact hhere
  | cons x r =>
    have hnext := run_digits (c := c) g (drop_succ_of_drop_eq_cons h)
    rw [List.take_succ_cons, List.take_zero, List.takeWhile_cons, contains_signs]
    by_cases hx : x = '+' ∨ x = '-'
    · have hsplit : splitSign (x :: r) = ([x], r) := by
        rcases hx with rfl | rfl <;> rfl
      have hnone : (x :: r).takeWhile isDigit = [] := by
        rcases hx with rfl | rfl <;> rfl
      cases hsplit.symm.trans hr
      rw [hnone, if_pos rfl] at hhere
      rw [if_pos (decide_eq_true hx), List.takeWhile_nil, List.length_singleton, fromLongest,
        if_neg (by omega), hnext, fromLongest, if_pos rfl, hhere]
      by_cases hdigits : t.takeWhile isDigit = []
      · rw [if_pos hdigits]
      · rw [if_neg hdigits]
    · have hsplit : splitSign (x :: r) = ([], x :: r) := by
        refine splitSign_append (s := []) (.inl rfl) fun y hy => ?_
        cases hy
        exact not_or.1 hx
      cases hsplit.symm.trans hr
      rw [if_neg (by simpa using hx), List.length_nil, fromLongest, if_pos rfl]
      exact hhere

namespace Parting

/-- No integer starts with one of the blanks. -/
theorem run_at_blank (h : Parting t w sign ds r) (g : Nat → Captures → Nat × Captures)
    (hi : i < w.length) : run t.toArray signedForm i c (fun j d => some (g j d)) = none := by
  obtain ⟨x, v, hdrop⟩ : ∃ x v, w.drop i = x :: v := by
    refine List.exists_cons_of_ne_nil ?_
    rw [Ne, List.drop_eq_nil_iff]
    omega
  have hx : isBlank x = true := h.blank x (List.mem_of_mem_drop (hdrop ▸ List.mem_cons_self))
  have hrest : t.toArray.toList.drop i = x :: (v ++ (sign ++ (ds ++ r))) := by
    rw [← h.append, List.drop_append_of_le_length (Nat.le_of_lt hi), hdrop]
    rfl
  have hunsigned : splitSign (x :: (v ++ (sign ++ (ds ++ r)))) =
      ([], x :: (v ++ (sign ++ (ds ++ r)))) := by
    refine splitSign_append (s := []) (.inl rfl) fun y hy => ?_
    cases hy
    exact not_sign_of_isBlank hx
  rw [run_signedForm g hrest hunsigned, List.takeWhile_cons_of_neg, if_pos rfl]
  rw [isDigit_of_isBlank hx]
  exact Bool.false_ne_true

theorem run_behind_blanks (h : Parting t w sign ds r) (g : Nat → Captures → Nat × Captures) :
    run t.toArray signedForm w.length c (fun j d => some (g j d)) =
      if ds = [] then none else some (g (w.length + sign.length + ds.length) c) := by
  have hrest : t.toArray.toList.drop w.length = sign ++ (ds ++ r) := by
    rw [← h.append]
    exact List.drop_left
  rw [run_signedForm g hrest h.splitSign_eq, (takeWhile_append_of_head? h.digits_mem h.stop).1]

/-- All the blanks are taken, and then sign and digits. -/
theorem matchAt_leadingForm (h : Parting t w sign ds r) :
    leadingForm.compiled.matchAt t.toArray 0 =
      if ds = [] then none
      else some ⟨⟨0, w.length + sign.length + ds.length⟩,
        [some ⟨w.length, w.length + sign.length + ds.length⟩]⟩ := by
  have hset : CharSet.blanks.contains = isBlank := funext CharSet.contains_blanks
  have hmatch : leadingForm.compiled.matchAt t.toArray 0 =
      (run t.toArray (.repeated 0 none true (.set .blanks)) 0 [] fun j d =>
        run t.toArray signedForm j d fun j' d' => some (j', (1, ⟨j, j'⟩) :: d')).map fun p =>
          ⟨⟨0, p.1⟩, (List.range 1).map fun n => p.2.lookup (n + 1)⟩ := rfl
  have hstart : t.toArray.toList.drop 0 = t := rfl
  rw [hmatch, run_greedy 0 none .blanks hstart, hset, Option.elim_none, h.takeWhile_isBlank]
  have hlast := h.run_behind_blanks (c := []) fun j d => (j, (1, ⟨w.length, j⟩) :: d)
  by_cases hds : ds = []
  · rw [if_pos hds] at hlast ⊢
    rw [fromLongest_eq_none_iff.2, Option.map_none]
    intro j _ hj
    rw [Nat.zero_add]
    rcases Nat.lt_or_eq_of_le hj with hlt | rfl
    · exact h.run_at_blank _ hlt
    · exact hlast
  · rw [if_neg hds] at hlast ⊢
    rw [← Nat.zero_add w.length] at hlast
    rw [fromLongest_eq_of_last (Nat.zero_le _) (Nat.le_refl w.length) hlast
      fun j hj hjn => by omega]
    simp only [Nat.zero_add]
    rfl

/-- What the expression matches is the blanks with sign and digits, and its group these without. -/
theorem match?_leadingForm (h : Parting t w sign ds r) :
    leadingForm.match? t =
      if ds = [] then none else some [some (w ++ (sign ++ ds)), some (sign ++ ds)] := by
  have hoccurrences := Pattern.occurrences_of_sticky (p := leadingForm) t.toArray rfl rfl
  rw [h.matchAt_leadingForm] at hoccurrences
  by_cases hds : ds = []
  · rw [if_pos hds] at hoccurrences ⊢
    rw [Pattern.match?_eq_none_iff, Pattern.matched, hoccurrences]
    rfl
  · rw [if_neg hds] at hoccurrences ⊢
    have hwhole : Pattern.textOf t.toArray ⟨0, w.length + sign.length + ds.length⟩ =
        w ++ (sign ++ ds) := by
      have hprefix : w ++ (sign ++ ds) <+: t.toArray.toList.drop 0 := ⟨r, by simp [← h.append]⟩
      rw [← Pattern.slice_of_prefix hprefix]
      simp [Pattern.textOf, Nat.add_assoc]
    have hgroup : Pattern.textOf t.toArray ⟨w.length, w.length + sign.length + ds.length⟩ =
        sign ++ ds := by
      have hprefix : sign ++ ds <+: t.toArray.toList.drop w.length := ⟨r, by simp [← h.append]⟩
      rw [← Pattern.slice_of_prefix hprefix]
      simp [Pattern.textOf, Nat.add_assoc]
    rw [Pattern.match?_of_cons hoccurrences, ← hwhole, ← hgroup]
    rfl

end Parting

end Number

end Harvest
