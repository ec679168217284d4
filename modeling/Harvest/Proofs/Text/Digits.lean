import Harvest.Number.Shortest
import Harvest.Text.Blank
import Harvest.Text.Digit
import Mathlib.Data.List.DropRight

/-!
# Digits and blanks

What holds of the ten code points in a row from each zero on holds of every decimal digit, so digits
of all scripts are kept apart from blanks and from letters at once. The digits that a number is
written with are read back as that number.
-/

namespace Harvest.Text

variable {c : Char}

theorem of_isDigit {p : Char → Bool}
    (h : ∀ z ∈ zeros, ∀ i < 10, p (Char.ofNat (z + i)) = true) (hc : isDigit c = true) :
    p c = true := by
  obtain ⟨d, hd⟩ := Option.isSome_iff_exists.1 hc
  obtain ⟨z, hfind, -⟩ := Option.map_eq_some_iff.1 hd
  have hmem : z ∈ zeros := List.mem_of_find?_eq_some hfind
  have hrange := List.find?_some hfind
  simp only [Bool.and_eq_true, decide_eq_true_eq] at hrange
  have hoffset : c = Char.ofNat (z + (c.toNat - z)) := by
    rw [Nat.add_sub_cancel' hrange.1, Char.ofNat_toNat]
  rw [hoffset]
  exact h z hmem _ (by omega)

theorem isBlank_of_isDigit (hc : isDigit c = true) : isBlank c = false := by
  have h := of_isDigit (p := fun c => !isBlank c) (by decide +kernel) hc
  rwa [Bool.not_eq_eq_eq_not, Bool.not_true] at h

/-- Neither the name of infinity nor that of what is no number starts with a digit. -/
theorem toLower_of_isDigit (hc : isDigit c = true) : c.toLower ≠ 'i' ∧ c.toLower ≠ 'n' := by
  have h := of_isDigit (p := fun c => decide (c.toLower ≠ 'i' ∧ c.toLower ≠ 'n'))
    (by decide +kernel) hc
  exact of_decide_eq_true h

/-! ### The digits of a number -/

theorem digit?_of_isDigit (hc : c.isDigit = true) : digit? c = some (c.toNat - '0'.toNat) := by
  obtain ⟨hlow, hhigh⟩ := Char.isDigit_iff_toNat.1 hc
  have hzero : zeros.find? (fun z => decide (z ≤ c.toNat) && decide (c.toNat < z + 10)) =
      some 48 := by
    rw [zeros, List.find?_cons_of_pos]
    rw [Bool.and_eq_true, decide_eq_true_eq, decide_eq_true_eq]
    exact ⟨hlow, Nat.lt_succ_of_le hhigh⟩
  rw [digit?, hzero]
  rfl

theorem isDigit_of_mem_decimalDigits {n : Nat} (hc : c ∈ Number.decimalDigits n) :
    isDigit c = true := by
  rw [isDigit, digit?_of_isDigit (Nat.isDigit_of_mem_toDigits (by decide) (by decide) hc)]
  rfl

theorem ofDigits_decimalDigits (n : Nat) : ofDigits (Number.decimalDigits n) = n := by
  have hread : ofDigits (Number.decimalDigits n) = Nat.ofDigitChars 10 (Nat.toDigits 10 n) 0 := by
    apply List.foldl_ext
    intro value c hc
    rw [digit?_of_isDigit (Nat.isDigit_of_mem_toDigits (by decide) (by decide) hc)]
    rfl
  rw [hread, Nat.ofDigitChars_ten_toDigits]

/-! ### What a text starts with -/

/-- What a property holds of is taken up to the first code point without it. -/
theorem takeWhile_append_of_stop {p : Char → Bool} {a b : Text} (ha : ∀ c ∈ a, p c = true)
    (hb : ∀ c ∈ b.head?, p c = false) : (a ++ b).takeWhile p = a ∧ (a ++ b).dropWhile p = b := by
  have hstop : b.takeWhile p = [] ∧ b.dropWhile p = b := by
    cases b with
    | nil => exact ⟨rfl, rfl⟩
    | cons c r =>
      have hc : ¬ p c = true := Bool.eq_false_iff.1 (hb c rfl)
      exact ⟨List.takeWhile_cons_of_neg hc, List.dropWhile_cons_of_neg hc⟩
  rw [List.takeWhile_append_of_pos ha, List.dropWhile_append_of_pos ha, hstop.1, hstop.2,
    List.append_nil]
  exact ⟨rfl, rfl⟩

theorem of_mem_head?_dropWhile {p : Char → Bool} {t : Text} (hc : c ∈ (t.dropWhile p).head?) :
    p c = false := by
  have hstop := List.head?_dropWhile_not p t
  rw [hc] at hstop
  exact hstop

theorem forall_mem_head?_append {p : Char → Prop} {u v : Text} (hu : ∀ c ∈ u.head?, p c)
    (hv : ∀ c ∈ v, p c) : ∀ c ∈ (u ++ v).head?, p c := by
  cases u with
  | nil => exact fun c hc => hv c (List.mem_of_mem_head? hc)
  | cons x u => exact hu

/-! ### Trimming -/

theorem trimLeft_append_of_blank {w : Text} (hw : ∀ c ∈ w, isBlank c = true) (t : Text) :
    trimLeft (w ++ t) = trimLeft t :=
  List.dropWhile_append_of_pos hw

theorem trimLeft_eq_self {t : Text} (ht : ∀ c ∈ t.head?, isBlank c = false) : trimLeft t = t := by
  cases t with
  | nil => rfl
  | cons c r => exact List.dropWhile_cons_of_neg (Bool.eq_false_iff.1 (ht c rfl))

/-- Trimming takes blanks from the end of what is left once the leading blanks are gone. -/
theorem exists_trimLeft_eq (t : Text) :
    ∃ w : Text, (∀ c ∈ w, isBlank c = true) ∧ trimLeft t = trim t ++ w := by
  refine ⟨(trimLeft t).rtakeWhile isBlank, fun c hc => List.mem_rtakeWhile_imp hc, ?_⟩
  exact (List.rdropWhile_append_rtakeWhile).symm

theorem trimLeft_trim (t : Text) : trimLeft (trim t) = trim t := by
  apply trimLeft_eq_self
  intro c hc
  obtain ⟨w, -, hw⟩ := exists_trimLeft_eq t
  have hhead : (trimLeft t).head? = some c := by
    rw [hw, List.head?_append, hc, Option.some_or]
  exact of_mem_head?_dropWhile hhead

end Harvest.Text
