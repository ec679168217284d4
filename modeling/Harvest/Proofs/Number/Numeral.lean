import Harvest.Proofs.Number.Written

/-!
# Numerals

An integer can be written with a plus sign, with zeros in front and with the digits of any script.
Whatever numeral it is written with, it is read back from it, as a whole text between blanks as well
as at the start of a text. The usual text of an integer is one of its numerals.
-/

namespace Harvest.Number

open Harvest.Text

/-- The texts that write an integer: digits with or without a sign, not more of them than are
read. -/
inductive Numeral : Int → Text → Prop
  | signed {sign ds : Text} (hsign : sign ∈ signs) (hds : ds ∈ someDigits)
      (hlength : ds.length ≤ digitLimit) : Numeral (withSign sign (ofDigits ds)) (sign ++ ds)

variable {n : Int} {t w v : Text}

theorem Numeral.mem_decimals (h : Numeral n t) : t ∈ decimals := by
  cases h with
  | signed hsign hds =>
    exact Language.append_mem_mul hsign (.inr (mem_of_mem_mantissas (mem_mantissas.2 (.inl hds))))

theorem Numeral.ne_nil (h : Numeral n t) : t ≠ [] := by
  cases h with
  | signed hsign hds => exact List.append_ne_nil_of_right_ne_nil _ hds.2

theorem Numeral.separator_not_mem (h : Numeral n t) : ':' ∉ t := by
  intro hc
  rcases isDigit_or_mem_decimalSymbols h.mem_decimals ':' hc with hdigit | hsymbol
  · cases hdigit
  · revert hsymbol
    decide

/-! ### The usual text -/

theorem withSign_natAbs (n : Int) :
    withSign (if decide (n < 0) then ['-'] else []) n.natAbs = n := by
  by_cases hneg : n < 0
  · rw [decide_eq_true hneg, if_pos rfl, withSign, if_pos (by rfl)]
    omega
  · rw [decide_eq_false hneg, if_neg nofun, withSign, if_neg (by decide)]
    omega

theorem intText?_of_lt (hn : n.natAbs < 10 ^ digitLimit) :
    intText? n = some (signed (decide (n < 0)) (decimalDigits n.natAbs)) := by
  have hlength : (decimalDigits n.natAbs).length ≤ digitLimit :=
    (Nat.length_toDigits_le_iff (by decide) (by decide)).2 hn
  rw [intText?, if_pos hlength]

theorem numeral_signed (hn : n.natAbs < 10 ^ digitLimit) :
    Numeral n (signed (decide (n < 0)) (decimalDigits n.natAbs)) := by
  have hlength : (decimalDigits n.natAbs).length ≤ digitLimit :=
    (Nat.length_toDigits_le_iff (by decide) (by decide)).2 hn
  have hnumeral := Numeral.signed (ite_mem_signs (decide (n < 0)))
    (decimalDigits_mem_someDigits n.natAbs) hlength
  rwa [ofDigits_decimalDigits, withSign_natAbs, ← signed_eq] at hnumeral

/-! ### At the start of a text -/

/-- Trimming on the left takes the blanks before a text that has none. -/
theorem trimLeft_append_append (hw : ∀ c ∈ w, isBlank c = true) (ht : ∀ c ∈ t, isBlank c = false)
    (hne : t ≠ []) (v : Text) : trimLeft (w ++ t ++ v) = t ++ v := by
  rw [List.append_assoc, trimLeft_append_of_blank hw, trimLeft_eq_self]
  intro c hc
  rw [List.head?_append_of_ne_nil _ hne] at hc
  exact ht c (List.mem_of_mem_head? hc)

/-- A sign and digits are found after blanks, up to the first other code point. -/
theorem leadingDigits_append {sign ds s : Text} (hw : ∀ c ∈ w, isBlank c = true)
    (hsign : sign ∈ signs) (hds : ds ∈ someDigits) (hs : ∀ c ∈ s.head?, isDigit c = false) :
    leadingDigits (w ++ (sign ++ ds) ++ s) = (sign, ds) := by
  have hmem : sign ++ ds ∈ decimals :=
    Language.append_mem_mul hsign (.inr (mem_of_mem_mantissas (mem_mantissas.2 (.inl hds))))
  have hne : sign ++ ds ≠ [] := List.append_ne_nil_of_right_ne_nil sign hds.2
  rw [leadingDigits, trimLeft_append_append hw (isBlank_of_mem_decimals hmem) hne,
    List.append_assoc]
  simp only [splitSign_append_digits hsign hds s, (takeWhile_append_of_head? hds.1 hs).1]

theorem Numeral.leadingInteger_append {s : Text} (h : Numeral n t)
    (hw : ∀ c ∈ w, isBlank c = true) (hs : ∀ c ∈ s.head?, isDigit c = false) :
    leadingInteger (w ++ t ++ s) = .ok (some n) := by
  cases h with
  | signed hsign hds hlength =>
    rw [leadingInteger, leadingDigits_append hw hsign hds hs]
    simp only [if_neg hds.2, if_neg (Nat.not_lt.2 hlength)]

theorem leadingInteger_append (hn : n.natAbs < 10 ^ digitLimit) {s : Text}
    (hw : ∀ c ∈ w, isBlank c = true) (hs : ∀ c ∈ s.head?, isDigit c = false) :
    leadingInteger (w ++ signed (decide (n < 0)) (decimalDigits n.natAbs) ++ s) =
      .ok (some n) :=
  (numeral_signed hn).leadingInteger_append hw hs

/-! ### As a whole text -/

/-- Blanks around a text without blanks are all that trimming takes. -/
theorem trim_append_of_blank (hw : ∀ c ∈ w, isBlank c = true) (hv : ∀ c ∈ v, isBlank c = true)
    (ht : ∀ c ∈ t, isBlank c = false) (hne : t ≠ []) : trim (w ++ t ++ v) = t := by
  have hv' : ∀ c ∈ v.reverse, isBlank c = true := fun c hc => hv c (List.mem_reverse.1 hc)
  have hright : t.reverse.dropWhile isBlank = t.reverse :=
    trimLeft_eq_self fun c hc => ht c (List.mem_reverse.1 (List.mem_of_mem_head? hc))
  rw [trim, trimLeft_append_append hw ht hne, trimRight, List.reverse_append,
    List.dropWhile_append_of_pos hv', hright, List.reverse_reverse]

theorem Numeral.integer?_append (h : Numeral n t) (hw : ∀ c ∈ w, isBlank c = true)
    (hv : ∀ c ∈ v, isBlank c = true) : integer? (w ++ t ++ v) = some n := by
  rw [integer?, trim_append_of_blank hw hv (isBlank_of_mem_decimals h.mem_decimals) h.ne_nil,
    ungroup?_of_not_mem (not_mem_of_mem_decimals h.mem_decimals), Option.bind_some]
  cases h with
  | @signed sign ds hsign hds hlength =>
    have hsplit : splitSign (sign ++ ds) = (sign, ds) := by
      have hsplit := splitSign_append_digits hsign hds []
      rwa [List.append_nil] at hsplit
    simp only [hsplit]
    rw [if_pos ⟨hds.2, List.all_eq_true.2 hds.1, hlength⟩]

/-! ### Between blanks -/

/-- A numeral, and any blanks around it. -/
inductive Spaced (n : Int) : Text → Prop
  | between {w t v : Text} (hw : ∀ c ∈ w, isBlank c = true) (ht : Numeral n t)
      (hv : ∀ c ∈ v, isBlank c = true) : Spaced n (w ++ t ++ v)

theorem Numeral.spaced (h : Numeral n t) : Spaced n t := by
  have hspaced := Spaced.between (w := []) (v := []) nofun h nofun
  rwa [List.nil_append, List.append_nil] at hspaced

namespace Spaced

theorem integer?_eq (h : Spaced n t) : integer? t = some n := by
  cases h with
  | between hw ht hv => exact ht.integer?_append hw hv

theorem leadingInteger_eq (h : Spaced n t) : leadingInteger t = .ok (some n) := by
  cases h with
  | between hw ht hv =>
    refine ht.leadingInteger_append hw fun c hc => ?_
    by_contra hdigit
    have hblank := hv c (List.mem_of_mem_head? hc)
    rw [isBlank_of_isDigit (Bool.eq_true_of_not_eq_false hdigit)] at hblank
    cases hblank

theorem ne_nil (h : Spaced n t) : t ≠ [] := by
  cases h with
  | @between w t v _ ht =>
    have hne : w ++ t ≠ [] := List.append_ne_nil_of_right_ne_nil w ht.ne_nil
    exact List.append_ne_nil_of_left_ne_nil hne v

theorem separator_not_mem (h : Spaced n t) : ':' ∉ t := by
  cases h with
  | between hw ht hv =>
    intro hc
    rcases List.mem_append.1 hc with hc | hc
    · rcases List.mem_append.1 hc with hc | hc
      · cases hw ':' hc
      · exact ht.separator_not_mem hc
    · cases hv ':' hc

end Spaced

end Harvest.Number
