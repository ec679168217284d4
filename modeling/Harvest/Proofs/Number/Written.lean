import Harvest.Proofs.Number.Leading
import Harvest.Value.Written

/-!
# Written numbers are decimals

Whatever digits and place a float is written with, in positional form or with an exponent, the text
is one decimal, and so is the text of an integer.
-/

namespace Harvest.Number

open Harvest.Text

variable {t : Text}

theorem decimalDigits_mem_someDigits (n : Nat) : decimalDigits n ∈ someDigits :=
  ⟨fun _ hc => isDigit_of_mem_decimalDigits hc, Nat.toDigits_ne_nil⟩

theorem replicate_mem_digits (n : Nat) : List.replicate n '0' ∈ digits := by
  intro c hc
  rw [List.eq_of_mem_replicate hc]
  rfl

theorem exponentText_mem_exponents (k : Int) : exponentText k ∈ exponents := by
  obtain ⟨hdigits, hne⟩ := decimalDigits_mem_someDigits k.natAbs
  have hpadded : (if (decimalDigits k.natAbs).length < 2 then '0' :: decimalDigits k.natAbs
      else decimalDigits k.natAbs) ∈ someDigits := by
    split
    · exact ⟨List.forall_mem_cons.2 ⟨rfl, hdigits⟩, nofun⟩
    · exact ⟨hdigits, hne⟩
  have hsign : [if k < 0 then '-' else '+'] ∈ signs := by
    rw [mem_signs]
    split
    · exact .inr (.inr rfl)
    · exact .inr (.inl rfl)
  exact mem_exponents.2 (.inr ⟨'e', .inl rfl, _, hsign, _, hpadded, rfl⟩)

theorem mem_of_mem_mantissas (ht : t ∈ mantissas) : t ∈ mantissas * exponents :=
  ⟨t, ht, [], mem_exponents.2 (.inl rfl), List.append_nil t⟩

theorem positiveText_mem (d : Nat) (p : Int) : positiveText d p ∈ mantissas * exponents := by
  obtain ⟨hdigits, hne⟩ := decimalDigits_mem_someDigits d
  simp only [positiveText]
  generalize decimalDigits d = ds at hdigits hne
  generalize p + ds.length - 1 = k
  by_cases hexponent : k < -4 ∨ 16 ≤ k
  · rw [if_pos hexponent]
    have hmem := exponentText_mem_exponents k
    rcases ds with - | ⟨c, - | ⟨c', r⟩⟩
    · exact absurd rfl hne
    · exact ⟨[c], mem_mantissas.2 (.inl ⟨hdigits, hne⟩), _, hmem, rfl⟩
    · obtain ⟨hc, hr⟩ := List.forall_mem_cons.1 hdigits
      have hmantissa : c :: '.' :: c' :: r ∈ mantissas :=
        mem_mantissas.2 (.inr ⟨[c], List.forall_mem_singleton.2 hc, _, hr, rfl, .inl nofun⟩)
      exact ⟨_, hmantissa, _, hmem, rfl⟩
  · rw [if_neg hexponent]
    apply mem_of_mem_mantissas
    rw [mem_mantissas]
    refine .inr ?_
    split_ifs with hintegral hplace
    · refine ⟨_, append_mem_digits hdigits (replicate_mem_digits _), ['0'],
        List.forall_mem_singleton.2 rfl, rfl, .inr nofun⟩
    · refine ⟨_, fun c hc => hdigits c (List.mem_of_mem_take hc), _,
        fun c hc => hdigits c (List.mem_of_mem_drop hc), rfl, .inl ?_⟩
      rw [Ne, List.take_eq_nil_iff, not_or]
      exact ⟨by omega, hne⟩
    · exact ⟨['0'], List.forall_mem_singleton.2 rfl, _,
        append_mem_digits (replicate_mem_digits _) hdigits, rfl, .inl nofun⟩

theorem signed_eq (negative : Bool) (t : Text) :
    signed negative t = (if negative then ['-'] else []) ++ t := by
  cases negative <;> rfl

theorem ite_mem_signs (negative : Bool) : (if negative then ['-'] else [] : Text) ∈ signs := by
  cases negative
  · exact .inl rfl
  · exact .inr (.inr rfl)

theorem signed_mem_decimals (negative : Bool)
    (ht : t ∈ ({infinityWord} + mantissas * exponents : Language Char)) :
    signed negative t ∈ decimals := by
  rw [signed_eq]
  exact Language.append_mem_mul (ite_mem_signs negative) ht

theorem signed_decimalDigits_mem (negative : Bool) (n : Nat) :
    signed negative (decimalDigits n) ∈ decimals :=
  signed_mem_decimals negative
    (.inr (mem_of_mem_mantissas (mem_mantissas.2 (.inl (decimalDigits_mem_someDigits n)))))

theorem floatText_mem_decimals {x : Float} (hx : isFinite x = true) : floatText x ∈ decimals := by
  have hzero : "0.0".toList ∈ mantissas :=
    mem_mantissas.2 (.inr ⟨['0'], replicate_mem_digits 1, ['0'], replicate_mem_digits 1, rfl,
      .inl nofun⟩)
  rw [isFinite] at hx
  unfold floatText
  split
  · rename_i hparts
    rw [hparts] at hx
    cases hx
  · rename_i hparts
    rw [hparts] at hx
    cases hx
  · exact signed_mem_decimals _ (.inr (mem_of_mem_mantissas hzero))
  · exact signed_mem_decimals _ (.inr (positiveText_mem _ _))

theorem floatToText_mem_decimals {x : Float} (hx : parts x ≠ .nan) :
    Value.floatToText x ∈ decimals := by
  unfold Value.floatToText
  split
  · rename_i hparts
    exact absurd hparts hx
  · exact signed_mem_decimals _ (.inl rfl)
  · rename_i hparts
    split
    · exact signed_decimalDigits_mem _ _
    · apply floatText_mem_decimals
      rw [isFinite, hparts]

theorem numberText_of_mem (ht : t ∈ decimals) : numberText t = some t := by
  have hleft : trimLeft t = t :=
    trimLeft_eq_self fun c hc => isBlank_of_mem_decimals ht c (List.mem_of_mem_head? hc)
  rw [numberText_eq_some_iff, hleft]
  exact isLongestPrefix_self ht

end Harvest.Number
