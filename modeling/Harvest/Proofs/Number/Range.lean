import Harvest.Number.Binary64
import Mathlib.Tactic.Ring

/-!
# Integers that no finite float is near to

The largest finite float is `2 ^ 1024 - 2 ^ 971`. Integers are rounded to it up to half a unit,
which is `2 ^ 970`, beyond it. From there on the nearest float is infinite, and an exact tie goes
there as well, because the largest mantissa is odd.
-/

namespace Harvest.Number

/-- The least magnitude that is rounded to infinity. -/
def overflowBound : Nat := 2 ^ 1024 - 2 ^ 970

/-- Rounding reaches the even number above an odd one from half way on. -/
theorem succ_le_roundQuotient_iff {num den k : Nat} (hden : 0 < den) (hk : k % 2 = 1) :
    k + 1 ≤ roundQuotient num den ↔ (2 * k + 1) * den ≤ 2 * num := by
  have hnum : den * (num / den) + num % den = num := Nat.div_add_mod num den
  have hmod : num % den < den := Nat.mod_lt num hden
  have hleft : (2 * k + 1) * den = 2 * (den * k) + den := by
    rw [Nat.add_mul, Nat.one_mul, Nat.mul_assoc, Nat.mul_comm k]
  have hbelow : roundQuotient num den ≤ num / den + 1 := by
    simp only [roundQuotient]
    split_ifs <;> omega
  have habove : num / den ≤ roundQuotient num den := by
    simp only [roundQuotient]
    split_ifs <;> omega
  rcases Nat.lt_trichotomy (num / den) k with hlt | heq | hgt
  · have hmul : den * (num / den + 1) ≤ den * k := Nat.mul_le_mul_left den hlt
    rw [Nat.mul_add, Nat.mul_one] at hmul
    omega
  · rw [heq] at hnum
    simp only [roundQuotient, heq, hk, Nat.one_ne_zero, if_false]
    split_ifs <;> omega
  · have hmul : den * (k + 1) ≤ den * (num / den) := Nat.mul_le_mul_left den hgt
    rw [Nat.mul_add, Nat.mul_one] at hmul
    omega

theorem unitExponent_one {n : Nat} (hn : n ≠ 0) : unitExponent n 1 = (n.log2 : Int) - 52 := by
  have hlow : 2 ^ n.log2 ≤ n := Nat.log2_self_le hn
  have hstart : max (-1074) ((n.log2 : Int) - (Nat.log2 1 : Nat) - 53) = (n.log2 : Int) - 53 := by
    have : Nat.log2 1 = 0 := rfl
    omega
  have hfine : tooFine n 1 ((n.log2 : Int) - 53) = true := by
    by_cases hlarge : 53 ≤ n.log2
    · have hexponent : ((n.log2 : Int) - 53).toNat + 53 = n.log2 := by omega
      rw [tooFine, if_pos (by omega), decide_eq_true_eq, hexponent, Nat.one_mul]
      exact hlow
    · have hexponent : n.log2 + (-((n.log2 : Int) - 53)).toNat = 53 := by omega
      have hscaled := Nat.mul_le_mul_right (2 ^ (-((n.log2 : Int) - 53)).toNat) hlow
      rw [← Nat.pow_add, hexponent] at hscaled
      rw [tooFine, if_neg (by omega), decide_eq_true_eq, Nat.one_mul]
      exact hscaled
  simp only [unitExponent, hstart, hfine, if_true]
  omega

theorem le_roundQuotient {num den k : Nat} (hden : 0 < den) (h : k * den ≤ num) :
    k ≤ roundQuotient num den := by
  have hquotient : k ≤ num / den := (Nat.le_div_iff_mul_le hden).2 h
  simp only [roundQuotient]
  split_ifs <;> omega

theorem roundQuotient_le {num den k : Nat} (hden : 0 < den) (h : num ≤ k * den) :
    roundQuotient num den ≤ k := by
  have hnum : den * (num / den) + num % den = num := Nat.div_add_mod num den
  have hquotient : num / den ≤ k := Nat.div_le_of_le_mul (by rwa [Nat.mul_comm])
  rcases Nat.lt_or_eq_of_le hquotient with hlt | heq
  · simp only [roundQuotient]
    split_ifs <;> omega
  · have hexact : num % den = 0 := by
      rw [heq, Nat.mul_comm] at hnum
      omega
    simp only [roundQuotient, hexact, Nat.mul_zero, hden, if_true, heq, Nat.le_refl]

/-- The mantissa of an integer has 53 binary places, or it is the power of two above them. -/
theorem multipleOf_one_bounds {n : Nat} (hn : n ≠ 0) :
    unit ≤ multipleOf n 1 ((n.log2 : Int) - 52) ∧
      multipleOf n 1 ((n.log2 : Int) - 52) ≤ 2 * unit := by
  have hlow : 2 ^ n.log2 ≤ n := Nat.log2_self_le hn
  have hhigh : n ≤ 2 ^ n.log2 * 2 := Nat.le_of_lt Nat.lt_log2_self
  by_cases hlarge : 52 ≤ n.log2
  · have hexponent : ((n.log2 : Int) - 52).toNat = n.log2 - 52 := by omega
    have hpower : unit * 2 ^ (n.log2 - 52) = 2 ^ n.log2 := by
      rw [unit, ← Nat.pow_add, Nat.add_sub_of_le hlarge]
    rw [multipleOf, if_pos (by omega), hexponent, Nat.one_mul]
    constructor
    · exact le_roundQuotient (Nat.two_pow_pos _) (by omega)
    · exact roundQuotient_le (Nat.two_pow_pos _) (by rw [Nat.mul_assoc]; omega)
  · have hexponent : (-((n.log2 : Int) - 52)).toNat = 52 - n.log2 := by omega
    have hpower : 2 ^ n.log2 * 2 ^ (52 - n.log2) = unit := by
      rw [unit, ← Nat.pow_add, Nat.add_sub_of_le (by omega)]
    have hscaledLow := Nat.mul_le_mul_right (2 ^ (52 - n.log2)) hlow
    have hscaledHigh := Nat.mul_le_mul_right (2 ^ (52 - n.log2)) hhigh
    rw [Nat.mul_right_comm] at hscaledHigh
    rw [multipleOf, if_neg (by omega), hexponent]
    constructor
    · exact le_roundQuotient Nat.one_pos (by omega)
    · exact roundQuotient_le Nat.one_pos (by omega)

theorem nearestBits_one {n : Nat} (hn : n ≠ 0) :
    nearestBits n 1 = min ((n.log2 + 1022) * unit + multipleOf n 1 ((n.log2 : Int) - 52))
      (2047 * unit) := by
  have hexponent : ((n.log2 : Int) - 52 + 1074).toNat = n.log2 + 1022 := by omega
  rw [nearestBits, if_neg hn]
  simp only [unitExponent_one hn, hexponent]

theorem two_unit_le_multipleOf_one_iff {n e : Nat} (hn : n.log2 = 53 + e) :
    2 * unit ≤ multipleOf n 1 ((n.log2 : Int) - 52) ↔ (2 ^ 54 - 1) * 2 ^ e ≤ n := by
  have hexponent : ((n.log2 : Int) - 52).toNat = e + 1 := by omega
  have hhalf := @succ_le_roundQuotient_iff n (2 ^ (e + 1)) (2 ^ 53 - 1) (Nat.two_pow_pos (e + 1))
    (by decide)
  have hdouble : 2 ^ (e + 1) = 2 ^ e * 2 := Nat.pow_succ 2 e
  rw [multipleOf, if_pos (by omega), hexponent, Nat.one_mul]
  have hunit : 2 * unit = 2 ^ 53 - 1 + 1 := by decide
  rw [hunit, hhalf, hdouble]
  omega

/-- Of all integers those from the bound on are too large for a finite float. -/
theorem nearestBits_eq_iff (n : Nat) : nearestBits n 1 = 2047 * unit ↔ overflowBound ≤ n := by
  -- As a variable the exponent keeps powers of this size from being computed.
  obtain ⟨e, he⟩ : ∃ e, e = 970 := ⟨970, rfl⟩
  have hbound : overflowBound = (2 ^ 54 - 1) * 2 ^ e := by
    have hsum : 54 + e = 1024 := by omega
    have hpower : 2 ^ 1024 = 2 ^ 54 * 2 ^ e := by rw [← Nat.pow_add, hsum]
    rw [overflowBound, hpower, Nat.sub_mul, Nat.one_mul, he]
  have hpositive : 0 < 2 ^ e := Nat.two_pow_pos e
  have hunit : 0 < unit := Nat.two_pow_pos 52
  rw [hbound]
  by_cases hn : n = 0
  · subst hn
    rw [nearestBits, if_pos rfl]
    omega
  have hlow : 2 ^ n.log2 ≤ n := Nat.log2_self_le hn
  have hhigh : n < 2 ^ (n.log2 + 1) := Nat.lt_log2_self
  obtain ⟨hleast, hgreatest⟩ := multipleOf_one_bounds hn
  have hbits : nearestBits n 1 = 2047 * unit ↔
      2047 * unit ≤ (n.log2 + 1022) * unit + multipleOf n 1 ((n.log2 : Int) - 52) := by
    rw [nearestBits_one hn]
    omega
  rw [hbits]
  rcases Nat.lt_trichotomy n.log2 (53 + e) with hshort | hlast | hlong
  · have hpower : 2 ^ (n.log2 + 1) ≤ 2 ^ (53 + e) := Nat.pow_le_pow_right (by omega) (by omega)
    have hmul : (n.log2 + 1022) * unit ≤ 2044 * unit := Nat.mul_le_mul_right _ (by omega)
    rw [Nat.pow_add 2 53 e] at hpower
    constructor <;> intro <;> omega
  · have hmul : (n.log2 + 1022) * unit = 2045 * unit := by
      rw [hlast, he]
    rw [← two_unit_le_multipleOf_one_iff hlast]
    omega
  · have hpower : 2 ^ (54 + e) ≤ 2 ^ n.log2 := Nat.pow_le_pow_right (by omega) (by omega)
    have hmul : 2046 * unit ≤ (n.log2 + 1022) * unit := Nat.mul_le_mul_right _ (by omega)
    rw [Nat.pow_add 2 54 e] at hpower
    constructor <;> intro <;> omega

theorem ofInt?_eq_none_iff (n : Int) : ofInt? n = none ↔ overflowBound ≤ n.natAbs := by
  rw [ofInt?, ← nearestBits_eq_iff]
  split <;> simp_all

theorem natAbs_lt_of_ofInt? {n : Int} {x : Float} (h : ofInt? n = some x) :
    ¬ overflowBound ≤ n.natAbs := by
  rw [← ofInt?_eq_none_iff, h]
  exact nofun

end Harvest.Number
