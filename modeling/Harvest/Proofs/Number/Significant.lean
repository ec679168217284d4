import Harvest.Proofs.Number.Range
import Mathlib.Algebra.Order.Ring.Int

/-!
# Fifty-three binary places

A float has room for 53 binary places. An integer with more of them is rounded to a multiple of the
power of two that the others stand for, an exact tie going to the even multiple.
-/

namespace Harvest.Number

/-- How many of the binary places of a number there is no room for. -/
def excess (n : Nat) : Nat := n.log2 - 52

def significantNat (n : Nat) : Nat := roundQuotient n (2 ^ excess n) * 2 ^ excess n

/-- The integer rounded to 53 binary places. -/
def significant (n : Int) : Int := n.sign * significantNat n.natAbs

variable {q r den n m d j : Nat}

theorem roundQuotient_add (hr : r < den) : roundQuotient (q * den + r) den =
    if 2 * r < den then q else if den < 2 * r then q + 1 else if q % 2 = 0 then q else q + 1 := by
  have hquotient : (q * den + r) / den = q := by
    rw [Nat.add_comm, Nat.add_mul_div_right _ _ (by omega), Nat.div_eq_of_lt hr, Nat.zero_add]
  have hremainder : (q * den + r) % den = r := by
    rw [Nat.add_comm, Nat.add_mul_mod_self_right, Nat.mod_eq_of_lt hr]
  simp only [roundQuotient, hquotient, hremainder]

theorem roundQuotient_mul (hden : 0 < den) : roundQuotient (q * den) den = q := by
  have h := @roundQuotient_add q 0 den hden
  rwa [Nat.add_zero, if_pos (by omega)] at h

theorem significantNat_of_dvd (h : 2 ^ excess n ∣ n) : significantNat n = n := by
  obtain ⟨q, hq⟩ := h
  have hround : roundQuotient n (2 ^ excess n) = q := by
    conv => lhs; arg 1; rw [hq, Nat.mul_comm]
    exact roundQuotient_mul (Nat.two_pow_pos _)
  rw [significantNat, hround, Nat.mul_comm, ← hq]

theorem log2_eq_of_range (hlow : 2 ^ (52 + d) ≤ n) (hhigh : n < 2 ^ (53 + d)) :
    n.log2 = 52 + d := by
  have hn : n ≠ 0 := by
    have := Nat.two_pow_pos (52 + d)
    omega
  rw [Nat.log2_eq_iff hn]
  exact ⟨hlow, by rwa [Nat.add_right_comm]⟩

theorem log2_mul_two_pow (hn : n ≠ 0) (j : Nat) : (n * 2 ^ j).log2 = n.log2 + j := by
  have hpos : 0 < 2 ^ j := Nat.two_pow_pos j
  rw [Nat.log2_eq_iff (Nat.mul_ne_zero hn (by omega)), Nat.add_right_comm, Nat.pow_add, Nat.pow_add]
  exact ⟨Nat.mul_le_mul_right _ (Nat.log2_self_le hn),
    Nat.mul_lt_mul_of_pos_right Nat.lt_log2_self hpos⟩

theorem significantNat_of_range (hlow : 2 ^ (52 + d) ≤ n) (hhigh : n < 2 ^ (53 + d)) :
    significantNat n = roundQuotient n (2 ^ d) * 2 ^ d := by
  have hexcess : excess n = d := by
    rw [excess, log2_eq_of_range hlow hhigh, Nat.add_sub_cancel_left]
  rw [significantNat, hexcess]

/-- Rounding does not pass a multiple of the unit in which it is done. -/
theorem le_significantNat {c : Nat} (hc : 2 ^ excess n ∣ c) (h : c ≤ n) : c ≤ significantNat n := by
  obtain ⟨a, rfl⟩ := hc
  rw [Nat.mul_comm] at h
  rw [significantNat, Nat.mul_comm]
  exact Nat.mul_le_mul_right _ (le_roundQuotient (Nat.two_pow_pos _) h)

theorem significantNat_le {c : Nat} (hc : 2 ^ excess n ∣ c) (h : n ≤ c) : significantNat n ≤ c := by
  obtain ⟨a, rfl⟩ := hc
  rw [Nat.mul_comm] at h
  rw [significantNat, Nat.mul_comm (2 ^ excess n) a]
  exact Nat.mul_le_mul_right _ (roundQuotient_le (Nat.two_pow_pos _) h)

theorem significantNat_le_two_pow {k : Nat} (h : n ≤ 2 ^ k) : significantNat n ≤ 2 ^ k := by
  refine significantNat_le (Nat.pow_dvd_pow 2 ?_) h
  rcases Nat.eq_zero_or_pos n with rfl | hpos
  · exact Nat.zero_le k
  · have hlog : n.log2 < k + 1 := (Nat.log2_lt (by omega)).2 (by rw [Nat.pow_succ]; omega)
    rw [excess]
    omega

/-- Numbers of 53 binary places in front of zeros are kept. -/
theorem significantNat_mul_two_pow (hm : m ≤ 2 ^ 53) (j : Nat) :
    significantNat (m * 2 ^ j) = m * 2 ^ j := by
  have hdvd : ∀ {m j : Nat}, m < 2 ^ 53 → 2 ^ excess (m * 2 ^ j) ∣ m * 2 ^ j := by
    intro m j hm
    rcases Nat.eq_zero_or_pos m with rfl | hpos
    · rw [Nat.zero_mul]
      exact Nat.dvd_zero _
    · have hlog : m.log2 ≤ 52 := by
        have := (Nat.log2_lt (by omega)).2 hm
        omega
      have hexcess : excess (m * 2 ^ j) ≤ j := by
        rw [excess, log2_mul_two_pow (by omega)]
        omega
      exact Nat.dvd_mul_left_of_dvd (Nat.pow_dvd_pow 2 hexcess) m
  apply significantNat_of_dvd
  rcases Nat.lt_or_eq_of_le hm with hlt | rfl
  · exact hdvd hlt
  · have hshift : 2 ^ 53 * 2 ^ j = 2 ^ 52 * 2 ^ (j + 1) := by
      rw [← Nat.pow_add, ← Nat.pow_add, Nat.add_comm j 1, ← Nat.add_assoc]
    rw [hshift]
    exact hdvd (by decide)

theorem significantNat_of_le (hm : m ≤ 2 ^ 53) : significantNat m = m := by
  have h := significantNat_mul_two_pow hm 0
  rwa [Nat.pow_zero, Nat.mul_one] at h

theorem significant_natCast (n : Nat) : significant n = significantNat n := by
  rw [significant, Int.natAbs_natCast]
  rcases Nat.eq_zero_or_pos n with rfl | hpos
  · rfl
  · rw [Int.sign_natCast_of_ne_zero (by omega), Int.one_mul]

theorem significant_neg (n : Int) : significant (-n) = -significant n := by
  rw [significant, significant, Int.sign_neg, Int.natAbs_neg, Int.neg_mul]

theorem significant_mul_two_pow {b : Int} (hb : b.natAbs ≤ 2 ^ 53) (j : Nat) :
    significant (b * 2 ^ j) = b * 2 ^ j := by
  have hpower : (2 ^ j : Int) = (2 ^ j : Nat) := (Int.natCast_pow 2 j).symm
  obtain ⟨n, rfl | rfl⟩ := b.eq_nat_or_neg
  · rw [Int.natAbs_natCast] at hb
    rw [hpower, ← Int.natCast_mul, significant_natCast, significantNat_mul_two_pow hb]
  · rw [Int.natAbs_neg, Int.natAbs_natCast] at hb
    rw [hpower, Int.neg_mul, significant_neg, ← Int.natCast_mul, significant_natCast,
      significantNat_mul_two_pow hb]

theorem significant_of_natAbs_le {b : Int} (hb : b.natAbs ≤ 2 ^ 53) : significant b = b := by
  have h := significant_mul_two_pow hb 0
  rwa [pow_zero, Int.mul_one] at h

/-! ### Signs -/

def signedBy (negative : Bool) (m : Nat) : Int := if negative then -(m : Int) else m

@[simp] theorem signedBy_false (m : Nat) : signedBy false m = m :=
  if_neg Bool.false_ne_true

@[simp] theorem signedBy_true (m : Nat) : signedBy true m = -(m : Int) := if_pos rfl

theorem signedBy_mul_two_pow (negative : Bool) (m d : Nat) :
    signedBy negative (m * 2 ^ d) = signedBy negative m * 2 ^ d := by
  have hcast : ((m * 2 ^ d : Nat) : Int) = m * 2 ^ d := by push_cast; rfl
  cases negative with
  | false => exact hcast
  | true => exact (congrArg (-·) hcast).trans (Int.neg_mul ..).symm

theorem natAbs_signedBy (negative : Bool) (m : Nat) : (signedBy negative m).natAbs = m := by
  cases negative with
  | false => exact Int.natAbs_natCast m
  | true => exact (Int.natAbs_neg _).trans (Int.natAbs_natCast m)

theorem signedBy_natAbs (z : Int) : signedBy (decide (z < 0)) z.natAbs = z := by
  by_cases hneg : z < 0
  · rw [decide_eq_true hneg, signedBy_true]
    omega
  · rw [decide_eq_false hneg, signedBy_false]
    omega

theorem exists_signedBy (z : Int) : ∃ negative, z = signedBy negative z.natAbs :=
  ⟨_, (signedBy_natAbs z).symm⟩

theorem significant_signedBy (negative : Bool) (n : Nat) :
    significant (signedBy negative n) = signedBy negative (significantNat n) := by
  cases negative with
  | false => exact significant_natCast n
  | true => exact (significant_neg n).trans (congrArg (-·) (significant_natCast n))

end Harvest.Number
