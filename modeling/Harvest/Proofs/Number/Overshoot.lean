import Harvest.Proofs.Number.Halves

/-!
# Rounding halves up by adding one half

A half is added in 53 binary places, and the floor of the sum is taken. Two kinds of numbers come
out one too high: the greatest number below one half, whose sum is rounded to one, and the odd
integers that have exactly 53 binary places, whose sums are rounded to the next even integer. All
results are even or small enough to be kept when they are rounded again.
-/

namespace Harvest.Number

/-- By how much the result is greater than the number rounded to the nearest integer, halves up. -/
def overshoot (q : ℚ) : Int :=
  if q = 1 / 2 - 1 / 2 ^ 54 ∨ q.den = 1 ∧ Odd q.num ∧ 2 ^ 52 < |q.num| ∧ |q.num| < 2 ^ 53 then 1
  else 0

/-- Integers that are kept when they are rounded. -/
structure IsSettled (k : Int) : Prop where
  significant_eq : significant k = k
  overshoot_eq : overshoot k = 0
  lt_bound : k.natAbs < overflowBound

/-- The number `v` and one half make `z` units of `2 ^ -k`, and the floor of the rounded sum is what
it should be but for the overshoot. -/
structure HalfAdded (v : ℚ) (z : Int) (k : Nat) : Prop where
  sum_eq : (z : ℚ) = (v + 1 / 2) * 2 ^ k
  in_range : significantNat z.natAbs < 2 ^ (1024 + k)
  quotient_eq : significant z / 2 ^ k = z / 2 ^ k + overshoot v
  settled : IsSettled (significant z / 2 ^ k)

variable {m a j d : Nat} {negative : Bool} {v : ℚ}

theorem overshoot_intCast (w : Int) :
    overshoot w = if Odd w ∧ 2 ^ 52 < |w| ∧ |w| < 2 ^ 53 then 1 else 0 := by
  have hhalf : ¬ (w : ℚ) = 1 / 2 - 1 / 2 ^ 54 := by
    intro h
    have hscaled : (w : ℚ) * 2 ^ 54 = 2 ^ 53 - 1 := by
      rw [h]
      norm_num
    have hint : w * 2 ^ 54 = 2 ^ 53 - 1 := by exact_mod_cast hscaled
    omega
  rw [overshoot, Rat.den_intCast, Rat.num_intCast]
  simp only [hhalf, false_or, true_and]

theorem overshoot_of_abs_lt (h : |v| < 2 ^ 52) :
    overshoot v = if v = 1 / 2 - 1 / 2 ^ 54 then 1 else 0 := by
  have hnot : ¬ (v.den = 1 ∧ Odd v.num ∧ 2 ^ 52 < |v.num| ∧ |v.num| < 2 ^ 53) := by
    rintro ⟨hden, -, hlarge, -⟩
    have hv : (v.num : ℚ) = v := (Rat.den_eq_one_iff v).1 hden
    have hcast : ((2 ^ 52 : Int) : ℚ) < ((|v.num| : Int) : ℚ) := Int.cast_lt.2 hlarge
    rw [Int.cast_abs, hv] at hcast
    push_cast at hcast
    exact absurd h (not_lt.2 hcast.le)
  rw [overshoot]
  simp only [hnot, or_false]

theorem isSettled_of_natAbs_le {k : Int} (hk : k.natAbs ≤ 2 ^ 53)
    (hslip : Odd k → k.natAbs ≤ 2 ^ 52) : IsSettled k where
  significant_eq := significant_of_natAbs_le hk
  overshoot_eq := by
    rw [overshoot_intCast, Int.abs_eq_natAbs, if_neg]
    rintro ⟨hodd, hlow, -⟩
    have := hslip hodd
    omega
  lt_bound := by
    have hbound : 2 ^ 53 < overflowBound := by decide +kernel
    omega

theorem natAbs_significant (z : Int) : (significant z).natAbs = significantNat z.natAbs := by
  obtain ⟨negative, hz⟩ := exists_signedBy z
  rw [hz, significant_signedBy, natAbs_signedBy, natAbs_signedBy]

theorem in_range_of_natAbs_le {z : Int} {k : Nat} (h : z.natAbs ≤ 2 ^ (k + 53)) :
    significantNat z.natAbs < 2 ^ (1024 + k) :=
  Nat.lt_of_le_of_lt (significantNat_le_two_pow h) (Nat.pow_lt_pow_right (by decide) (by omega))

theorem mul_two_pow_lt {b : Nat} (hm : m < 2 ^ 53) (hb : 53 + a ≤ b) : m * 2 ^ a < 2 ^ b :=
  calc m * 2 ^ a < 2 ^ 53 * 2 ^ a := Nat.mul_lt_mul_of_pos_right hm (Nat.two_pow_pos a)
    _ = 2 ^ (53 + a) := (Nat.pow_add 2 53 a).symm
    _ ≤ 2 ^ b := Nat.pow_le_pow_right (by decide) hb

theorem mul_two_pow_lt_overflowBound (hm : m < 2 ^ 53) (ha : a ≤ 971) :
    m * 2 ^ a < overflowBound := by
  -- As a variable the exponent keeps powers of this size from being computed.
  obtain ⟨e, he⟩ : ∃ e, e = 970 := ⟨970, rfl⟩
  have hbound : overflowBound = 2 ^ 54 * 2 ^ e - 2 ^ e := by
    have hsum : 54 + e = 1024 := by omega
    rw [overflowBound, ← Nat.pow_add, hsum, he]
  have hlast : 2 ^ a ≤ 2 ^ e * 2 := by
    rw [← Nat.pow_succ]
    exact Nat.pow_le_pow_right (by decide) (by omega)
  have hpos : 0 < 2 ^ e := Nat.two_pow_pos e
  calc m * 2 ^ a ≤ (2 ^ 53 - 1) * (2 ^ e * 2) := Nat.mul_le_mul (by omega) hlast
    _ < overflowBound := by omega

/-! ### From the place of the last bit to the half -/

theorem halfAdded_of_large (hlow : 2 ^ 52 ≤ m) (hhigh : m < 2 ^ 53) (ha : a ≠ 0) (ha' : a ≤ 971)
    (negative : Bool) :
    HalfAdded (signedBy negative m * 2 ^ a) (signedBy negative m * 2 ^ (a + 53) + 2 ^ 52) 53 := by
  have hlost := significant_add_half_of_large hlow hhigh ha negative
  have hplaces : (signedBy negative m).natAbs ≤ 2 ^ 53 := by
    rw [natAbs_signedBy]
    exact Nat.le_of_lt hhigh
  have hkept := significant_mul_two_pow hplaces a
  have hmag : (signedBy negative m * 2 ^ a).natAbs = m * 2 ^ a := by
    rw [← signedBy_mul_two_pow, natAbs_signedBy]
  have hlarge : 2 ^ 53 ≤ m * 2 ^ a :=
    calc 2 ^ 53 = 2 ^ 52 * 2 ^ 1 := rfl
      _ ≤ m * 2 ^ a := Nat.mul_le_mul hlow (Nat.pow_le_pow_right (by decide) (by omega))
  have hcast : (signedBy negative m * 2 ^ a : ℚ) = ((signedBy negative m * 2 ^ a : Int) : ℚ) := by
    push_cast
    rfl
  have hshift : signedBy negative m * 2 ^ (a + 53) = signedBy negative m * 2 ^ a * 2 ^ 53 := by
    rw [Int.mul_assoc, ← Int.pow_add]
  have hdown : overshoot ((signedBy negative m * 2 ^ a : Int) : ℚ) = 0 := by
    rw [overshoot_intCast, Int.abs_eq_natAbs, hmag, if_neg]
    rintro ⟨-, -, hhigh'⟩
    omega
  have hquotient : significant (signedBy negative m * 2 ^ (a + 53) + 2 ^ 52) / 2 ^ 53 =
      signedBy negative m * 2 ^ a := by
    rw [hlost, hshift]
    exact Int.mul_ediv_cancel _ (by decide)
  refine ⟨?_, ?_, ?_, ?_⟩
  · push_cast
    ring
  · rw [← natAbs_significant, hlost, ← signedBy_mul_two_pow, natAbs_signedBy]
    exact mul_two_pow_lt hhigh (by omega)
  · rw [hquotient, hcast, hdown, hshift]
    omega
  · rw [hquotient]
    exact ⟨hkept, hdown, by rw [hmag]; exact mul_two_pow_lt_overflowBound hhigh ha'⟩

theorem halfAdded_of_units (hlow : 2 ^ 52 ≤ m) (hhigh : m < 2 ^ 53) (negative : Bool) :
    HalfAdded (signedBy negative m) (signedBy negative m * 2 ^ 53 + 2 ^ 52) 53 := by
  have heven := significant_add_half_of_units hlow hhigh negative
  have hmag := natAbs_signedBy negative m
  have hslip : overshoot (signedBy negative m : Int) = (m % 2 : Nat) := by
    have hodd : Odd (signedBy negative m) ↔ m % 2 = 1 := by
      rw [← Int.natAbs_odd, hmag, Nat.odd_iff]
    simp only [overshoot_intCast, Int.abs_eq_natAbs, hmag, hodd]
    split_ifs <;> omega
  generalize signedBy negative m = w at *
  refine ⟨?_, in_range_of_natAbs_le (by omega), ?_, ?_⟩
  · push_cast
    ring
  · rw [heven, hslip]
    omega
  · rw [heven]
    refine isSettled_of_natAbs_le (by omega) ?_
    rw [Int.odd_iff]
    omega

/-- Of the numbers that are not integers only the one just below the half comes out too high. -/
theorem overshoot_div_two_pow (hj : 1 ≤ j) (hm : m < 2 ^ 53) (negative : Bool) :
    overshoot (signedBy negative m / 2 ^ j) =
      if signedBy negative m * 2 ^ 54 = (2 ^ 53 - 1) * 2 ^ j then 1 else 0 := by
  have habs : |(signedBy negative m : ℚ)| = m := by
    rw [← Int.cast_abs, Int.abs_eq_natAbs, natAbs_signedBy, Int.cast_natCast]
  have hsmall : |(signedBy negative m : ℚ) / 2 ^ j| < 2 ^ 52 := by
    have hlt : m < 2 ^ 52 * 2 ^ j :=
      calc m < 2 ^ 52 * 2 ^ 1 := hm
        _ ≤ 2 ^ 52 * 2 ^ j := Nat.mul_le_mul_left _ (Nat.pow_le_pow_right (by decide) hj)
    rw [abs_div, habs, abs_of_pos (by positivity), div_lt_iff₀ (by positivity)]
    exact_mod_cast hlt
  have hscaled : (signedBy negative m : ℚ) / 2 ^ j = 1 / 2 - 1 / 2 ^ 54 ↔
      signedBy negative m * 2 ^ 54 = (2 ^ 53 - 1) * 2 ^ j := by
    have hhalf : (1 / 2 - 1 / 2 ^ 54 : ℚ) = (2 ^ 53 - 1) / 2 ^ 54 := by norm_num
    rw [hhalf, div_eq_div_iff (by positivity) (by positivity)]
    norm_cast
  simp only [overshoot_of_abs_lt hsmall, hscaled]

theorem overshoot_eq_zero_of_le (hj : 1 ≤ j) (hj53 : j ≤ 53) (hm : m < 2 ^ 53) (negative : Bool) :
    overshoot (signedBy negative m / 2 ^ j) = 0 := by
  rw [overshoot_div_two_pow hj hm, if_neg]
  intro h
  have hpower : (2 ^ (53 - j) * 2 ^ j : Int) = 2 ^ 53 := by
    rw [← Int.pow_add, Nat.sub_add_cancel hj53]
  have hpos : (2 ^ j : Int) ≠ 0 := by positivity
  have hcancel : signedBy negative m * 2 ^ (53 - j) * 2 = 2 ^ 53 - 1 := by
    apply mul_right_cancel₀ hpos
    linear_combination h + 2 * signedBy negative m * hpower
  have hodd : ¬ (2 : Int) ∣ 2 ^ 53 - 1 := by decide
  exact hodd (Dvd.intro_left _ hcancel)

/-- Numbers with at most 53 places behind the point. -/
theorem halfAdded_of_fraction (hj : 1 ≤ j) (hj53 : j ≤ 53) (hm : m < 2 ^ 53) (negative : Bool) :
    HalfAdded (signedBy negative m / 2 ^ j) (signedBy negative m * 2 ^ (53 - j) + 2 ^ 52) 53 := by
  have hexact := significant_add_half_of_fraction hj hj53 hm negative
  have hmag : (signedBy negative m * 2 ^ (53 - j)).natAbs = m * 2 ^ (53 - j) := by
    rw [← signedBy_mul_two_pow, natAbs_signedBy]
  have hplace : 2 ^ (53 - j) ≤ 2 ^ 52 := Nat.pow_le_pow_right (by decide) (by omega)
  have hbound : m * 2 ^ (53 - j) ≤ (2 ^ 53 - 1) * 2 ^ 52 := Nat.mul_le_mul (by omega) hplace
  have hdown := overshoot_eq_zero_of_le hj hj53 hm negative
  refine ⟨?_, in_range_of_natAbs_le (by omega), ?_, ?_⟩
  · have hpower : (2 ^ (53 - j) * 2 ^ j : ℚ) = 2 ^ 53 := by
      rw [← pow_add, Nat.sub_add_cancel hj53]
    push_cast
    field_simp
    linear_combination signedBy negative m * hpower
  · rw [hexact, hdown, Int.add_zero]
  · rw [hexact]
    apply isSettled_of_natAbs_le <;> omega

theorem eq_of_scaled_eq (hd : 1 ≤ d) (hm : m < 2 ^ 53)
    (h : signedBy negative m * 2 ^ 54 = (2 ^ 53 - 1) * 2 ^ (d + 53)) :
    negative = false ∧ d = 1 ∧ m = 2 ^ 53 - 1 := by
  obtain ⟨c, rfl⟩ := Nat.exists_eq_add_of_le' hd
  have hcancel : signedBy negative m = (2 ^ 53 - 1) * 2 ^ c := by
    rw [Int.pow_add 2 (c + 1) 53, Int.pow_add 2 c 1] at h
    linarith only [h]
  clear h
  have hmag : m = (2 ^ 53 - 1) * 2 ^ c := by
    have hplaces : (2 ^ 53 - 1 : Int).natAbs = 2 ^ 53 - 1 := by decide
    have htwo : (2 : Int).natAbs = 2 := rfl
    rw [← natAbs_signedBy negative m, hcancel, Int.natAbs_mul, Int.natAbs_pow, hplaces, htwo]
  have hzero : c = 0 := by
    by_contra hc
    have htwo : 2 ^ 1 ≤ 2 ^ c := Nat.pow_le_pow_right (by decide) (by omega)
    have hlarge : (2 ^ 53 - 1) * 2 ^ 1 ≤ m := hmag ▸ Nat.mul_le_mul_left _ htwo
    omega
  rw [hzero, Nat.pow_zero, Nat.mul_one] at hmag
  rw [hzero, Int.pow_zero, Int.mul_one] at hcancel
  cases negative with
  | false => exact ⟨rfl, congrArg (· + 1) hzero, hmag⟩
  | true =>
    rw [signedBy_true] at hcancel
    omega

/-- Numbers with more than 53 places behind the point, none of which is before the half. -/
theorem halfAdded_of_small (hd : 1 ≤ d) (hm : m < 2 ^ 53) (negative : Bool) :
    HalfAdded (signedBy negative m / 2 ^ (d + 53)) (signedBy negative m + 2 ^ (d + 52))
      (d + 53) := by
  have hslip := significant_add_half_of_small hd hm negative
  have hmag := natAbs_signedBy negative m
  have hpower : (2 : Int) ^ (d + 53) = 2 ^ (d + 52) * 2 := Int.pow_succ 2 (d + 52)
  have hhalf : 2 ^ 53 ≤ 2 ^ (d + 52) := Nat.pow_le_pow_right (by decide) (by omega)
  have hcast : (2 ^ (d + 52) : Int) = (2 ^ (d + 52) : Nat) := (Int.natCast_pow 2 _).symm
  have hzero : (signedBy negative m + 2 ^ (d + 52)) / 2 ^ (d + 53) = 0 := by
    rw [hpower, hcast]
    apply Int.ediv_eq_zero_of_lt <;> omega
  have hover : overshoot (signedBy negative m / 2 ^ (d + 53)) =
      if negative = false ∧ d = 1 ∧ m = 2 ^ 53 - 1 then 1 else 0 := by
    rw [overshoot_div_two_pow (Nat.le_add_left_of_le (by decide)) hm]
    split_ifs with h h' h'
    · rfl
    · exact absurd (eq_of_scaled_eq hd hm h) h'
    · obtain ⟨rfl, rfl, rfl⟩ := h'
      exact absurd rfl h
    · rfl
  refine ⟨?_, in_range_of_natAbs_le ?_, ?_, ?_⟩
  · push_cast
    field_simp
    ring
  · have hroom : 2 ^ (d + 52) * 2 ≤ 2 ^ (d + 53 + 53) := by
      rw [← Nat.pow_succ]
      exact Nat.pow_le_pow_right (by decide) (by omega)
    rw [hcast]
    omega
  · rw [hslip, hzero, hover, Int.zero_add]
  · rw [hslip]
    split_ifs <;> exact isSettled_of_natAbs_le (by decide) (by decide)

/-- The sum of one half and a number in canonical form, in the finer of their units. -/
theorem exists_halfAdded {e : Int} (hc : IsCanonical m e) (he : e ≤ 971) (negative : Bool) :
    ∃ k : Nat, min e (-53) = -k ∧ HalfAdded (signedBy negative m * 2 ^ e)
      (signedBy negative m * 2 ^ (e - min e (-53)).toNat +
        signedBy false (2 ^ 52) * 2 ^ (-53 - min e (-53)).toNat) k := by
  obtain ⟨hm, -, hnormal⟩ := hc
  have hone : signedBy false (2 ^ 52) = 2 ^ 52 := by decide
  -- The cases are where the last place of the number is: below the last one of the half, behind the
  -- point, at the units, or above them.
  rcases Int.lt_or_le e (-53) with hsmall | hcoarse
  · obtain ⟨d, rfl⟩ : ∃ d : Nat, e = -(d + 53 : Nat) := ⟨(-e - 53).toNat, by omega⟩
    have hmin : min (-((d + 53 : Nat) : Int)) (-53) = -(d + 53 : Nat) := by omega
    have hfirst : (-((d + 53 : Nat) : Int) - -(d + 53 : Nat)).toNat = 0 := by omega
    have hsecond : (-53 - -((d + 53 : Nat) : Int)).toNat = d := by omega
    have hhalf : (2 : Int) ^ 52 * 2 ^ d = 2 ^ (d + 52) := by rw [Int.pow_add, Int.mul_comm]
    have hvalue : (signedBy negative m : ℚ) * 2 ^ (-((d + 53 : Nat) : Int)) =
        signedBy negative m / 2 ^ (d + 53) := by
      rw [zpow_neg, zpow_natCast, div_eq_mul_inv]
    rw [hmin, hfirst, hsecond, hone, hhalf, Int.pow_zero, Int.mul_one, hvalue]
    exact ⟨d + 53, rfl, halfAdded_of_small (by omega) hm negative⟩
  · have hmin : min e (-53) = -(53 : Nat) := by omega
    have hsecond : (-53 - -((53 : Nat) : Int)).toNat = 0 := rfl
    rw [hmin, hsecond, hone, Int.pow_zero, Int.mul_one]
    refine ⟨53, rfl, ?_⟩
    rcases Int.lt_trichotomy e 0 with hneg | rfl | hpos
    · obtain ⟨j, rfl⟩ : ∃ j : Nat, e = -j := ⟨(-e).toNat, by omega⟩
      have hfirst : (-(j : Int) - -(53 : Nat)).toNat = 53 - j := by omega
      have hvalue : (signedBy negative m : ℚ) * 2 ^ (-(j : Int)) = signedBy negative m / 2 ^ j := by
        rw [zpow_neg, zpow_natCast, div_eq_mul_inv]
      rw [hfirst, hvalue]
      exact halfAdded_of_fraction (by omega) (by omega) hm negative
    · have hfirst : (0 - -((53 : Nat) : Int)).toNat = 53 := rfl
      rw [hfirst, zpow_zero, mul_one]
      exact halfAdded_of_units (hnormal.resolve_right (by decide)) hm negative
    · obtain ⟨a, rfl⟩ : ∃ a : Nat, e = a := ⟨e.toNat, by omega⟩
      have hfirst : ((a : Int) - -(53 : Nat)).toNat = a + 53 := by omega
      rw [hfirst, zpow_natCast]
      exact halfAdded_of_large (hnormal.resolve_right (by omega)) hm (by omega) (by omega) negative

/-! ### The floor of the sum -/

theorem HalfAdded.floor_eq {z : Int} {k : Nat} (h : HalfAdded v z k) : ⌊v + 1 / 2⌋ = z / 2 ^ k := by
  have hpower : (2 ^ k : ℚ) ≠ 0 := by positivity
  rw [← floor_mul_zpow_neg, h.sum_eq, zpow_neg, zpow_natCast, mul_inv_cancel_right₀ hpower]

theorem HalfAdded.mul_zpow_lt {z : Int} {k : Nat} (h : HalfAdded v z k) :
    (significantNat z.natAbs : ℚ) * 2 ^ (-(k : Int)) < 2 ^ 1024 := by
  have hcast : (significantNat z.natAbs : ℚ) < 2 ^ (1024 + k) := by exact_mod_cast h.in_range
  rwa [zpow_neg, zpow_natCast, ← div_eq_mul_inv, div_lt_iff₀ (by positivity), ← pow_add]

theorem parts_half : parts 0.5 = .finite false (2 ^ 52) (-53) := by decide +kernel

/-- The floor of a float plus one half is the nearest integer, halves up, but for the overshoot, and
it is an integer that is kept. -/
theorem floor?_add_half {x : Float} (hx : isFinite x = true) :
    ∃ k : Int, floor? (x + 0.5) = some k ∧
      k = ⌊exactValue x + 1 / 2⌋ + overshoot (exactValue x) ∧ IsSettled k := by
  obtain ⟨negative, m, e, hparts⟩ := isFinite_iff.1 hx
  obtain ⟨hc, he⟩ := isCanonical_of_parts hparts
  obtain ⟨k, hunit, hsum⟩ := exists_halfAdded hc he negative
  rw [← exactValue_of_parts hparts] at hsum
  generalize hz : signedBy negative m * 2 ^ (e - min e (-53)).toNat +
    signedBy false (2 ^ 52) * 2 ^ (-53 - min e (-53)).toNat = z at hsum
  obtain ⟨hfinite, hvalue⟩ := exactValue_add hparts parts_half (Nat.two_pow_pos 52) hz.symm
    (by rw [hunit]; exact hsum.mul_zpow_lt)
  refine ⟨significant z / 2 ^ k, ?_, ?_, hsum.settled⟩
  · rw [floor?_of_isFinite hfinite, hvalue, hunit, floor_mul_zpow_neg]
  · rw [hsum.floor_eq, hsum.quotient_eq]

end Harvest.Number
