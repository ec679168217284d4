import Harvest.Proofs.Number.Addition

/-!
# One half more, in fifty-three binary places
-/

namespace Harvest.Number

variable {m j d : Nat}

/-! ### Integers with at least 53 binary places -/

/-- Twice the half is the least unit in which the sum can be rounded. -/
theorem two_pow_add_53 (e : Nat) :
    (e = 0 → 2 ^ (e + 53) = 2 ^ 53) ∧ (e ≠ 0 → 2 ^ 54 ≤ 2 ^ (e + 53)) := by
  constructor
  · rintro rfl
    rfl
  · intro he
    exact Nat.pow_le_pow_right (by decide) (by omega)

theorem significantNat_add_half (hlow : 2 ^ 52 ≤ m) (hhigh : m < 2 ^ 53) (e : Nat) :
    significantNat (m * 2 ^ (e + 53) + 2 ^ 52) =
      if e = 0 ∧ m % 2 = 1 then (m + 1) * 2 ^ (e + 53) else m * 2 ^ (e + 53) := by
  obtain ⟨hzero, hlarge⟩ := two_pow_add_53 e
  have hbelow : 2 ^ 52 * 2 ^ (e + 53) ≤ m * 2 ^ (e + 53) := Nat.mul_le_mul_right _ hlow
  have habove : (m + 1) * 2 ^ (e + 53) ≤ 2 ^ 53 * 2 ^ (e + 53) := Nat.mul_le_mul_right _ hhigh
  rw [Nat.add_mul, Nat.one_mul] at habove
  have hhalf : 2 ^ 52 < 2 ^ (e + 53) := by
    by_cases he : e = 0
    · rw [hzero he]
      decide
    · exact Nat.lt_of_lt_of_le (by decide) (hlarge he)
  have hsum := @significantNat_of_range (m * 2 ^ (e + 53) + 2 ^ 52) (e + 53)
    (by rw [Nat.pow_add]; omega) (by rw [Nat.pow_add 2 53]; omega)
  rw [hsum, roundQuotient_add hhalf]
  by_cases he : e = 0
  · rw [if_neg (by omega), if_neg (by omega)]
    by_cases hodd : m % 2 = 1
    · rw [if_neg (by omega), if_pos ⟨he, hodd⟩]
    · rw [if_pos (by omega), if_neg (fun h => hodd h.2)]
  · have := hlarge he
    rw [if_pos (by omega), if_neg (fun h => he h.1)]

theorem significantNat_sub_half (hlow : 2 ^ 52 < m) (hhigh : m < 2 ^ 53) (e : Nat) :
    significantNat (m * 2 ^ (e + 53) - 2 ^ 52) =
      if e = 0 ∧ m % 2 = 1 then (m - 1) * 2 ^ (e + 53) else m * 2 ^ (e + 53) := by
  obtain ⟨hzero, hlarge⟩ := two_pow_add_53 e
  obtain ⟨q, rfl⟩ : ∃ q, m = q + 1 := ⟨m - 1, by omega⟩
  have hbelow : 2 ^ 52 * 2 ^ (e + 53) ≤ q * 2 ^ (e + 53) :=
    Nat.mul_le_mul_right _ (Nat.le_of_lt_succ hlow)
  have habove : (q + 1) * 2 ^ (e + 53) ≤ 2 ^ 53 * 2 ^ (e + 53) :=
    Nat.mul_le_mul_right _ (Nat.le_of_lt hhigh)
  have hnext : (q + 1) * 2 ^ (e + 53) = q * 2 ^ (e + 53) + 2 ^ (e + 53) := Nat.succ_mul _ _
  have hhalf : 2 ^ 53 ≤ 2 ^ (e + 53) := Nat.pow_le_pow_right (by decide) (by omega)
  have hsplit : (q + 1) * 2 ^ (e + 53) - 2 ^ 52 = q * 2 ^ (e + 53) + (2 ^ (e + 53) - 2 ^ 52) := by
    omega
  have hsum := @significantNat_of_range (q * 2 ^ (e + 53) + (2 ^ (e + 53) - 2 ^ 52)) (e + 53)
    (by rw [Nat.pow_add]; omega) (by rw [Nat.pow_add 2 53]; omega)
  rw [hsplit, hsum, roundQuotient_add (by omega)]
  by_cases he : e = 0
  · have := hzero he
    rw [if_neg (by omega), if_neg (by omega), Nat.add_sub_cancel]
    by_cases hodd : (q + 1) % 2 = 1
    · rw [if_pos (by omega), if_pos ⟨he, hodd⟩]
    · rw [if_neg (by omega), if_neg (fun h => hodd h.2)]
  · have := hlarge he
    rw [if_neg (by omega), if_pos (by omega), if_neg (fun h => he h.1)]

/-- Below a power of two there is room for one more binary place. -/
theorem significantNat_two_pow_sub_half (e : Nat) :
    significantNat (2 ^ 52 * 2 ^ (e + 53) - 2 ^ 52) =
      if e = 0 then 2 ^ 52 * 2 ^ (e + 53) - 2 ^ 52 else 2 ^ 52 * 2 ^ (e + 53) := by
  have hdouble : 2 ^ (e + 53) = 2 ^ (e + 52) * 2 := Nat.pow_succ 2 (e + 52)
  have hunit : 2 ^ 52 ≤ 2 ^ (e + 52) := Nat.pow_le_pow_right (by decide) (by omega)
  have hsplit : 2 ^ 52 * 2 ^ (e + 53) - 2 ^ 52 =
      (2 ^ 53 - 1) * 2 ^ (e + 52) + (2 ^ (e + 52) - 2 ^ 52) := by
    omega
  have hsum := @significantNat_of_range ((2 ^ 53 - 1) * 2 ^ (e + 52) + (2 ^ (e + 52) - 2 ^ 52))
    (e + 52) (by rw [Nat.pow_add]; omega) (by rw [Nat.pow_add 2 53]; omega)
  rw [hsplit, hsum, roundQuotient_add (by omega)]
  by_cases he : e = 0
  · subst he
    decide
  · have hlarge : 2 ^ 53 ≤ 2 ^ (e + 52) := Nat.pow_le_pow_right (by decide) (by omega)
    have hodd : ¬ (2 ^ 53 - 1) % 2 = 0 := by decide
    rw [if_neg (by omega), if_neg hodd, ite_self, if_neg he]
    omega

/-! ### Numbers between two integers -/

/-- A sum beyond the power of two where the places end does not pass the next half. -/
theorem significantNat_near_two_pow (hj : 2 ≤ j) (hj53 : j ≤ 53)
    (hlow : 2 ^ 53 ≤ m + 2 ^ (j - 1)) (hhigh : m < 2 ^ 53) :
    2 ^ (106 - j) ≤ significantNat ((m + 2 ^ (j - 1)) * 2 ^ (53 - j)) ∧
      significantNat ((m + 2 ^ (j - 1)) * 2 ^ (53 - j)) ≤ 2 ^ (106 - j) + 2 ^ 52 := by
  have hpower : 2 ^ (106 - j) = 2 ^ 53 * 2 ^ (53 - j) := by
    rw [← Nat.pow_add]
    congr 1
    omega
  have hhalf : 2 ^ (j - 1) * 2 ^ (53 - j) = 2 ^ 52 := by
    rw [← Nat.pow_add]
    congr 1
    omega
  have hbelow : 2 ^ (106 - j) ≤ (m + 2 ^ (j - 1)) * 2 ^ (53 - j) := by
    rw [hpower]
    exact Nat.mul_le_mul_right _ hlow
  have habove : (m + 2 ^ (j - 1)) * 2 ^ (53 - j) ≤ 2 ^ (106 - j) + 2 ^ 52 := by
    rw [hpower, Nat.add_mul, hhalf]
    exact Nat.add_le_add_right (Nat.mul_le_mul_right _ (Nat.le_of_lt hhigh)) _
  have hsmall : 2 ^ 52 < 2 ^ (106 - j) := Nat.pow_lt_pow_right (by decide) (by omega)
  have hlog : ((m + 2 ^ (j - 1)) * 2 ^ (53 - j)).log2 = 52 + (54 - j) := by
    have hexponent : 52 + (54 - j) = 106 - j := by omega
    have hnext : 53 + (54 - j) = 106 - j + 1 := by omega
    apply log2_eq_of_range
    · rwa [hexponent]
    · rw [hnext, Nat.pow_succ]
      omega
  have hexcess : excess ((m + 2 ^ (j - 1)) * 2 ^ (53 - j)) = 54 - j := by
    rw [excess, hlog, Nat.add_sub_cancel_left]
  have hdvd : 2 ^ (54 - j) ∣ 2 ^ (106 - j) := Nat.pow_dvd_pow 2 (by omega)
  constructor
  · exact le_significantNat (by rwa [hexcess]) hbelow
  · refine significantNat_le ?_ habove
    rw [hexcess]
    exact Nat.dvd_add hdvd (Nat.pow_dvd_pow 2 (by omega))

/-! ### Numbers of magnitude below one half -/

/-- The sum is rounded to one only from the float just below one half. -/
theorem significantNat_below_one (hd : 1 ≤ d) (hm : m < 2 ^ 53) :
    significantNat (m + 2 ^ (d + 52)) / 2 ^ (d + 53) = if d = 1 ∧ m = 2 ^ 53 - 1 then 1 else 0 := by
  have hone : 2 ^ (d + 53) = 2 ^ 53 * 2 ^ d := by rw [Nat.add_comm, Nat.pow_add]
  have hhalf : 2 ^ (d + 52) = 2 ^ 52 * 2 ^ d := by rw [Nat.add_comm, Nat.pow_add]
  have hunit : 2 ^ 1 ≤ 2 ^ d := Nat.pow_le_pow_right (by decide) hd
  have hround := @succ_le_roundQuotient_iff (m + 2 ^ (d + 52)) (2 ^ d) (2 ^ 53 - 1)
    (Nat.two_pow_pos d) (by decide)
  have hbound : significantNat (m + 2 ^ (d + 52)) ≤ 2 ^ (d + 53) :=
    significantNat_le_two_pow (by omega)
  have hsum := @significantNat_of_range (m + 2 ^ (d + 52)) d
    (by rw [Nat.add_comm 52 d]; omega) (by rw [Nat.add_comm 53 d]; omega)
  split_ifs with hslip
  · obtain ⟨rfl, rfl⟩ := hslip
    decide
  · have hquotient : ¬ 2 ^ 53 - 1 + 1 ≤ roundQuotient (m + 2 ^ (d + 52)) (2 ^ d) := by
      rw [hround]
      intro hreach
      rcases Nat.lt_or_eq_of_le hd with hlarge | rfl
      · have hquarter : 2 ^ 2 ≤ 2 ^ d := Nat.pow_le_pow_right (by decide) hlarge
        omega
      · exact hslip ⟨rfl, by omega⟩
    apply Nat.div_eq_of_lt
    rw [hsum, hone]
    exact Nat.mul_lt_mul_of_pos_right (by omega) (Nat.two_pow_pos d)

/-! ### Signed sums -/

theorem significant_signedBy_add_half {n : Nat} (hn : 2 ^ 52 ≤ n) (negative : Bool) :
    significant (signedBy negative n + 2 ^ 52) =
      signedBy negative (significantNat (if negative then n - 2 ^ 52 else n + 2 ^ 52)) := by
  rw [← significant_signedBy]
  congr 1
  cases negative with
  | false =>
    rw [signedBy_false, signedBy_false, if_neg Bool.false_ne_true]
    push_cast
    rfl
  | true =>
    rw [signedBy_true, signedBy_true, if_pos rfl]
    omega

/-- Above a power of two beyond the places the half is lost. -/
theorem significant_add_half_of_large (hlow : 2 ^ 52 ≤ m) (hhigh : m < 2 ^ 53) {a : Nat}
    (ha : a ≠ 0) (negative : Bool) :
    significant (signedBy negative m * 2 ^ (a + 53) + 2 ^ 52) =
      signedBy negative m * 2 ^ (a + 53) := by
  have hle : 2 ^ 52 ≤ m * 2 ^ (a + 53) :=
    Nat.le_trans hlow (Nat.le_mul_of_pos_right m (Nat.two_pow_pos _))
  have hsum : significantNat (if negative then m * 2 ^ (a + 53) - 2 ^ 52
      else m * 2 ^ (a + 53) + 2 ^ 52) = m * 2 ^ (a + 53) := by
    cases negative with
    | false =>
      rw [if_neg Bool.false_ne_true, significantNat_add_half hlow hhigh, if_neg fun h => ha h.1]
    | true =>
      rw [if_pos rfl]
      rcases Nat.lt_or_eq_of_le hlow with hlt | rfl
      · rw [significantNat_sub_half hlt hhigh, if_neg fun h => ha h.1]
      · rw [significantNat_two_pow_sub_half, if_neg ha]
  rw [← signedBy_mul_two_pow, significant_signedBy_add_half hle, hsum]

/-- Where the places end with the units, a half goes to the even neighbour. -/
theorem significant_add_half_of_units (hlow : 2 ^ 52 ≤ m) (hhigh : m < 2 ^ 53) (negative : Bool) :
    significant (signedBy negative m * 2 ^ 53 + 2 ^ 52) / 2 ^ 53 =
      signedBy negative m + (m % 2 : Nat) := by
  have hle : 2 ^ 52 ≤ m * 2 ^ 53 := by omega
  rw [← signedBy_mul_two_pow, significant_signedBy_add_half hle]
  cases negative with
  | false =>
    have hsum := significantNat_add_half hlow hhigh 0
    simp only [Nat.zero_add, true_and] at hsum
    simp only [signedBy_false, Bool.false_eq_true, if_false, hsum]
    split_ifs <;> omega
  | true =>
    simp only [signedBy_true, if_true]
    rcases Nat.lt_or_eq_of_le hlow with hlt | rfl
    · have hsum := significantNat_sub_half hlt hhigh 0
      simp only [Nat.zero_add, true_and] at hsum
      rw [hsum]
      split_ifs <;> omega
    · have hsum := significantNat_two_pow_sub_half 0
      simp only [Nat.zero_add, if_true] at hsum
      rw [hsum]
      omega

/-- Where halves have a place, rounding to 53 places does not reach the next integer. -/
theorem significant_add_half_of_fraction (hj : 1 ≤ j) (hj53 : j ≤ 53) (hm : m < 2 ^ 53)
    (negative : Bool) :
    significant (signedBy negative m * 2 ^ (53 - j) + 2 ^ 52) / 2 ^ 53 =
      (signedBy negative m * 2 ^ (53 - j) + 2 ^ 52) / 2 ^ 53 := by
  obtain ⟨c, hc⟩ : ∃ c, c = 2 ^ (j - 1) := ⟨_, rfl⟩
  have hhalf : c * 2 ^ (53 - j) = 2 ^ 52 := by
    rw [hc, ← Nat.pow_add]
    congr 1
    omega
  have hbound : c ≤ 2 ^ 52 := hc ▸ Nat.pow_le_pow_right (by decide) (by omega)
  have hsum : signedBy negative m * 2 ^ (53 - j) + 2 ^ 52 =
      (signedBy negative m + c) * 2 ^ (53 - j) := by
    have hcast : (c : Int) * 2 ^ (53 - j) = 2 ^ 52 := by exact_mod_cast hhalf
    rw [Int.add_mul, hcast]
  by_cases hplaces : (signedBy negative m + c).natAbs ≤ 2 ^ 53
  · rw [hsum, significant_mul_two_pow hplaces]
  · -- Only a positive number can have a sum with more places than itself.
    have hpositive : negative = false := by
      by_contra hnegative
      rw [Bool.not_eq_false] at hnegative
      rw [hnegative, signedBy_true] at hplaces
      omega
    rw [hpositive, signedBy_false] at hplaces hsum ⊢
    have hlow : 2 ^ 53 ≤ m + c := by omega
    have hj2 : 2 ≤ j := by
      by_contra hsmall
      obtain rfl : j = 1 := by omega
      rw [Nat.sub_self, Nat.pow_zero] at hc
      omega
    have hnat : ((m : Int) + c) * 2 ^ (53 - j) = (((m + c) * 2 ^ (53 - j) : Nat) : Int) := by
      push_cast
      rfl
    have hpower : 2 ^ (106 - j) = 2 ^ (53 - j) * 2 ^ 53 := by
      rw [← Nat.pow_add]
      congr 1
      omega
    have hbelow : 2 ^ 53 * 2 ^ (53 - j) ≤ (m + c) * 2 ^ (53 - j) := Nat.mul_le_mul_right _ hlow
    have habove : m * 2 ^ (53 - j) ≤ 2 ^ 53 * 2 ^ (53 - j) :=
      Nat.mul_le_mul_right _ (Nat.le_of_lt hm)
    have hexpand : (m + c) * 2 ^ (53 - j) = m * 2 ^ (53 - j) + 2 ^ 52 := by
      rw [Nat.add_mul, hhalf]
    obtain ⟨hleast, hgreatest⟩ :=
      significantNat_near_two_pow hj2 hj53 (by rwa [hc] at hlow) hm
    rw [← hc] at hleast hgreatest
    rw [hsum, hnat, significant_natCast]
    omega

/-- Below the half the sum is rounded to one only from the greatest number there. -/
theorem significant_add_half_of_small (hd : 1 ≤ d) (hm : m < 2 ^ 53) (negative : Bool) :
    significant (signedBy negative m + 2 ^ (d + 52)) / 2 ^ (d + 53) =
      if negative = false ∧ d = 1 ∧ m = 2 ^ 53 - 1 then 1 else 0 := by
  have hhalf : 2 ^ 53 ≤ 2 ^ (d + 52) := Nat.pow_le_pow_right (by decide) (by omega)
  have hone : 2 ^ (d + 53) = 2 ^ (d + 52) * 2 := Nat.pow_succ 2 (d + 52)
  have hcast : (2 ^ (d + 53) : Int) = (2 ^ (d + 53) : Nat) := (Int.natCast_pow 2 _).symm
  cases negative with
  | false =>
    have hsum : signedBy false m + 2 ^ (d + 52) = ((m + 2 ^ (d + 52) : Nat) : Int) := by
      rw [signedBy_false]
      push_cast
      rfl
    have hslip := congrArg (Nat.cast : Nat → Int) (significantNat_below_one hd hm)
    rw [Int.natCast_ediv] at hslip
    rw [hsum, significant_natCast, hcast, hslip]
    simp only [true_and]
    split_ifs <;> rfl
  | true =>
    have hsum : signedBy true m + 2 ^ (d + 52) = ((2 ^ (d + 52) - m : Nat) : Int) := by
      rw [signedBy_true, Nat.cast_sub (by omega)]
      push_cast
      ring
    have hle : significantNat (2 ^ (d + 52) - m) ≤ 2 ^ (d + 52) :=
      significantNat_le_two_pow (Nat.sub_le _ _)
    have hzero : significantNat (2 ^ (d + 52) - m) / 2 ^ (d + 53) = 0 :=
      Nat.div_eq_of_lt (by omega)
    rw [hsum, significant_natCast, hcast, ← Int.natCast_ediv, hzero]
    simp only [Bool.true_eq_false, false_and, if_false]
    rfl

end Harvest.Number
