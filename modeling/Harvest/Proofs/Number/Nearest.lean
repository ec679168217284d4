import Harvest.Proofs.Number.Addition

/-!
# The float nearest to an integer

As long as it is in range, the float nearest to an integer is the integer rounded to 53 binary
places.
-/

namespace Harvest.Number

open Float.Model Float.Model.UnpackedFloat

variable {negative : Bool} {biased fraction n : Nat}

theorem toBits_ofBits {b : UInt64} (h : (@unpackExponent Format.binary64 b.toBitVec).toNat ≠ 2047) :
    (Float.ofBits b).toBits = b := by
  have hnan : ¬ @isNaNBits Format.binary64 b.toBitVec = true := by
    rw [isNaNBits, decide_eq_true_eq]
    rintro ⟨hexponent, -⟩
    rw [hexponent] at h
    exact h rfl
  have hpack := @pack_unpack Format.binary64 b.toBitVec (by decide)
  rw [if_neg hnan] at hpack
  exact UInt64.toBitVec_inj.1 hpack

theorem parts_ofBits_of_fields {w : Nat} (hw : w < 2 ^ 64) (hbiased : w / unit % 2048 ≠ 2047) :
    parts (Float.ofBits (UInt64.ofNat w)) =
      fieldParts (decide (signBit ≤ w)) (w / unit % 2048) (w % unit) := by
  have hnat : (UInt64.ofNat w).toNat = w := UInt64.toNat_ofNat_of_lt' hw
  have hexponent : (@unpackExponent Format.binary64 (UInt64.ofNat w).toBitVec).toNat ≠ 2047 := by
    rw [toNat_unpackExponent]
    change (UInt64.ofNat w).toNat / unit % 2048 ≠ 2047
    rwa [hnat]
  rw [parts, toBits_ofBits hexponent]
  simp only [hnat]
  rfl

theorem parts_ofBits (hbiased : biased < 2047) (hfraction : fraction < unit) :
    parts (Float.ofBits
        (UInt64.ofNat (biased * unit + fraction + if negative then signBit else 0))) =
      fieldParts negative biased fraction := by
  have hunit : unit = 4503599627370496 := rfl
  have hsign : signBit = 9223372036854775808 := rfl
  have hfields : ∃ w, biased * unit + fraction + (if negative then signBit else 0) = w ∧
      w < 2 ^ 64 ∧ w / unit % 2048 = biased ∧ w % unit = fraction ∧
      decide (signBit ≤ w) = negative := by
    refine ⟨_, rfl, ?_⟩
    rw [hunit] at hfraction
    cases negative with
    | false =>
      rw [if_neg Bool.false_ne_true, decide_eq_false_iff_not, hunit, hsign]
      omega
    | true =>
      rw [if_pos rfl, decide_eq_true_iff, hunit, hsign]
      omega
  obtain ⟨w, hw, hlt, hbits, hmantissa, hnegative⟩ := hfields
  rw [hw, parts_ofBits_of_fields hlt (by omega), hbits, hmantissa, hnegative]

/-- The mantissa and the unit of the float nearest to an integer, which may carry into the next
power of two. -/
theorem multipleOf_one_value (hn : n ≠ 0) :
    (multipleOf n 1 ((n.log2 : Int) - 52) : ℚ) * 2 ^ ((n.log2 : Int) - 52) = significantNat n := by
  by_cases hlarge : 52 ≤ n.log2
  · have hexponent : ((n.log2 : Int) - 52).toNat = excess n := by
      rw [excess]
      omega
    have hpower : ((n.log2 : Int) - 52) = (excess n : Nat) := by
      rw [excess]
      omega
    rw [multipleOf, if_pos (by omega), hexponent, hpower, zpow_natCast, significantNat, Nat.one_mul]
    push_cast
    rfl
  · have hlt : n < 2 ^ 52 := (Nat.log2_lt hn).1 (by omega)
    have hkept : significantNat n = n := significantNat_of_le (by omega)
    obtain ⟨k, hk⟩ : ∃ k : Nat, (n.log2 : Int) - 52 = -k := ⟨52 - n.log2, by omega⟩
    have hexponent : (-((n.log2 : Int) - 52)).toNat = k := by omega
    rw [multipleOf, if_neg (by omega), hexponent, hk, hkept, ← Nat.pow_zero 2, roundQuotient_one,
      zpow_neg, zpow_natCast]
    push_cast
    field_simp

/-- The rounded mantissa may have carried into the exponent. -/
theorem parts_nearest (hn : n ≠ 0)
    (hrange : (n.log2 + 1022) * unit + multipleOf n 1 ((n.log2 : Int) - 52) < 2047 * unit) :
    ∃ k e, parts (nearest negative n 1) = .finite negative k e ∧
      (k : ℚ) * 2 ^ e = significantNat n := by
  have hunit : unit = 4503599627370496 := rfl
  obtain ⟨hlow, hhigh⟩ := multipleOf_one_bounds hn
  have hvalue := multipleOf_one_value hn
  have hbits : nearestBits n 1 = (n.log2 + 1022) * unit + multipleOf n 1 ((n.log2 : Int) - 52) := by
    rw [nearestBits_one hn, Nat.min_eq_left (Nat.le_of_lt hrange)]
  rw [nearest, hbits]
  generalize multipleOf n 1 ((n.log2 : Int) - 52) = q at hrange hlow hhigh hvalue
  rcases Nat.lt_or_eq_of_le hhigh with hplaces | hcarry
  · have hfields : (n.log2 + 1022) * unit + q = (n.log2 + 1023) * unit + (q - unit) := by
      rw [hunit] at *
      omega
    have hbiased : n.log2 + 1023 < 2047 := by
      rw [hunit] at *
      omega
    have hmantissa : unit + (q - unit) = q := by omega
    have hexponent : ((n.log2 + 1023 : Nat) : Int) - 1075 = n.log2 - 52 := by omega
    rw [hfields, parts_ofBits hbiased (by omega), fieldParts, if_neg (by omega), if_neg (by omega),
      hmantissa, hexponent]
    exact ⟨q, _, rfl, hvalue⟩
  · have hfields : (n.log2 + 1022) * unit + q = (n.log2 + 1024) * unit + 0 := by
      rw [hunit] at *
      omega
    have hbiased : n.log2 + 1024 < 2047 := by
      rw [hunit] at *
      omega
    have hexponent : ((n.log2 + 1024 : Nat) : Int) - 1075 = n.log2 - 52 + 1 := by omega
    rw [hfields, parts_ofBits hbiased (Nat.two_pow_pos 52), fieldParts, if_neg (by omega),
      if_neg (by omega), Nat.add_zero, hexponent]
    refine ⟨unit, _, rfl, ?_⟩
    rw [← hvalue, hcarry, zpow_add_one₀ two_ne_zero]
    push_cast
    ring

/-- Of an integer in range 53 binary places are left. -/
theorem exactValue_of_ofInt? {z : Int} {x : Float} (h : ofInt? z = some x) :
    isFinite x = true ∧ exactValue x = significant z := by
  rw [ofInt?] at h
  split_ifs at h with hlarge
  cases h
  by_cases hzero : z.natAbs = 0
  · obtain rfl : z = 0 := Int.natAbs_eq_zero.1 hzero
    have hparts : parts (nearest (decide ((0 : Int) < 0)) (Int.natAbs 0) 1) =
        .finite false 0 (-1074) := @parts_ofBits false 0 0 (by decide) (by decide)
    rw [exactValue_of_parts hparts]
    refine ⟨isFinite_iff.2 ⟨_, _, _, hparts⟩, ?_⟩
    rw [signedBy_false, Nat.cast_zero, Int.cast_zero, zero_mul]
    rfl
  · have hrange : (z.natAbs.log2 + 1022) * unit +
        multipleOf z.natAbs 1 ((z.natAbs.log2 : Int) - 52) < 2047 * unit := by
      rw [nearestBits_one hzero] at hlarge
      omega
    obtain ⟨k, e, hparts, hvalue⟩ := @parts_nearest (decide (z < 0)) _ hzero hrange
    have hsigned := signedBy_mul_eq (hvalue.trans (mul_one _).symm) (decide (z < 0))
    rw [mul_one, ← significant_signedBy, signedBy_natAbs] at hsigned
    rw [exactValue_of_parts hparts]
    exact ⟨isFinite_iff.2 ⟨_, _, _, hparts⟩, hsigned⟩

end Harvest.Number
