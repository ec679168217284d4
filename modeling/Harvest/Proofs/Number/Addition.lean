import Harvest.Proofs.Number.Exact

/-!
# Sums of floats

The sum of two finite floats is the exact sum, rounded to 53 binary places, as long as it is in
range. Both are multiples of the least unit, so no places are lost there.
-/

namespace Harvest.Number

open Float.Model Float.Model.UnpackedFloat

variable {n d q m : Nat} {e : Int} {s : Sign}

/-! ### Shifts -/

/-- Shifting to the right keeps the last bit that is lost, and whether any bit was lost before. -/
theorem repeat_shiftRightOne (n d : Nat) :
    Nat.repeat ExtendedMantissa.shiftRightOne (d + 1) ⟨n, false, false⟩ =
      ⟨n / 2 ^ (d + 1), n / 2 ^ d % 2 != 0, n % 2 ^ d != 0⟩ := by
  induction d with
  | zero => simp [Nat.repeat, ExtendedMantissa.shiftRightOne, Nat.mod_one]
  | succ d ih =>
    have hmod : n % 2 ^ (d + 1) = n % 2 ^ d + 2 ^ d * (n / 2 ^ d % 2) := by
      rw [Nat.pow_succ, Nat.mod_mul]
    have hpos : 0 < 2 ^ d := Nat.two_pow_pos d
    have hsticky : (n / 2 ^ d % 2 != 0 || n % 2 ^ d != 0) = (n % 2 ^ (d + 1) != 0) := by
      rw [hmod, Bool.eq_iff_iff]
      simp only [Bool.or_eq_true, bne_iff_ne, ne_eq, Nat.add_eq_zero_iff, Nat.mul_eq_zero]
      omega
    rw [Nat.repeat, ih, ExtendedMantissa.shiftRightOne, hsticky, Nat.div_div_eq_div_mul,
      ← Nat.pow_succ]

theorem shiftRight_mantissa (n d : Nat) :
    ((⟨n, false, false⟩ : ExtendedMantissa) >>> d).mantissa = n / 2 ^ d := by
  change (Nat.repeat ExtendedMantissa.shiftRightOne d ⟨n, false, false⟩).mantissa = _
  cases d with
  | zero => rw [Nat.pow_zero, Nat.div_one]; rfl
  | succ d => rw [repeat_shiftRightOne]

/-- The bits that are kept decide the rounding. -/
theorem roundedMantissa_shiftRight (n d : Nat) :
    ((⟨n, false, false⟩ : ExtendedMantissa) >>> d).roundedMantissa = roundQuotient n (2 ^ d) := by
  change (Nat.repeat ExtendedMantissa.shiftRightOne d ⟨n, false, false⟩).roundedMantissa = _
  cases d with
  | zero =>
    have hexact := @roundQuotient_mul n 1 Nat.one_pos
    rw [Nat.mul_one] at hexact
    rw [Nat.pow_zero, hexact]
    rfl
  | succ d =>
    have hmod : n % 2 ^ (d + 1) = n % 2 ^ d + 2 ^ d * (n / 2 ^ d % 2) := by
      rw [Nat.pow_succ, Nat.mod_mul]
    have hpos : 0 < 2 ^ d := Nat.two_pow_pos d
    have hlt : n % 2 ^ d < 2 ^ d := Nat.mod_lt n hpos
    have hdouble : 2 ^ (d + 1) = 2 ^ d * 2 := Nat.pow_succ 2 d
    have hdown : ∀ q sticky, ExtendedMantissa.roundedMantissa ⟨q, false, sticky⟩ = q := by
      rintro q (_ | _) <;> rfl
    have htie : ∀ q, ExtendedMantissa.roundedMantissa ⟨q, true, false⟩ = q + q % 2 := fun _ => rfl
    have hup : ∀ q, ExtendedMantissa.roundedMantissa ⟨q, true, true⟩ = q + 1 := fun _ => rfl
    rw [repeat_shiftRightOne]
    simp only [roundQuotient, hmod]
    rcases Nat.mod_two_eq_zero_or_one (n / 2 ^ d) with hround | hround
    · rw [hround, if_pos (by omega)]
      exact hdown _ _
    · rw [hround, if_neg (by omega)]
      by_cases hexact : n % 2 ^ d = 0
      · rw [hexact, if_neg (by omega)]
        refine (htie _).trans ?_
        split_ifs <;> omega
      · rw [bne_iff_ne.2 hexact, if_pos (by omega)]
        exact hup _

theorem targetExponent_eq (t : Int) :
    Format.binary64.targetExponent t = max (t - 53) (-1074) := rfl

theorem shiftToTargetExponent_exact
    (hd : (max (n.log2 + 1 + e - 53) (-1074) - e).toNat = d) :
    shiftToTargetExponent Format.binary64 n e .exact =
      ((⟨n, false, false⟩ : ExtendedMantissa) >>> d, e + d) := by
  simp only [shiftToTargetExponent, shiftToExponent, targetExponent_eq, totalExponent, hd]
  rfl

/-- After rounding the mantissa may have become a power of two with one place too many. -/
theorem roundWithAccuracy_exact (hd : (max (n.log2 + 1 + e - 53) (-1074) - e).toNat = d)
    (hq : roundQuotient n (2 ^ d) = q) (hpos : 0 < q) (hbound : q ≤ 2 ^ 53)
    (hleast : -1074 ≤ e + d) :
    roundWithAccuracy Format.binary64 s n e .exact =
      if q = 2 ^ 53 then .finite s (2 ^ 52) (e + d + 1) (by decide)
      else .finite s q (e + d) hpos := by
  have hrounded : ((⟨n, false, false⟩ : ExtendedMantissa) >>> d).roundedMantissa = q := by
    rw [roundedMantissa_shiftRight, hq]
  simp only [roundWithAccuracy, shiftToTargetExponent_exact hd, hrounded]
  by_cases hcarry : q = 2 ^ 53
  · have hsecond : (max (q.log2 + 1 + (e + d) - 53) (-1074) - (e + d)).toNat = 1 := by
      rw [hcarry, Nat.log2_two_pow]
      omega
    have hhalf : q / 2 ^ 1 = 2 ^ 52 := by
      rw [hcarry]
      rfl
    simp only [shiftToTargetExponent_exact hsecond, shiftRight_mantissa, hhalf]
    rw [dif_neg (by decide), if_pos hcarry]
    rfl
  · have hsecond : (max (q.log2 + 1 + (e + d) - 53) (-1074) - (e + d)).toNat = 0 := by
      have hlog : q.log2 < 53 := (Nat.log2_lt (by omega)).2 (by omega)
      omega
    have hwhole : q / 2 ^ 0 = q := Nat.div_one q
    simp only [shiftToTargetExponent_exact hsecond, shiftRight_mantissa, hwhole]
    rw [dif_neg (by omega), if_neg hcarry]
    exact UnpackedFloat.finite.injEq .. ▸ ⟨rfl, rfl, Int.add_zero _⟩

theorem mul_two_pow_value (n d : Nat) (e : Int) :
    ((n * 2 ^ d : Nat) : ℚ) * 2 ^ e = n * 2 ^ (e + d) := by
  rw [zpow_add₀ two_ne_zero, zpow_natCast]
  push_cast
  ring

theorem roundQuotient_one (n : Nat) : roundQuotient n (2 ^ 0) = n := by
  have hexact := @roundQuotient_mul n (2 ^ 0) Nat.one_pos
  rwa [Nat.pow_zero, Nat.mul_one] at hexact

theorem exists_round_short (s : Sign) (hn : 0 < n) (he : -1074 ≤ e) (hshort : n < 2 ^ 53) :
    ∃ m k, ∃ hm : 0 < m, UnpackedFloat.round Format.binary64 s n e = .finite s m k hm ∧
      IsCanonical m k ∧ (m : ℚ) * 2 ^ k = n * 2 ^ e := by
  have hlog : n.log2 < 53 := (Nat.log2_lt (by omega)).2 hshort
  obtain ⟨a, ha⟩ : ∃ a, (e - max (n.log2 + 1 + e - 53) (-1074)).toNat = a := ⟨_, rfl⟩
  have hlog' : (n * 2 ^ a).log2 = n.log2 + a := log2_mul_two_pow (by omega) a
  have hpos : 0 < n * 2 ^ a := Nat.mul_pos hn (Nat.two_pow_pos a)
  have hlt : n * 2 ^ a < 2 ^ 53 := (Nat.log2_lt (by omega)).1 (by omega)
  have hround := roundWithAccuracy_exact (s := s) (n := n * 2 ^ a) (e := e - a) (d := 0)
    (by omega) (roundQuotient_one _) hpos (by omega) (by omega)
  refine ⟨n * 2 ^ a, e - a, hpos, ?_, ⟨hlt, by omega, ?_⟩, ?_⟩
  · simp only [UnpackedFloat.round, decreaseExponent, targetExponent_eq, totalExponent, ha,
      Nat.shiftLeft_eq]
    rw [hround, if_neg (by omega)]
    exact UnpackedFloat.finite.injEq .. ▸ ⟨rfl, rfl, Int.add_zero _⟩
  · rcases Int.le_total (n.log2 + 1 + e - 53) (-1074) with hleast | hnormal
    · exact .inr (by omega)
    · refine .inl ?_
      have hself := Nat.log2_self_le (n := n * 2 ^ a) (by omega)
      have hplaces : (n * 2 ^ a).log2 = 52 := by omega
      rwa [hplaces] at hself
  · rw [mul_two_pow_value, Int.sub_add_cancel]

theorem exists_round_long (s : Sign) (he : -1074 ≤ e) (hlong : 2 ^ 53 ≤ n) :
    ∃ m k, ∃ hm : 0 < m, UnpackedFloat.round Format.binary64 s n e = .finite s m k hm ∧
      IsCanonical m k ∧ (m : ℚ) * 2 ^ k = significantNat n * 2 ^ e := by
  have hlog : 53 ≤ n.log2 := (Nat.le_log2 (by omega)).2 hlong
  obtain ⟨d, hd⟩ : ∃ d, n.log2 = 52 + d := ⟨n.log2 - 52, by omega⟩
  have hself : 2 ^ n.log2 ≤ n := Nat.log2_self_le (by omega)
  have hnext : n < 2 ^ (n.log2 + 1) := Nat.lt_log2_self
  have hlow : 2 ^ 52 * 2 ^ d ≤ n := by rwa [← Nat.pow_add, ← hd]
  have hhigh : n ≤ 2 ^ 53 * 2 ^ d := by
    have hexponent : 53 + d = n.log2 + 1 := by omega
    rw [← Nat.pow_add, hexponent]
    exact Nat.le_of_lt hnext
  obtain ⟨q, hq⟩ : ∃ q, roundQuotient n (2 ^ d) = q := ⟨_, rfl⟩
  have hqlow : 2 ^ 52 ≤ q := hq ▸ le_roundQuotient (Nat.two_pow_pos d) hlow
  have hqhigh : q ≤ 2 ^ 53 := hq ▸ roundQuotient_le (Nat.two_pow_pos d) hhigh
  have hvalue : (significantNat n : ℚ) * 2 ^ e = q * 2 ^ (e + d) := by
    have hexcess : excess n = d := by rw [excess, hd, Nat.add_sub_cancel_left]
    rw [significantNat, hexcess, hq, mul_two_pow_value]
  have hround := roundWithAccuracy_exact (s := s) (n := n) (e := e) (d := d) (by omega) hq
    (by omega) hqhigh (by omega)
  have hnone : (e - max (n.log2 + 1 + e - 53) (-1074)).toNat = 0 := by omega
  have hunshifted : UnpackedFloat.round Format.binary64 s n e =
      roundWithAccuracy Format.binary64 s n e .exact := by
    simp only [UnpackedFloat.round, decreaseExponent, targetExponent_eq, totalExponent, hnone]
    rw [Nat.shiftLeft_zero, Int.natCast_zero, Int.sub_zero]
  rw [hunshifted, hround]
  by_cases hcarry : q = 2 ^ 53
  · refine ⟨2 ^ 52, e + d + 1, by decide, if_pos hcarry, ⟨by decide, by omega, .inl le_rfl⟩, ?_⟩
    rw [hvalue, hcarry, zpow_add_one₀ two_ne_zero]
    push_cast
    ring
  · exact ⟨q, e + d, by omega, if_neg hcarry, ⟨by omega, by omega, .inl hqlow⟩, hvalue.symm⟩

/-- Rounding keeps a multiple of the least unit up to 53 binary places. -/
theorem exists_round (s : Sign) (hn : 0 < n) (he : -1074 ≤ e) :
    ∃ m k, ∃ hm : 0 < m, UnpackedFloat.round Format.binary64 s n e = .finite s m k hm ∧
      IsCanonical m k ∧ (m : ℚ) * 2 ^ k = significantNat n * 2 ^ e := by
  rcases Nat.lt_or_ge n (2 ^ 53) with hshort | hlong
  · rw [significantNat_of_le (Nat.le_of_lt hshort)]
    exact exists_round_short s hn he hshort
  · exact exists_round_long s he hlong

/-! ### Sums -/

theorem apply_toSign (negative : Bool) (m : Nat) :
    (toSign negative).apply m = signedBy negative m := by
  cases negative <;> rfl

/-- A canonical number below the bound of all floats has an exponent in range. -/
theorem exponent_le_of_lt {k : Int} (hc : IsCanonical m k) (hlt : (m : ℚ) * 2 ^ k < 2 ^ 1024) :
    k ≤ 971 := by
  rcases hc.normal with hlow | hleast
  · by_contra! hlarge
    have hpower : (2 : ℚ) ^ (1024 : Int) ≤ m * 2 ^ k := by
      calc (2 : ℚ) ^ (1024 : Int) = 2 ^ (52 : Int) * 2 ^ (972 : Int) := by
            rw [← zpow_add₀ two_ne_zero]
            rfl
        _ ≤ m * 2 ^ k := by
            apply mul_le_mul
            · exact_mod_cast hlow
            · exact zpow_le_zpow_right₀ one_le_two hlarge
            · positivity
            · positivity
    exact absurd hlt (not_lt.2 (by exact_mod_cast hpower))
  · omega

/-- What is rounded to 53 binary places in range is a finite float. -/
theorem exactValue_pack_round (negative : Bool) (hn : 0 < n) (he : -1074 ≤ e)
    (hrange : (significantNat n : ℚ) * 2 ^ e < 2 ^ 1024) :
    isFinite (.ofModel (.pack (UnpackedFloat.round Format.binary64 (toSign negative) n e))) = true ∧
      exactValue (.ofModel (.pack (UnpackedFloat.round Format.binary64 (toSign negative) n e))) =
        significant (signedBy negative n) * 2 ^ e := by
  obtain ⟨m, k, hm, hround, hc, hvalue⟩ := exists_round (toSign negative) hn he
  have hk : k ≤ 971 := exponent_le_of_lt hc (hvalue ▸ hrange)
  have hparts := @parts_pack negative m k hc hk hm
  rw [hround, exactValue_of_parts hparts, significant_signedBy]
  exact ⟨isFinite_iff.2 ⟨_, _, _, hparts⟩, signedBy_mul_eq hvalue negative⟩

theorem normalize_signedBy (negative : Bool) (hn : 0 < n) :
    UnpackedFloat.normalize Format.binary64 (signedBy negative n) e .positive =
      UnpackedFloat.round Format.binary64 (toSign negative) n e := by
  cases negative with
  | false =>
    have hcompare : compare (n : Int) 0 = .gt := compare_gt_iff_gt.2 (by omega)
    change UnpackedFloat.normalize Format.binary64 (n : Int) e .positive = _
    rw [UnpackedFloat.normalize, hcompare]
    rfl
  | true =>
    have hcompare : compare (-(n : Int)) 0 = .lt := compare_lt_iff_lt.2 (by omega)
    change UnpackedFloat.normalize Format.binary64 (-(n : Int)) e .positive = _
    rw [UnpackedFloat.normalize, hcompare]
    change UnpackedFloat.round Format.binary64 .negative (- -(n : Int)).toNat e = _
    rw [Int.neg_neg, Int.toNat_natCast]
    rfl

/-- An integral multiple of the least unit is rounded to 53 binary places. -/
theorem exactValue_pack_normalize (z : Int) (he : -1074 ≤ e)
    (hrange : (significantNat z.natAbs : ℚ) * 2 ^ e < 2 ^ 1024) :
    isFinite (.ofModel (.pack (UnpackedFloat.normalize Format.binary64 z e .positive))) = true ∧
      exactValue (.ofModel (.pack (UnpackedFloat.normalize Format.binary64 z e .positive))) =
        significant z * 2 ^ e := by
  rcases Nat.eq_zero_or_pos z.natAbs with hzero | hpos
  · obtain rfl : z = 0 := Int.natAbs_eq_zero.1 hzero
    have hnormalize : UnpackedFloat.normalize Format.binary64 0 e .positive =
        .zero (toSign false) := rfl
    rw [hnormalize, isFinite, exactValue, parts_pack_zero]
    refine ⟨rfl, ?_⟩
    change ((0 : Int) : ℚ) * 2 ^ (-1074) = ((0 : Int) : ℚ) * 2 ^ e
    rw [Int.cast_zero, zero_mul, zero_mul]
  · obtain ⟨negative, hz⟩ := exists_signedBy z
    rw [hz, normalize_signedBy negative hpos]
    exact exactValue_pack_round negative hpos he hrange

/-- The sum of two floats, the second of which is not zero. Before it is rounded it is a multiple of
the finer of the two units. -/
theorem exactValue_add {x y : Float} {negative negative' : Bool} {m m' : Nat} {e e' : Int}
    (hx : parts x = .finite negative m e) (hy : parts y = .finite negative' m' e') (hm' : 0 < m')
    {z : Int} (hz : z = signedBy negative m * 2 ^ (e - min e e').toNat +
      signedBy negative' m' * 2 ^ (e' - min e e').toNat)
    (hrange : (significantNat z.natAbs : ℚ) * 2 ^ min e e' < 2 ^ 1024) :
    isFinite (x + y) = true ∧ exactValue (x + y) = significant z * 2 ^ min e e' := by
  have hleast : -1074 ≤ min e e' :=
    le_min (isCanonical_of_parts hx).1.le_exponent (isCanonical_of_parts hy).1.le_exponent
  have hadd : x + y = .ofModel (.pack (UnpackedFloat.add Format.binary64 x.toModel.unpack
    y.toModel.unpack)) := rfl
  rw [hadd, unpack_of_parts hx, unpack_of_parts hy, dif_neg (Nat.ne_of_gt hm')]
  by_cases hm : m = 0
  · obtain ⟨hc, hgreatest⟩ := isCanonical_of_parts hy
    have hz' : z = signedBy negative' m' * 2 ^ (e' - min e e').toNat := by
      have hzero : signedBy negative 0 = 0 := by cases negative <;> rfl
      rw [hz, hm, hzero, Int.zero_mul, Int.zero_add]
    have hkept : significant z = z := by
      rw [hz']
      exact significant_mul_two_pow (by rw [natAbs_signedBy]; exact Nat.le_of_lt hc.mantissa_lt) _
    have hsum : UnpackedFloat.add Format.binary64 (.zero (toSign negative))
        (.finite (toSign negative') m' e' hm') = .finite (toSign negative') m' e' hm' := rfl
    have hexponent : ((e' - min e e').toNat : Int) = e' - min e e' := by omega
    rw [dif_pos hm, hsum, isFinite, exactValue, parts_pack hc hgreatest hm', hkept, hz']
    refine ⟨rfl, ?_⟩
    rw [Parts.value, Int.cast_mul, Int.cast_pow, Int.cast_ofNat, mul_assoc, ← zpow_natCast,
      hexponent, ← zpow_add₀ two_ne_zero, Int.sub_add_cancel]
  · rw [dif_neg hm]
    have hsum : UnpackedFloat.add Format.binary64
        (.finite (toSign negative) m e (Nat.pos_of_ne_zero hm))
        (.finite (toSign negative') m' e' hm') =
          UnpackedFloat.normalize Format.binary64 z (min e e') .positive := by
      simp only [UnpackedFloat.add, decreaseExponent, Nat.shiftLeft_eq, apply_toSign,
        signedBy_mul_two_pow, ← hz]
    rw [hsum]
    exact exactValue_pack_normalize z hleast hrange

end Harvest.Number
