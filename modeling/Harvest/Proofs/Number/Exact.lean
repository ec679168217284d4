import Harvest.Proofs.Number.Significant
import Mathlib

/-!
# Floats as fractions

The bits of a float hold its sign, its exponent and its mantissa. They are read off in the same way
by floating-point operations and by the parts of a float, so a finite float can be packed and
unpacked without change.
-/

namespace Harvest.Number

open Float.Model Float.Model.UnpackedFloat

def Parts.value : Parts → ℚ
  | .finite negative m e => signedBy negative m * 2 ^ e
  | _ => 0

/-- The number that a finite float denotes. -/
def exactValue (x : Float) : ℚ := (parts x).value

/-- The mantissa has 53 binary places, or fewer in the least unit. -/
structure IsCanonical (m : Nat) (e : Int) : Prop where
  mantissa_lt : m < 2 ^ 53
  le_exponent : -1074 ≤ e
  normal : 2 ^ 52 ≤ m ∨ e = -1074

def toSign (negative : Bool) : Sign := if negative then .negative else .positive

variable {x : Float} {negative : Bool} {m : Nat} {e : Int}

/-! ### Fields of bits -/

/-- What is read off the three fields of a float. -/
def fieldParts (negative : Bool) (biased fraction : Nat) : Parts :=
  if biased = 2047 then (if fraction = 0 then .infinite negative else .nan)
  else if biased = 0 then .finite negative fraction (-1074)
  else .finite negative (unit + fraction) (biased - 1075)

theorem toNat_unpackMantissa (b : BitVec 64) :
    (@unpackMantissa Format.binary64 b).toNat = b.toNat % unit := by
  rw [unpackMantissa_def, BitVec.extractLsb'_toNat]
  rfl

theorem toNat_unpackExponent (b : BitVec 64) :
    (@unpackExponent Format.binary64 b).toNat = b.toNat / unit % 2048 := by
  rw [unpackExponent_def, BitVec.extractLsb'_toNat, Nat.shiftRight_eq_div_pow]
  rfl

theorem toNat_unpackSign (b : BitVec 64) :
    (@unpackSign Format.binary64 b).toNat = b.toNat / signBit := by
  have hlt : b.toNat / signBit < 2 := Nat.div_lt_of_lt_mul b.isLt
  rw [unpackSign_def, BitVec.extractLsb'_toNat, Nat.shiftRight_eq_div_pow]
  exact Nat.mod_eq_of_lt hlt

theorem parts_of_components {E : BitVec 11} {M : BitVec 52}
    (h : x.toBits.toBitVec = packComponents Format.binary64 (toSign negative) E M) :
    parts x = fieldParts negative E.toNat M.toNat := by
  have hmantissa := toNat_unpackMantissa x.toBits.toBitVec
  have hexponent := toNat_unpackExponent x.toBits.toBitVec
  have hsign := toNat_unpackSign x.toBits.toBitVec
  rw [h, unpackMantissa_packComponents, ← h] at hmantissa
  rw [h, unpackExponent_packComponents, ← h] at hexponent
  rw [h, unpackSign_packComponents, ← h] at hsign
  have hnegative : decide (signBit ≤ x.toBits.toNat) = negative := by
    have hpositive : 0 < signBit := by decide
    cases negative with
    | false =>
      have hzero : x.toBits.toBitVec.toNat / signBit = 0 := hsign.symm
      rw [Nat.div_eq_zero_iff_lt hpositive] at hzero
      exact decide_eq_false (Nat.not_le.2 hzero)
    | true =>
      have hone : 1 = x.toBits.toBitVec.toNat / signBit := hsign
      have hle : 1 * signBit ≤ x.toBits.toBitVec.toNat :=
        (Nat.le_div_iff_mul_le hpositive).1 (Nat.le_of_eq hone)
      rw [Nat.one_mul] at hle
      exact decide_eq_true hle
  rw [hmantissa, hexponent, ← hnegative]
  rfl

theorem exists_components (x : Float) : ∃ negative E M,
    x.toBits.toBitVec = packComponents Format.binary64 (toSign negative) E M := by
  have h := @packComponents_unpackSign_unpackExponent_unpackMantissa Format.binary64
    x.toBits.toBitVec
  cases hsign : Sign.ofBitVec (@unpackSign Format.binary64 x.toBits.toBitVec) with
  | negative =>
    rw [hsign] at h
    exact ⟨true, _, _, h.symm⟩
  | positive =>
    rw [hsign] at h
    exact ⟨false, _, _, h.symm⟩

theorem isCanonical_of_parts (h : parts x = .finite negative m e) : IsCanonical m e ∧ e ≤ 971 := by
  obtain ⟨_, E, M, hbits⟩ := exists_components x
  rw [parts_of_components hbits] at h
  have hE : E.toNat < 2048 := E.isLt
  have hM : M.toNat < unit := M.isLt
  have hunit : unit = 2 ^ 52 := rfl
  unfold fieldParts at h
  split_ifs at h
  · cases h
    exact ⟨⟨by omega, by omega, .inr rfl⟩, by omega⟩
  · cases h
    exact ⟨⟨by omega, by omega, .inl (by omega)⟩, by omega⟩

/-! ### Unpacking and packing -/

theorem toNat_one_append (M : BitVec 52) : (1#1 ++ M).toNat = unit + M.toNat := by
  rw [BitVec.toNat_append, ← Nat.shiftLeft_add_eq_or_of_lt M.isLt, Nat.shiftLeft_eq]
  rfl

theorem ne_of_toNat_ne {E : BitVec 11} (hinfinite : E.toNat ≠ 2047) (hzero : E.toNat ≠ 0) :
    E ≠ -1#11 ∧ E ≠ 0#11 := by
  constructor
  · rintro rfl
    exact hinfinite rfl
  · rintro rfl
    exact hzero rfl

/-- Operations see a finite float by its parts. -/
theorem unpack_of_parts (h : parts x = .finite negative m e) :
    x.toModel.unpack = if hm : m = 0 then .zero (toSign negative)
      else .finite (toSign negative) m e (Nat.pos_of_ne_zero hm) := by
  obtain ⟨sign, E, M, hbits⟩ := exists_components x
  rw [parts_of_components hbits] at h
  change UnpackedFloat.unpack Format.binary64 x.toBits.toBitVec = _
  rw [hbits, UnpackedFloat.unpack]
  simp only [unpackMantissa_packComponents, unpackExponent_packComponents,
    unpackSign_packComponents, Sign.ofBitVec_toBitVec]
  unfold fieldParts at h
  split_ifs at h with hinfinite hfraction hzero
  · have hE : E = 0#11 := BitVec.eq_of_toNat_eq hzero
    cases h
    subst hE
    rw [if_neg (by decide), if_pos rfl]
    by_cases hM : M = 0#52
    · subst hM
      rfl
    · have hm : M.toNat ≠ 0 := fun hm => hM (BitVec.eq_of_toNat_eq hm)
      rw [dif_neg hM, dif_neg hm]
      rfl
  · obtain ⟨hne, hne'⟩ := ne_of_toNat_ne hinfinite hzero
    cases h
    have hunit : 0 < unit := by decide
    rw [if_neg hne, if_neg hne', dif_neg (by omega)]
    exact UnpackedFloat.finite.injEq .. ▸ ⟨rfl, toNat_one_append M, rfl⟩

theorem parts_of_pack {u : UnpackedFloat} {E : BitVec 11} {M : BitVec 52}
    (h : u.pack Format.binary64 = packComponents Format.binary64 (toSign negative) E M) :
    parts (.ofModel (.pack u)) = fieldParts negative E.toNat M.toNat := by
  apply parts_of_components
  exact h

theorem parts_pack_zero (negative : Bool) :
    parts (.ofModel (.pack (.zero (toSign negative)))) = .finite negative 0 (-1074) := by
  have hpack : UnpackedFloat.pack Format.binary64 (.zero (toSign negative)) =
      packComponents Format.binary64 (toSign negative) 0#11 0#52 := rfl
  rw [parts_of_pack hpack]
  rfl

theorem fieldParts_normal (hlow : 2 ^ 52 ≤ m) (hhigh : m < 2 ^ 53) (hleast : -1074 ≤ e)
    (hgreatest : e ≤ 971) :
    fieldParts negative ((e + 1075).toNat % 2048) (m % 2 ^ 52) = .finite negative m e := by
  have hexponent : (e + 1075).toNat % 2048 = (e + 1075).toNat := Nat.mod_eq_of_lt (by omega)
  have hmantissa : unit + m % 2 ^ 52 = m := by
    have hunit : unit = 2 ^ 52 := rfl
    omega
  have hbias : ((e + 1075).toNat : Int) - 1075 = e := by omega
  rw [fieldParts, hexponent, if_neg (by omega), if_neg (by omega), hmantissa, hbias]

/-- What is packed in canonical form has the parts that it was made of. -/
theorem parts_pack (hc : IsCanonical m e) (hgreatest : e ≤ 971) (hm : 0 < m) :
    parts (.ofModel (.pack (.finite (toSign negative) m e hm))) = .finite negative m e := by
  obtain ⟨hlt, hleast, hnormal⟩ := hc
  have hbias : (e + (Format.binary64.exponentBias : Nat) + (52 : Nat) : Int) = e + 1075 := by
    change e + 1023 + 52 = _
    omega
  have hpack : UnpackedFloat.pack Format.binary64 (.finite (toSign negative) m e hm) =
      if m.log2 + 1 = 53 then packComponents Format.binary64 (toSign negative)
        (BitVec.ofNat 11 (e + 1075).toNat) (BitVec.ofNat 52 m)
      else packComponents Format.binary64 (toSign negative) 0#11 (BitVec.ofNat 52 m) := by
    simp only [UnpackedFloat.pack]
    rw [hbias, if_neg (by omega)]
    rfl
  by_cases hlow : 2 ^ 52 ≤ m
  · have hlog : m.log2 = 52 := (Nat.log2_eq_iff (by omega)).2 ⟨hlow, hlt⟩
    rw [if_pos (by rw [hlog])] at hpack
    rw [parts_of_pack hpack, BitVec.toNat_ofNat, BitVec.toNat_ofNat]
    exact fieldParts_normal hlow hlt hleast hgreatest
  · have hlog : m.log2 < 52 := (Nat.log2_lt (by omega)).2 (by omega)
    rw [if_neg (by omega)] at hpack
    have hmantissa : (BitVec.ofNat 52 m).toNat = m := by
      rw [BitVec.toNat_ofNat, Nat.mod_eq_of_lt (by omega)]
    rw [parts_of_pack hpack, hmantissa, hnormal.resolve_left hlow]
    rfl

/-! ### Values -/

theorem isFinite_iff : isFinite x = true ↔ ∃ negative m e, parts x = .finite negative m e := by
  rw [isFinite]
  cases parts x <;> simp

theorem exactValue_of_parts (h : parts x = .finite negative m e) :
    exactValue x = signedBy negative m * 2 ^ e := by
  rw [exactValue, h, Parts.value]

/-- The sign may be set on either side. -/
theorem signedBy_mul_eq {k n : Nat} {q r : ℚ} (h : (k : ℚ) * q = n * r) (negative : Bool) :
    (signedBy negative k : ℚ) * q = signedBy negative n * r := by
  cases negative with
  | false => simpa only [signedBy_false, Int.cast_natCast] using h
  | true => simpa only [signedBy_true, Int.cast_neg, Int.cast_natCast, neg_mul, neg_inj] using h

theorem floor_mul_zpow_neg (z : Int) (k : Nat) : ⌊(z : ℚ) * 2 ^ (-(k : Int))⌋ = z / 2 ^ k := by
  have hpower : (2 ^ k : ℚ) = (2 ^ k : Nat) := (Nat.cast_pow 2 k).symm
  rw [zpow_neg, zpow_natCast, ← div_eq_mul_inv, hpower, Rat.floor_intCast_div_natCast,
    Int.natCast_pow]
  rfl

theorem floorParts_eq (negative : Bool) (m : Nat) (e : Int) :
    floorParts negative m e = ⌊(signedBy negative m : ℚ) * 2 ^ e⌋ := by
  rw [floorParts, ← signedBy]
  split_ifs with he
  · obtain ⟨k, rfl⟩ := Int.eq_ofNat_of_zero_le he
    rw [Int.toNat_natCast, zpow_natCast]
    exact_mod_cast (Int.floor_intCast (signedBy negative m * 2 ^ k)).symm
  · obtain ⟨k, rfl⟩ : ∃ k : Nat, e = -k := ⟨(-e).toNat, by omega⟩
    rw [Int.neg_neg, Int.toNat_natCast, floor_mul_zpow_neg]

theorem floor?_of_isFinite (h : isFinite x = true) : floor? x = some ⌊exactValue x⌋ := by
  obtain ⟨negative, m, e, hparts⟩ := isFinite_iff.1 h
  rw [floor?, hparts, exactValue_of_parts hparts, ← floorParts_eq]

end Harvest.Number
