import Harvest.Proofs.Chain.Standard
import Harvest.Proofs.Number.Nearest
import Harvest.Proofs.Number.Overshoot

/-!
# What rounding gives

Every finite float is rounded to the nearest integer, halves up, but for the numbers that come out
one too high. An integer is rounded as the float nearest to it, so it keeps 53 binary places, and an
integer that no finite float is near to is not rounded at all. A result is kept when it is rounded
again.
-/

namespace Harvest.Standard

open Number

variable {ν : Type}

theorem roundFloat_eq {x : Float} (hx : isFinite x = true) :
    ∃ k : Int, (roundFloat x : Value ν) = .int k ∧
      k = ⌊exactValue x + 1 / 2⌋ + overshoot (exactValue x) ∧ IsSettled k := by
  obtain ⟨k, hfloor, hk⟩ := floor?_add_half hx
  refine ⟨k, ?_, hk⟩
  rw [roundFloat, if_pos hx, hfloor]

theorem roundFloat_of_not_isFinite {x : Float} (hx : isFinite x = false) :
    (roundFloat x : Value ν) = .float x := by
  rw [roundFloat, hx, if_neg Bool.false_ne_true]

theorem round_int_of_lt {n : Int} (hn : n.natAbs < overflowBound) :
    ∃ k : Int, (round (.int n) : Outcome ν (Value ν)) = pure (.int k) ∧
      k = significant n + overshoot (significant n) ∧ IsSettled k := by
  cases hfloat : ofInt? n with
  | none => exact absurd ((ofInt?_eq_none_iff n).1 hfloat) (Nat.not_le.2 hn)
  | some x =>
    obtain ⟨hx, hvalue⟩ := exactValue_of_ofInt? hfloat
    obtain ⟨k, hround, hk, hsettled⟩ := @roundFloat_eq ν x hx
    have hfloor : ⌊(significant n : ℚ) + 1 / 2⌋ = significant n := by
      rw [Int.floor_intCast_add]
      norm_num
    rw [hvalue, hfloor] at hk
    refine ⟨k, ?_, hk, hsettled⟩
    rw [round, hfloat, ← hround]

theorem round_int_of_large {n : Int} (hn : overflowBound ≤ n.natAbs) :
    (round (.int n) : Outcome ν (Value ν)) = .fail .intTooLarge := by
  rw [round, (ofInt?_eq_none_iff n).2 hn]

theorem round_int_of_isSettled {k : Int} (hk : IsSettled k) :
    (round (.int k) : Outcome ν (Value ν)) = pure (.int k) := by
  obtain ⟨k', hround, hk', -⟩ := @round_int_of_lt ν k hk.lt_bound
  rw [hk.significant_eq, hk.overshoot_eq, Int.add_zero] at hk'
  rw [hround, hk']

end Harvest.Standard

namespace Harvest.Chain

open Number

variable {ν : Type}

theorem run_rounding_number {v : Value ν} (hv : v.kind = .number) :
    rounding.run v = Standard.round v := by
  have hguard : guarded (.only .number) Standard.round v = Standard.round v := by
    simp only [guarded, hv, reduceCtorEq, and_self, if_false, if_true]
  change guarded (.only .number) Standard.round v >>= (fun u => pure u) = _
  rw [hguard, bind_pure]

theorem run_rounding_other {v : Value ν} (hv : v.kind ≠ .number) :
    rounding.run v = pure Value.inapplicable := by
  have hguard : guarded (.only .number) Standard.round v = pure Value.inapplicable := by
    simp only [guarded, hv, reduceCtorEq, false_and, if_false]
  change guarded (.only .number) Standard.round v >>= (fun u => pure u) = _
  rw [hguard, bind_pure]

theorem run_rounding_of_isSettled {k : Int} (hk : IsSettled k) :
    rounding.run (.int k : Value ν) = pure (.int k) :=
  (run_rounding_number rfl).trans (Standard.round_int_of_isSettled hk)

theorem run_rounding_of_result {v w : Value ν} (h : (rounding.run v).result = .ok w) :
    rounding.run w = pure w := by
  by_cases hv : v.kind = .number
  · rw [run_rounding_number hv] at h
    cases v with
    | int n =>
      by_cases hn : n.natAbs < overflowBound
      · obtain ⟨k, hround, -, hk⟩ := @Standard.round_int_of_lt ν n hn
        rw [hround] at h
        cases h
        exact run_rounding_of_isSettled hk
      · rw [Standard.round_int_of_large (Nat.not_lt.1 hn)] at h
        cases h
    | float x =>
      have hround : Standard.round (.float x : Value ν) = pure (Standard.roundFloat x) := rfl
      rw [hround] at h
      obtain rfl : Standard.roundFloat x = w := Except.ok.inj h
      cases hx : isFinite x with
      | true =>
        obtain ⟨k, hroundFloat, -, hk⟩ := @Standard.roundFloat_eq ν x hx
        rw [hroundFloat]
        exact run_rounding_of_isSettled hk
      | false =>
        rw [Standard.roundFloat_of_not_isFinite hx, run_rounding_number rfl, hround,
          Standard.roundFloat_of_not_isFinite hx]
    | _ => cases hv
  · rw [run_rounding_other hv] at h
    cases h
    exact run_rounding_other Kind.noConfusion

/-- Finite floats are rounded to the nearest integer, halves up, but for the overshoot, and integers
in range as the floats nearest to them. The integers that are kept are the settled ones, and a
result is kept. -/
theorem run_rounding [Host ν] (doc : Document ν) :
    resolve (["round".toList].map .text) .standard doc = .ok rounding ∧
      (∀ x : Float, isFinite x = true → rounding.run (.float x : Value ν) =
        pure (.int (⌊exactValue x + 1 / 2⌋ + overshoot (exactValue x)))) ∧
      (∀ n : Int, n.natAbs < overflowBound → rounding.run (.int n : Value ν) =
        pure (.int (significant n + overshoot (significant n)))) ∧
      (∀ n : Int, overflowBound ≤ n.natAbs →
        rounding.run (.int n : Value ν) = .fail .intTooLarge) ∧
      (∀ n : Int, rounding.run (.int n : Value ν) = pure (.int n) ↔ IsSettled n) ∧
      ∀ v w : Value ν, (rounding.run v).result = .ok w → rounding.run w = pure w := by
  have hlarge : ∀ n : Int, overflowBound ≤ n.natAbs →
      rounding.run (.int n : Value ν) = .fail .intTooLarge := fun n hn =>
    (run_rounding_number rfl).trans (Standard.round_int_of_large hn)
  refine ⟨resolve_rounding doc, ?_, ?_, hlarge, ?_, fun v w => run_rounding_of_result⟩
  · intro x hx
    obtain ⟨k, hround, rfl, -⟩ := @Standard.roundFloat_eq ν x hx
    rw [run_rounding_number rfl, Standard.round, hround]
  · intro n hn
    obtain ⟨k, hround, rfl, -⟩ := @Standard.round_int_of_lt ν n hn
    rw [run_rounding_number rfl, hround]
  · intro n
    refine ⟨fun h => ?_, run_rounding_of_isSettled⟩
    by_cases hn : n.natAbs < overflowBound
    · obtain ⟨k, hround, -, hk⟩ := @Standard.round_int_of_lt ν n hn
      rw [run_rounding_number rfl, hround] at h
      cases h
      exact hk
    · rw [hlarge n (Nat.not_lt.1 hn)] at h
      cases h

/-- Two and a half goes up, and so does an odd integer where it should be kept. -/
theorem run_rounding_five_halves :
    rounding.run (.float 2.5 : Value Markup.Cursor) = pure (.int 3) ∧
      rounding.run (.int (2 ^ 52 + 1) : Value Markup.Cursor) = pure (.int (2 ^ 52 + 2)) ∧
      rounding.run (.int (2 ^ 52 + 2) : Value Markup.Cursor) = pure (.int (2 ^ 52 + 2)) := by
  obtain ⟨-, hfloat, hint, -, -, hkept⟩ := run_rounding Page.document
  have hparts : parts 2.5 = .finite false (5 * 2 ^ 50) (-51) := by decide +kernel
  have hvalue : exactValue 2.5 = 5 / 2 := by
    rw [exactValue_of_parts hparts, signedBy_false]
    norm_num
  have hover : overshoot (5 / 2) = 0 := by
    rw [overshoot_of_abs_lt (by norm_num [abs_of_pos]), if_neg (by norm_num)]
  have hfirst := hfloat 2.5 (isFinite_iff.2 ⟨_, _, _, hparts⟩)
  have hsecond := hint (2 ^ 52 + 1) (by decide +kernel)
  have hplaces : significant (2 ^ 52 + 1) = 2 ^ 52 + 1 := by decide +kernel
  have hodd : overshoot ((2 ^ 52 + 1 : Int) : ℚ) = 1 := by
    rw [overshoot_intCast, if_pos (by decide +kernel)]
  have hfloor : ⌊(5 / 2 + 1 / 2 : ℚ)⌋ = 3 := by norm_num
  rw [hvalue, hover, hfloor] at hfirst
  rw [hplaces, hodd] at hsecond
  refine ⟨hfirst, hsecond, hkept _ _ (congrArg Outcome.result hsecond)⟩

/-- The greatest number below one half is rounded to one. -/
theorem rounding_not_exact :
    ¬ ((∀ x : Float, isFinite x = true →
        rounding.run (.float x : Value Markup.Cursor) = pure (.int ⌊exactValue x + 1 / 2⌋)) ∧
      ∀ n : Int, rounding.run (.int n : Value Markup.Cursor) = pure (.int n)) := by
  rintro ⟨h, -⟩
  obtain ⟨x, hx⟩ : ∃ x, x = Float.ofBits 0x3fdfffffffffffff := ⟨_, rfl⟩
  have hparts : parts x = .finite false (2 ^ 53 - 1) (-54) := by
    rw [hx]
    decide +kernel
  have hfinite : isFinite x = true := isFinite_iff.2 ⟨_, _, _, hparts⟩
  have hsum : floor? (x + 0.5) = some 1 := by
    rw [hx]
    decide +kernel
  have hvalue : ⌊exactValue x + 1 / 2⌋ = 0 := by
    rw [exactValue_of_parts hparts, signedBy_false]
    norm_num
  have hround := h x hfinite
  rw [run_rounding_number rfl, Standard.round, Standard.roundFloat, if_pos hfinite, hsum,
    hvalue] at hround
  cases hround

end Harvest.Chain
