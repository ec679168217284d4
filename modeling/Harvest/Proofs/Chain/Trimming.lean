import Harvest.Page
import Harvest.Proofs.Chain.Staging
import Harvest.Proofs.Descriptor.Binding
import Harvest.Proofs.Number.LeadingInteger
import Harvest.Proofs.Registry.Standard

/-!
# Reading an integer, trimmed or not

The integer that is read from a text depends on the digits behind its leading blanks and its sign
only. So a chain that trims before it reads an integer does on every value what reading alone does.
-/

namespace Harvest.Chain

open Number Text

variable {ν : Type}

theorem toInt_trim (t : Text) :
    Standard.toInt (.text (trim t) : Value ν) = Standard.toInt (.text t) := by
  rw [Standard.toInt, Standard.onText, Standard.onText, leadingInteger_trim]

/-- The chain that reads an integer. -/
def readInteger : Chain ν := ⟨[(.byName "to-int".toList, guarded (.only .text) Standard.toInt)]⟩

/-- The chain that trims a text and reads an integer from it. -/
def readTrimmed : Chain ν := ⟨[
  (.byName "trim".toList, guarded (.only .text) Standard.trim),
  (.byName "to-int".toList, guarded (.only .text) Standard.toInt)]⟩

/-- A value of another kind is declined by reading as it is by trimming. -/
theorem run_readTrimmed (v : Value ν) : readTrimmed.run v = readInteger.run v := by
  cases v with
  | text t =>
    change (Standard.toInt (.text (trim t)) >>= pure : Outcome ν (Value ν)) =
      (Standard.toInt (.text t) >>= pure)
    rw [toInt_trim]
  | _ => rfl

variable [Host ν]

theorem resolve_readInteger (doc : Document ν) :
    resolve (["to-int".toList].map .text) .standard doc = .ok readInteger :=
  resolve_eq_ok_iff.2 (.cons (resolveElement_standard 6 rfl doc) .nil)

theorem resolve_readTrimmed (doc : Document ν) :
    resolve (["trim".toList, "to-int".toList].map .text) .standard doc = .ok readTrimmed :=
  resolve_eq_ok_iff.2 (.cons (resolveElement_standard 12 rfl doc)
    (.cons (resolveElement_standard 6 rfl doc) .nil))

/-- A text parts in one way into all the blanks it starts with, at most one sign, all the digits
behind that and a rest. The integer read from it is the signed value of the digits in base ten:
there is none without digits, and too many of them are a failure, whatever the rest is. A search
with backtracking finds the same sign and digits. Trimming before makes no difference, neither to
the integer nor to a chain that reads it. -/
theorem integers_read_trimmed (names : CharacterNames) (doc : Document ν) :
    (∀ t, ∃! p : Text × Text × Text × Text, Parting t p.1 p.2.1 p.2.2.1 p.2.2.2) ∧
      (∀ t w sign ds r, Parting t w sign ds r → leadingInteger t =
        if ds = [] then .ok none
        else if ds.length ≤ digitLimit then
          .ok (some (withSign sign (Nat.ofDigits 10 (digitValues ds).reverse)))
        else .error ds.length) ∧
      (∃ form, Pattern.read names "/\\s*([+-]?\\d+)/y" = .ok form ∧
        ∀ t w sign ds r, Parting t w sign ds r → form.match? t =
          if ds = [] then none else some [some (w ++ (sign ++ ds)), some (sign ++ ds)]) ∧
      (∀ t, leadingInteger (trim t) = leadingInteger t) ∧
      ∃ trimmed whole, resolve (["trim".toList, "to-int".toList].map .text) .standard doc =
          .ok trimmed ∧
        resolve (["to-int".toList].map .text) .standard doc = .ok whole ∧
        ∀ v : Value ν, trimmed.run v = whole.run v := by
  refine ⟨fun t => ?_, fun t w sign ds r h => h.leadingInteger_eq,
    ⟨leadingForm, read_leadingForm names, fun t w sign ds r h => h.match?_leadingForm⟩,
    leadingInteger_trim, ?_⟩
  · obtain ⟨w, sign, ds, r, h⟩ := exists_parting t
    refine ⟨(w, sign, ds, r), h, fun p hp => ?_⟩
    obtain ⟨hw, hsign, hds, hr⟩ := h.unique hp
    exact Prod.ext hw (Prod.ext hsign (Prod.ext hds hr))
  · exact ⟨readTrimmed, readInteger, resolve_readTrimmed doc, resolve_readInteger doc,
      run_readTrimmed⟩

/-- Digits of two scripts behind blanks and a sign. -/
theorem leadingInteger_of_mixed_digits :
    Parting " \t-٤2px " " \t" "-" "٤2" "px " ∧ leadingInteger " \t-٤2px " = .ok (some (-42)) ∧
      ∃ form, Pattern.read .empty "/\\s*([+-]?\\d+)/y" = .ok form ∧
        form.match? " \t-٤2px " = some [some " \t-٤2".toList, some "-٤2".toList] := by
  have hblank : " \t".toList.all isBlank = true := rfl
  have hdigits : "٤2".toList.all isDigit = true := rfl
  have hparting : Parting " \t-٤2px " " \t" "-" "٤2" "px " := by
    refine ⟨by decide, List.all_eq_true.1 hblank, ?_, .inr (.inr rfl), nofun,
      List.all_eq_true.1 hdigits, ?_⟩
    · rintro c ⟨⟩
      rfl
    · rintro c ⟨⟩
      rfl
  obtain ⟨-, hread, ⟨form, hform, hmatch⟩, -⟩ := integers_read_trimmed .empty Page.document
  refine ⟨hparting, ?_, form, hform, hmatch _ _ _ _ _ hparting⟩
  rw [hread _ _ _ _ _ hparting]
  rfl

end Harvest.Chain
