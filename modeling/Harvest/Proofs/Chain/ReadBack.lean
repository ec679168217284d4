import Harvest.Page
import Harvest.Proofs.Chain.Staging
import Harvest.Proofs.Descriptor.Binding
import Harvest.Proofs.Number.Numeral
import Harvest.Proofs.Registry.Standard

/-!
# Reading back what was written

A number is read back whole from its text. An integer within the digit limit comes back as itself,
also from between blanks and anything that is not a digit. What is converted of the text of a float
is all of it.
-/

namespace Harvest.Chain

open Number Text

variable {ν : Type} [Host ν]

/-- The chain that writes a value and reads an integer from its text. -/
def readBack : Chain ν := ⟨[
  (.byName "to-string".toList, guarded .any Standard.toString),
  (.byName "to-int".toList, guarded (.only .text) Standard.toInt)]⟩

theorem resolve_readBack (doc : Document ν) :
    resolve (["to-string".toList, "to-int".toList].map .text) .standard doc = .ok readBack :=
  resolve_eq_ok_iff.2 (.cons (resolveElement_standard 11 rfl doc)
    (.cons (resolveElement_standard 6 rfl doc) .nil))

theorem run_readBack {v : Value ν} {t : Text} {n : Int} (hwritten : v.toText = some t)
    (hread : leadingInteger t = .ok (some n)) : readBack.run v = pure (.int n) := by
  have hstring : guarded .any Standard.toString v = pure (.text t) := by
    change Standard.toString v = _
    rw [Standard.toString, hwritten]
    rfl
  have hint : guarded (.only .text) Standard.toInt (.text t : Value ν) = pure (.int n) := by
    change Standard.toInt (.text t) = _
    simp only [Standard.toInt, Standard.onText, hread]
  change (guarded .any Standard.toString v >>= fun w => guarded (.only .text) Standard.toInt w >>=
    fun u => pure u) = _
  rw [hstring, pure_bind, hint, pure_bind]

/-- What is written of an integer within the digit limit or of a float is one number as a whole. The
integer is read back from it, whatever blanks stand before it and whatever follows that is not a
digit, so that writing and reading change nothing. -/
theorem numbers_read_back (doc : Document ν) :
    resolve (["to-string".toList, "to-int".toList].map .text) .standard doc = .ok readBack ∧
      (∀ n : Int, n.natAbs < 10 ^ digitLimit →
        readBack.run (.int n : Value ν) = pure (.int n) ∧
        ∃ t, (.int n : Value ν).toText = some t ∧ numberText t = some t ∧
          ∀ w s : Text, (∀ c ∈ w, isBlank c = true) → (∀ c ∈ s.head?, isDigit c = false) →
            leadingInteger (w ++ t ++ s) = .ok (some n)) ∧
      ∀ x : Float, parts x ≠ .nan →
        ∃ t, (.float x : Value ν).toText = some t ∧ numberText t = some t := by
  refine ⟨resolve_readBack doc, fun n hn => ?_, fun x hx => ?_⟩
  · have hwritten : (.int n : Value ν).toText =
        some (signed (decide (n < 0)) (decimalDigits n.natAbs)) := by
      rw [Value.toText, intText?_of_lt hn]
    have hread := leadingInteger_append hn (w := []) (s := []) nofun nofun
    rw [List.nil_append, List.append_nil] at hread
    exact ⟨run_readBack hwritten hread, _, hwritten,
      numberText_of_mem (signed_decimalDigits_mem _ _),
      fun w s hw hs => leadingInteger_append hn hw hs⟩
  · exact ⟨Value.floatToText x, by rw [Value.toText],
      numberText_of_mem (floatToText_mem_decimals hx)⟩

/-- A length in pixels. -/
theorem length_read_back :
    readBack.run (.int (-42) : Value Markup.Cursor) = pure (.int (-42)) ∧
      ∃ t, (.int (-42) : Value Markup.Cursor).toText = some t ∧
        leadingInteger (" ".toList ++ t ++ "px".toList) = .ok (some (-42)) := by
  obtain ⟨-, hint, -⟩ := numbers_read_back Page.document
  have hsmall : (-42 : Int).natAbs < 10 ^ digitLimit := by
    have : 10 ^ 2 ≤ 10 ^ digitLimit := Nat.pow_le_pow_right (by decide) (by decide)
    omega
  obtain ⟨hrun, t, ht, -, hread⟩ := hint (-42) hsmall
  have hblank : ∀ c ∈ " ".toList, isBlank c = true := List.all_iff_forall_prop.1 (by decide)
  have hunit : ∀ c ∈ "px".toList.head?, isDigit c = false := by
    rintro c ⟨⟩
    decide
  exact ⟨hrun, t, ht, hread _ _ hblank hunit⟩

end Harvest.Chain
