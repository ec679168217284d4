import Harvest.Proofs.Descriptor.Decoding
import Harvest.Proofs.Number.Numeral

/-!
# Calling standard factories

A factory of the standard set is called with values as they are, or with the texts that a descriptor
has behind its name. Arguments that fit its parameters reach it unchanged either way when no text
among them is empty or has a colon, so that the same step is made of them. Colons for parameters
without an argument change nothing. An integer can be given as itself or by a numeral.
-/

namespace Harvest

variable {ν : Type}

namespace Signature

/-- Arguments that can be written in a descriptor if they are texts. -/
structure Writable (s : Signature) (args : List (Value ν)) : Prop where
  enough : max s.requiredCount 1 ≤ args.length
  fits : args.length ≤ s.arity
  texts : ∀ t, .text t ∈ args → t ≠ [] ∧ ':' ∉ t

namespace Writable

variable {s : Signature} {args : List (Value ν)} {ts : List Text}

theorem isEmptyText_of_mem (h : s.Writable args) {v : Value ν} (hv : v ∈ args) :
    v.isEmptyText = false := by
  cases v with
  | text t =>
    cases t with
    | nil => exact absurd rfl (h.texts [] hv).1
    | cons c t => rfl
  | _ => rfl

theorem of_mem (h : s.Writable (ts.map (Value.text : Text → Value ν))) {t : Text} (ht : t ∈ ts) :
    t ≠ [] ∧ ':' ∉ t :=
  h.texts t (List.mem_map_of_mem ht)

theorem spells (h : s.Writable (ts.map (Value.text : Text → Value ν))) : s.Spells ts where
  enough := by simpa only [List.length_map] using h.enough
  fits := by simpa only [List.length_map] using h.fits
  uncut _ ht := (h.of_mem (List.mem_of_mem_tail ht)).2
  ended _ hlast := (h.of_mem (List.mem_of_getLast? hlast)).1 rfl

end Writable

end Signature

namespace Standard

open Number

/-- The values that are read as an integer: the integer itself and its numerals. -/
inductive Denotes (n : Int) : Value ν → Prop
  | int : Denotes n (.int n)
  | text {t : Text} (h : Spaced n t) : Denotes n (.text t)

variable {n : Int} {v : Value ν}

theorem Denotes.of_text {t : Text} (h : Denotes n (.text t : Value ν)) : t ≠ [] ∧ ':' ∉ t := by
  cases h with
  | text h => exact ⟨h.ne_nil, h.separator_not_mem⟩

theorem Denotes.writable (h : Denotes n v) (parameter : Text) :
    Signature.Writable [required parameter] [v] where
  enough := Nat.le_refl 1
  fits := Nat.le_refl 1
  texts t ht := by
    obtain rfl := List.mem_singleton.1 ht
    exact h.of_text

variable [Host ν]

theorem intArgument_of_denotes (h : Denotes n v) (parameter : Text) :
    intArgument parameter v = .ok n := by
  cases h with
  | int => rfl
  | text h => simp only [intArgument, Value.plain, Value.written, h.leadingInteger_eq]

theorem numberArgument_of_denotes (h : Denotes n v) (parameter : Text) :
    numberArgument parameter v = .ok (.int n) := by
  cases h with
  | int => rfl
  | text h => simp only [numberArgument, Value.plain, Value.written, h.integer?_eq]

/-- The standard transformation of this name is this step when it is given these arguments. When
these are texts, so is every element of a chain that has them behind the name, be it with or without
colons for the parameters left over. -/
def Makes (doc : Document ν) (name : Text) (args : List (Value ν)) (step : Step ν) : Prop :=
  ∃ e, (Registry.standard : Registry ν).get? name = some e ∧ e.bind args doc = .ok step ∧
    ∀ ts colons, args = ts.map .text → colons = 0 ∨ ts.length + colons ≤ e.parameters.length →
      ∃ d, Chain.resolveElement (.text (Descriptor.encode name ts colons)) .standard doc =
        .ok (d, step)

theorem makes_of_writable (i : Nat) {name description : Text} {accepts : Accepts}
    {usesDocument : Bool} {s : Signature}
    {make : List (Value ν) → Except (Objection ν) (Document ν → Step ν)}
    (he : entries[i]? = some (entry name accepts usesDocument description (.factory s make)))
    (hs : s.Positional) (harity : s.arity = s.length) {args : List (Value ν)}
    (hargs : s.Writable args) (run : Document ν → Step ν) (hmake : make args = .ok run)
    (doc : Document ν) : Makes doc name args (guarded accepts (run doc)) := by
  have hget := Registry.get?_standard (List.mem_of_getElem? he)
  refine ⟨_, hget, ?_, fun ts colons hts hcolons => ?_⟩
  · exact Entry.bind_of_fits rfl hs (Nat.max_le.1 hargs.enough).1 hargs.fits
      (fun _ v hv => hargs.isEmptyText_of_mem (List.mem_of_getLast? hv)) run hmake doc
  · subst hts
    have hspells := hargs.spells
    obtain ⟨first, others, rfl⟩ : ∃ first others, ts = first :: others :=
      List.exists_cons_of_ne_nil (List.ne_nil_of_length_pos (Nat.max_le.1 hspells.enough).2)
    obtain ⟨hne, huncut⟩ := hargs.of_mem (List.mem_cons_self (a := first))
    have hroom : (first :: others).length + colons ≤ s.arity := by
      rcases hcolons with rfl | hcolons
      · exact hspells.fits
      · rw [harity]
        exact hcolons.trans_eq (List.length_map _)
    have hcalled := Descriptor.resolveElement_encode true [.load] doc hget rfl hs hspells
      (.inr ⟨huncut, hroom⟩) (.inr (.inr ⟨first, List.mem_cons_self, hne⟩))
    rw [Descriptor.called, Entry.made, hmake] at hcalled
    exact ⟨_, hcalled⟩

end Standard

end Harvest
