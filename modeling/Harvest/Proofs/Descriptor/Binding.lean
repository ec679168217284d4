import Harvest.Chain
import Harvest.Proofs.Registry.Names
import Harvest.Proofs.Signature.Fitting
import Harvest.Proofs.Signature.Folding
import Harvest.Proofs.Traversal

/-!
# What a text resolves to

A text that resolves calls an entry of the registry with texts as arguments. A plain transformation
is called without any; a factory is called with what they fold to, and makes its transformation from
that. What is run in the end is guarded by the kind that the entry declares.
-/

namespace Harvest

variable {ν : Type}

/-- The name and the arguments with which a descriptor calls a registered transformation. -/
def Descriptor.call? : Descriptor ν → Option (Text × List Text)
  | .byName name => some (name, [])
  | .byNameWithArgs name args => some (name, args)
  | .inline _ => none

variable [Host ν]

namespace Entry

variable {e : Entry ν} {doc : Document ν} {step : Step ν}

theorem bind_plain_eq_ok {run : Document ν → Step ν} (he : e.form = .plain run)
    {args : List (Value ν)} (h : e.bind args doc = .ok step) :
    args = [] ∧ step = guarded e.accepts (run doc) := by
  rw [bind, instantiate, he] at h
  cases args with
  | nil =>
    cases h
    exact ⟨rfl, rfl⟩
  | cons a args => cases h

/-- Pieces that fold to arguments that fit call the factory with these arguments. -/
theorem instantiate_of_fold {s : Signature}
    {make : List (Value ν) → Except (Objection ν) (Document ν → Step ν)}
    (he : e.form = .factory s make) {pieces args : List (Value ν)}
    (hfold : s.fold pieces = .ok args)
    (hfits : s.mismatch? args.length = none) : e.instantiate pieces = e.made make args := by
  rw [instantiate, he]
  simp only [hfold, Except.bind, hfits]

/-- Arguments that do not fit are refused by their number alone. -/
theorem instantiate_of_mismatch {s : Signature}
    {make : List (Value ν) → Except (Objection ν) (Document ν → Step ν)}
    (he : e.form = .factory s make) {pieces args : List (Value ν)}
    (hfold : s.fold pieces = .ok args)
    {reason : Refusal} (hmismatch : s.mismatch? args.length = some reason) :
    e.instantiate pieces = .error (.rejected e.name args reason) := by
  rw [instantiate, he]
  simp only [hfold, Except.bind, hmismatch]

/-- A factory makes its step of the very arguments that it is bound to when they fit and the last of
them is not empty where it could be left out. -/
theorem bind_of_fits {s : Signature}
    {make : List (Value ν) → Except (Objection ν) (Document ν → Step ν)}
    (he : e.form = .factory s make) (hs : s.Positional) {args : List (Value ν)}
    (henough : s.requiredCount ≤ args.length) (hfits : args.length ≤ s.arity)
    (hlast : max s.requiredCount 1 < args.length →
      ∀ v, args.getLast? = some v → v.isEmptyText = false)
    (run : Document ν → Step ν) (hmake : make args = .ok run) (doc : Document ν) :
    e.bind args doc = .ok (guarded e.accepts (run doc)) := by
  have hmade : e.made make args = .ok run := by rw [made, hmake]
  rw [bind, instantiate_of_fold he (Signature.fold_eq_self hfits hlast)
    (Signature.mismatch?_eq_none hs henough hfits), hmade]
  rfl

theorem made_eq_ok {make : List (Value ν) → Except (Objection ν) (Document ν → Step ν)}
    {args : List (Value ν)} {run : Document ν → Step ν} (h : e.made make args = .ok run) :
    make args = .ok run := by
  rw [made] at h
  cases hmake : make args with
  | ok made =>
    rw [hmake] at h
    cases h
    rfl
  | error o =>
    rw [hmake] at h
    cases o <;> cases h

theorem bind_factory_eq_ok {s : Signature}
    {make : List (Value ν) → Except (Objection ν) (Document ν → Step ν)}
    (he : e.form = .factory s make) {args : List (Value ν)} (h : e.bind args doc = .ok step) :
    ∃ folded run, s.fold args = .ok folded ∧ s.mismatch? folded.length = none ∧
      make folded = .ok run ∧ step = guarded e.accepts (run doc) := by
  obtain ⟨run, hrun, hstep⟩ := map_eq_ok_iff.1 h
  rw [instantiate, he] at hrun
  obtain ⟨folded, hfold, hmade⟩ := bind_eq_ok_iff.1 hrun
  cases hfits : s.mismatch? folded.length with
  | some reason =>
    rw [hfits] at hmade
    cases hmade
  | none =>
    rw [hfits] at hmade
    exact ⟨folded, run, hfold, hfits, made_eq_ok hmade, hstep.symm⟩

/-- Texts fold to texts, so that a factory only ever sees texts. -/
theorem exists_of_bind_texts {s : Signature}
    {make : List (Value ν) → Except (Objection ν) (Document ν → Step ν)}
    (he : e.form = .factory s make) {args : List Text}
    (h : e.bind (args.map .text) doc = .ok step) :
    ∃ (folded : List Text) (run : Document ν → Step ν),
      make (folded.map .text) = .ok run ∧ step = guarded e.accepts (run doc) := by
  obtain ⟨values, run, hvalues, -, hrun, hstep⟩ := bind_factory_eq_ok he h
  obtain ⟨folded, hfolded⟩ := Signature.exists_fold_map_text (ν := ν) s args
  rw [hfolded] at hvalues
  cases hvalues
  exact ⟨folded, run, hrun, hstep⟩

/-- A factory of one required argument sees all that stands behind the first colon as one text. -/
theorem exists_of_bind_single {s : Signature}
    {make : List (Value ν) → Except (Objection ν) (Document ν → Step ν)}
    {args : List Text} (h : e.bind (args.map .text) doc = .ok step) (he : e.form = .factory s make)
    (hrest : s.hasRest = false) (harity : s.arity = 1) (hrequired : s.mismatch? 0 ≠ none) :
    ∃ run : Document ν → Step ν,
      make [.text (Text.join [':'] args)] = .ok run ∧ step = guarded e.accepts (run doc) := by
  obtain ⟨values, run, hvalues, hfits, hrun, hstep⟩ := bind_factory_eq_ok he h
  have hargs : args ≠ [] := by
    rintro rfl
    rw [List.map_nil, Signature.fold_nil] at hvalues
    cases hvalues
    exact hrequired hfits
  rw [Signature.fold_of_arity_eq_one hrest harity hargs] at hvalues
  cases hvalues
  exact ⟨run, hrun, hstep⟩

end Entry

namespace Chain

/-- A text that resolves calls an entry: without arguments when it is the name itself, and otherwise
with the pieces after the first colon. -/
theorem exists_of_resolveElement_text {r : Registry ν} {doc : Document ν} {t : Text}
    {d : Descriptor ν} {step : Step ν} (h : resolveElement (.text t) r doc = .ok (d, step)) :
    ∃ e args, r.get? e.name = some e ∧ d.call? = some (e.name, args) ∧
      e.bind (args.map .text) doc = .ok step := by
  obtain ⟨d', hparse, hbind⟩ := bind_eq_ok_iff.1 h
  obtain ⟨step', hstep, hpair⟩ := bind_eq_ok_iff.1 hbind
  cases hpair
  have hcall : ∃ name args, d.call? = some (name, args) ∧
      Descriptor.bindEntry name args r doc = .ok step := by
    rw [Descriptor.parse] at hparse
    split at hparse
    · cases hparse
      exact ⟨t, [], rfl, hstep⟩
    · split at hparse
      · simp only at hparse
        split at hparse
        · cases hparse
          exact ⟨_, _, rfl, hstep⟩
        · cases hparse
      · cases hparse
  obtain ⟨name, args, hcall, hentry⟩ := hcall
  rw [Descriptor.bindEntry] at hentry
  cases hget : r.get? name with
  | none =>
    rw [hget] at hentry
    cases hentry
  | some e =>
    rw [hget] at hentry
    have hname := Registry.name_of_get? hget
    exact ⟨e, args, by rw [hname, hget], by rw [hname, hcall], hentry⟩

/-- A text that is a name calls its entry without arguments. -/
theorem resolveElement_of_get? {r : Registry ν} {t : Text} {e : Entry ν} (h : r.get? t = some e)
    (doc : Document ν) : resolveElement (.text t) r doc =
      (e.bind [] doc).map fun step => (.byName t, step) := by
  have hparse : Descriptor.parse (.text t) r = .ok (.byName t) := by
    rw [Descriptor.parse, Registry.holds, h]
    rfl
  rw [resolveElement, hparse]
  change (Descriptor.bindEntry t [] r doc).bind _ = _
  rw [Descriptor.bindEntry, h]
  change (e.bind [] doc).bind _ = _
  cases e.bind [] doc <;> rfl

/-- The name of a standard transformation without arguments resolves to its guarded step. -/
theorem resolveElement_standard (i : Nat) {name description : Text} {accepts : Accepts}
    {usesDocument : Bool} {run : Document ν → Step ν}
    (h : (Standard.entries : List (Entry ν))[i]? =
      some (Standard.entry name accepts usesDocument description (.plain run)))
    (doc : Document ν) : resolveElement (.text name) .standard doc =
      .ok (.byName name, guarded accepts (run doc)) :=
  resolveElement_of_get? (Registry.get?_standard (List.mem_of_getElem? h)) doc

/-- A text with a colon that is not itself a name is cut at its colons, and binding it cuts it in
the same way. -/
theorem resolveElement_of_separator {r : Registry ν} {t : Text} (hnone : r.get? t = none)
    (ht : ':' ∈ t) (doc : Document ν) : resolveElement (.text t) r doc =
      (Descriptor.bindText t r doc).map fun step =>
        (.byNameWithArgs (Descriptor.split t).1 (Descriptor.split t).2, step) := by
  have hcontains : t.contains ':' = true := by rwa [List.contains_iff_mem]
  have hparse : Descriptor.parse (.text t) r = if r.holds (Descriptor.split t).1 then
      .ok (.byNameWithArgs (Descriptor.split t).1 (Descriptor.split t).2)
      else .error (.notFound (.text (Descriptor.split t).1)) := by
    rw [Descriptor.parse, Registry.holds, hnone, if_neg (by simp), if_pos hcontains]
  rw [resolveElement, hparse, Descriptor.bindText, Descriptor.bindEntry, Registry.holds]
  cases he : r.get? (Descriptor.split t).1 with
  | none => rfl
  | some e =>
    rw [Option.isSome_some, if_pos rfl]
    change (Descriptor.bind _ r doc).bind _ = _
    rw [Descriptor.bind, Descriptor.bindEntry, he]
    change (e.bind _ doc).bind _ = (e.bind _ doc).map _
    cases e.bind ((Descriptor.split t).2.map .text) doc <;> rfl

theorem resolve_singleton (x : Element ν) (r : Registry ν) (doc : Document ν) :
    resolve [x] r doc = (resolveElement x r doc).map fun step => ⟨[step]⟩ := by
  rw [resolve, resolveSteps, resolveSteps]
  cases resolveElement x r doc <;> rfl

end Chain

end Harvest
