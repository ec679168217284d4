import Harvest.Proofs.Descriptor.Decoding

/-!
# Two ways to resolve a text with arguments

As an element of a chain a text is first tried as a name, and only then cut at its colons. Binding
it on its own cuts it at once. No registry that can be reached has a name with a colon, so the first
try never takes a text with arguments, and both ways end with the same step or the same failure.
-/

namespace Harvest

variable {ν : Type}

theorem Chain.run_singleton (d : Descriptor ν) (step : Step ν) : run ⟨[(d, step)]⟩ = step := by
  funext v
  exact bind_pure (step v)

variable [Host ν]

theorem Registry.separator_not_mem_of_holds {includesStandard : Bool} {ops : List (Operation ν)}
    {name : Text} (h : ((make includesStandard).run ops).holds name = true) : ':' ∉ name := by
  intro hseparator
  rw [holds, get?_run_of_separator includesStandard ops hseparator] at h
  cases h

namespace Descriptor

/-- In a registry that can be reached no name has a colon. So a text with a colon resolves to the
one step that binding it makes, called with the pieces that binding cuts it into, or fails as
binding it does; and the chain of this step runs as the step does. -/
theorem resolve_eq_bindText (includesStandard : Bool) (ops : List (Registry.Operation ν))
    (doc : Document ν) {t : Text} (ht : ':' ∈ t) :
    (∀ name, ((Registry.make includesStandard).run ops).holds name = true → ':' ∉ name) ∧
      Chain.resolve [.text t] ((Registry.make includesStandard).run ops) doc =
        (bindText t ((Registry.make includesStandard).run ops) doc).map
          (fun step => ⟨[(.byNameWithArgs (split t).1 (split t).2, step)]⟩) ∧
      (Chain.resolve [.text t] ((Registry.make includesStandard).run ops) doc).map Chain.run =
        bindText t ((Registry.make includesStandard).run ops) doc := by
  have hnone := Registry.get?_run_of_separator includesStandard ops ht
  have hresolve : Chain.resolve [.text t] ((Registry.make includesStandard).run ops) doc =
      (bindText t ((Registry.make includesStandard).run ops) doc).map
        fun step => ⟨[(.byNameWithArgs (split t).1 (split t).2, step)]⟩ := by
    rw [Chain.resolve_singleton, Chain.resolveElement_of_separator hnone ht]
    cases bindText t ((Registry.make includesStandard).run ops) doc <;> rfl
  refine ⟨fun _ => Registry.separator_not_mem_of_holds, hresolve, ?_⟩
  rw [hresolve]
  cases bindText t ((Registry.make includesStandard).run ops) doc with
  | error e => rfl
  | ok step => exact congrArg Except.ok (Chain.run_singleton _ step)

/-- A selector with a colon of its own. -/
theorem bindText_firstChild :
    bindText "select-one:li:first-child".toList .standard Page.document =
      .ok (guarded (.only .node) (Standard.selectOne "li:first-child".toList Page.document)) := by
  have hstandard : ((Registry.make true).run [.load] : Registry Markup.Cursor) = .standard := rfl
  have hbind := (resolve_eq_bindText true [.load] Page.document
    (show ':' ∈ "select-one:li:first-child".toList by decide)).2.2
  obtain ⟨p, hresolve, hp⟩ := map_eq_ok_iff.1 (step_selectOne Page.document
    "li:first-child".toList)
  change Chain.resolveElement (.text "select-one:li:first-child".toList) .standard Page.document =
    .ok p at hresolve
  rw [hstandard, Chain.resolve_singleton, hresolve] at hbind
  rw [← hbind, ← hp]
  exact congrArg Except.ok (Chain.run_singleton p.1 p.2)

end Descriptor

end Harvest
