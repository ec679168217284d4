import Harvest.Page
import Harvest.Proofs.Chain.Staging
import Harvest.Proofs.Standard.Declined
import Harvest.Proofs.Standard.Overrun

/-!
# Chains of standard transformations

Without slicing, a chain of standard transformations fails on a document that answers whatever it is
asked only when a number has become too large for the next step. Every other value is handled, if
only by declining it.
-/

namespace Harvest.Chain

variable {ν : Type} [Host ν]

/-- The steps of a chain of texts are standard transformations with texts as arguments. -/
theorem exists_entry_of_resolve_standard {doc : Document ν} {ts : List Text} {c : Chain ν}
    (hc : resolve (ts.map .text) .standard doc = .ok c) {step : Descriptor ν × Step ν}
    (hstep : step ∈ c.steps) :
    ∃ e ∈ Standard.entries, ∃ args : List Text, step.1.call? = some (e.name, args) ∧
      e.bind (args.map .text) doc = .ok step.2 := by
  obtain ⟨x, hx, hresolve⟩ := exists_mem_of_forall₂ (resolve_eq_ok_iff.1 hc) hstep
  obtain ⟨t, -, rfl⟩ := List.mem_map.1 hx
  obtain ⟨e, args, hget, hcall, hbind⟩ := exists_of_resolveElement_text hresolve
  exact ⟨e, Registry.mem_entries_of_get?_standard hget, args, hcall, hbind⟩

/-- A chain of standard transformations other than slicing fails exactly where a step has a hazard
and is given a value that is too large for it, and then with the failure of this hazard. What a step
declines it answers at once. -/
theorem result_run_standard {doc : Document ν} (hdoc : doc.Answers) {ts : List Text} {c : Chain ν}
    (hc : resolve (ts.map .text) .standard doc = .ok c)
    (hslice : ∀ step ∈ c.steps, ∀ args, step.1.call? ≠ some ("slice".toList, args)) (v : Value ν) :
    (∀ f, (c.run v).result = .error f ↔
        ∃ done step rest name args hazard w, c.steps = done ++ step :: rest ∧
          step.1.call? = some (name, args) ∧ (Chain.run ⟨done⟩ v).result = .ok w ∧
          Standard.hazard? name = some hazard ∧ Standard.Overrun args hazard w f) ∧
      ∀ step ∈ c.steps, ∀ name args w u, step.1.call? = some (name, args) →
        Standard.Declined name args w u → step.2 w = pure u := by
  have hfails : ∀ step ∈ c.steps, ∃ name args, step.1.call? = some (name, args) ∧
      ∀ w f, (step.2 w).result = .error f ↔
        ∃ hazard, Standard.hazard? name = some hazard ∧ Standard.Overrun args hazard w f := by
    intro step hstep
    obtain ⟨e, he, args, hcall, hbind⟩ := exists_entry_of_resolve_standard hc hstep
    have hname : e.name ≠ "slice".toList := by
      intro hname
      rw [hname] at hcall
      exact hslice step hstep args hcall
    exact ⟨e.name, args, hcall, Standard.failsByHazard_of_mem hdoc e he hname args step.2 hbind⟩
  refine ⟨fun f => ?_, fun step hstep name args w u hcall hdeclined => ?_⟩
  · rw [result_run_eq_error_iff]
    constructor
    · rintro ⟨done, step, rest, w, hsteps, hdone, hstep⟩
      have hmem : step ∈ c.steps := by
        rw [hsteps]
        exact List.mem_append_cons_self
      obtain ⟨name, args, hcall, hiff⟩ := hfails step hmem
      obtain ⟨hazard, hhazard, hoverrun⟩ := (hiff w f).1 hstep
      exact ⟨done, step, rest, name, args, hazard, w, hsteps, hcall, hdone, hhazard, hoverrun⟩
    · rintro ⟨done, step, rest, name, args, hazard, w, hsteps, hcall, hdone, hhazard, hoverrun⟩
      have hmem : step ∈ c.steps := by
        rw [hsteps]
        exact List.mem_append_cons_self
      obtain ⟨name', args', hcall', hiff⟩ := hfails step hmem
      cases hcall.symm.trans hcall'
      exact ⟨done, step, rest, w, hsteps, hdone, (hiff w f).2 ⟨hazard, hhazard, hoverrun⟩⟩
  · obtain ⟨e, he, args', hcall', hbind⟩ := exists_entry_of_resolve_standard hc hstep
    cases hcall.symm.trans hcall'
    exact Standard.step_of_declined he hbind hdeclined

/-! ### A number too large to be rounded -/

/-- The page as it is read, with no selector finding anything and no fragment holding anything. -/
def barren : Document Markup.Cursor :=
  { Page.document with
    findOne := fun _ _ => .ok .absent
    findAll := fun _ _ => .ok []
    detached := fun _ => .ok ⟨.document, [], []⟩ }

theorem answers_barren : barren.Answers where
  findOne _ _ := ⟨_, rfl⟩
  findAll _ _ := ⟨_, rfl⟩
  innerHtml _ := ⟨_, rfl⟩
  innerText _ := ⟨_, rfl⟩
  formValue _ := ⟨_, rfl⟩
  attributeValue _ _ := ⟨_, rfl⟩
  detached _ := ⟨_, rfl⟩
  childNodes _ := ⟨_, rfl⟩
  nodeValue _ := ⟨_, rfl⟩

/-- The chain that only rounds. -/
def rounding : Chain ν := ⟨[(.byName "round".toList, guarded (.only .number) Standard.round)]⟩

theorem resolve_rounding (doc : Document ν) :
    resolve (["round".toList].map .text) .standard doc = .ok rounding :=
  resolve_eq_ok_iff.2 (.cons (resolveElement_standard 8 rfl doc) .nil)

theorem rounding_ne_slice : ∀ step ∈ (rounding : Chain Markup.Cursor).steps, ∀ args,
    step.1.call? ≠ some ("slice".toList, args) := by
  intro step hstep args
  rw [rounding, List.mem_singleton] at hstep
  subst hstep
  intro hcall
  have hname : "round".toList = "slice".toList := (Prod.mk.inj (Option.some.inj hcall)).1
  exact absurd hname (by decide)

/-- An integer that no finite float is near to. -/
theorem exists_overflowBound_le :
    ∃ n : Int, n = 10 ^ 400 ∧ Number.overflowBound ≤ n.natAbs := by
  refine ⟨10 ^ 400, rfl, ?_⟩
  decide +kernel

theorem result_run_rounding :
    ((rounding : Chain Markup.Cursor).run (.int (10 ^ 400))).result = .error .intTooLarge := by
  obtain ⟨n, hn, hlarge⟩ := exists_overflowBound_le
  rw [← hn]
  have hstandard := result_run_standard answers_barren (resolve_rounding barren) rounding_ne_slice
    (.int n)
  exact (hstandard.1 .intTooLarge).2 ⟨[], _, [], "round".toList, [], .rounding, .int n, rfl, rfl,
    rfl, rfl, .rounding hlarge⟩

/-- Rounding 10 ^ 400 fails, although the document answers whatever it is asked. -/
theorem run_standard_fails :
    ¬ ∀ (doc : Document Markup.Cursor) (ts : List Text) (c : Chain Markup.Cursor)
      (v : Value Markup.Cursor), doc.Answers → resolve (ts.map .text) .standard doc = .ok c →
      (∀ step ∈ c.steps, ∀ args, step.1.call? ≠ some ("slice".toList, args)) →
      ∃ u, (c.run v).result = .ok u := by
  intro h
  obtain ⟨n, -, hlarge⟩ := exists_overflowBound_le
  obtain ⟨u, hu⟩ := h barren ["round".toList] rounding (.int n) answers_barren
    (resolve_rounding barren) rounding_ne_slice
  have hround : (Standard.round (.int n : Value Markup.Cursor)).result = .error .intTooLarge :=
    Standard.result_round_eq_error_iff.2 ⟨n, rfl, hlarge, rfl⟩
  have hfail : ((rounding : Chain Markup.Cursor).run (.int n)).result = .error .intTooLarge :=
    result_run_eq_error_iff.2 ⟨[], _, [], .int n, rfl, rfl, hround⟩
  rw [hfail] at hu
  cases hu

end Harvest.Chain
