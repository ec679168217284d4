import Harvest.Proofs.Chain.Staging
import Harvest.Proofs.Descriptor.Decoding
import Harvest.Proofs.Extraction.Independence
import Harvest.Proofs.Extraction.Replacement
import Harvest.Proofs.Registry.Standard

/-!
# What a guard keeps away from a transformation

In a chain of registered transformations that each declare a kind, what a transformation would do
with values of other kinds makes no difference: the chain resolves to the same steps whatever it is.
Once a value is inapplicable, or is absent with only transformations of nodes to come, it passes
through the rest as it is, and what the transformations there do makes no difference at all. A
transformation in these places may as well fail or query the document, so none of them is run.
-/

namespace Harvest

variable {ν : Type}

/-- `run` on the values that a transformation accepts, and `off` on the others. -/
def withinKind (accepts : Accepts) (run off : Step ν) : Step ν := fun v =>
  if accepts = .only v.kind then run v else off v

theorem guarded_withinKind (k : Kind) (run off : Step ν) :
    guarded (.only k) (withinKind (.only k) run off) = guarded (.only k) run := by
  funext v
  by_cases hkind : v.kind = k
  · subst hkind
    simp only [guarded, withinKind, if_true]
  · simp only [guarded, if_neg hkind]

theorem guarded_inapplicable {k : Kind} (hk : k ≠ .boolean) (run : Step ν) :
    guarded (.only k) run .inapplicable = pure .inapplicable := by
  have hkind : (Value.inapplicable : Value ν).kind ≠ k := Ne.symm hk
  have habsent : ¬ (k = .node ∧ (Value.inapplicable : Value ν).kind = .absent) :=
    fun h => nomatch h.2
  simp only [guarded, if_neg hkind, if_neg habsent]

theorem guarded_absent (run : Step ν) : guarded (.only .node) run .absent = pure .absent := rfl

variable [Host ν]

/-- What the transformation that a descriptor stands for declares. -/
def Descriptor.accepts? (d : Descriptor ν) (r : Registry ν) : Option Accepts :=
  d.call?.bind fun call => (r.get? call.1).map (·.accepts)

namespace Chain

variable {r : Registry ν} {doc : Document ν}

/-- An element is cut and looked up without regard to what the entries do. -/
theorem parse_mapStepsBy (f : Entry ν → Step ν → Step ν) (x : Element ν) :
    Descriptor.parse x (r.mapStepsBy f) = Descriptor.parse x r := by
  cases x with
  | text t => simp only [Descriptor.parse, Registry.holds_mapStepsBy]
  | callable c => rfl
  | other v => rfl

theorem bindEntry_mapStepsBy (f : Entry ν → Step ν → Step ν) {name : Text} {args : List Text}
    {e : Entry ν} (he : r.get? name = some e) :
    Descriptor.bindEntry name args (r.mapStepsBy f) doc =
      (e.instantiate (args.map .text)).map fun run => guarded e.accepts (f e (run doc)) := by
  rw [Descriptor.bindEntry, Registry.get?_mapStepsBy, he]
  change (e.mapSteps (f e)).bind (args.map .text) doc = _
  rw [Entry.bind, Entry.instantiate_mapSteps]
  cases e.instantiate (args.map .text) <;> rfl

/-- A step that comes from a registered transformation is that transformation behind its guard, and
stays so when the transformation is replaced. -/
theorem exists_guarded_of_resolveElement {x : Element ν} {d : Descriptor ν} {step : Step ν}
    {accepts : Accepts} (h : resolveElement x r doc = .ok (d, step))
    (haccepts : d.accepts? r = some accepts) :
    ∃ (e : Entry ν) (run : Step ν), e.accepts = accepts ∧ step = guarded accepts run ∧
      ∀ f, resolveElement x (r.mapStepsBy f) doc = .ok (d, guarded accepts (f e run)) := by
  obtain ⟨d', hparse, hbind⟩ := bind_eq_ok_iff.1 h
  obtain ⟨step', hstep, hpair⟩ := bind_eq_ok_iff.1 hbind
  cases hpair
  obtain ⟨⟨name, args⟩, hcall, hget⟩ := Option.bind_eq_some_iff.1 haccepts
  obtain ⟨e, he, rfl⟩ := Option.map_eq_some_iff.1 hget
  have hentry : ∀ s : Registry ν, d.bind s doc = Descriptor.bindEntry name args s doc := by
    intro s
    cases d with
    | byName n | byNameWithArgs n as =>
      cases hcall
      rfl
    | inline c => cases hcall
  rw [hentry, Descriptor.bindEntry, he] at hstep
  obtain ⟨run, hrun, rfl⟩ := map_eq_ok_iff.1 hstep
  refine ⟨e, run doc, rfl, rfl, fun f => ?_⟩
  rw [resolveElement, parse_mapStepsBy, hparse]
  change (d.bind (r.mapStepsBy f) doc).bind _ = _
  rw [hentry, bindEntry_mapStepsBy f he, hrun]
  rfl

/-! ### Chains -/

/-- The step of a descriptor stands behind the guard of a kind that is not the booleans. -/
def IsGuarded (r : Registry ν) (step : Descriptor ν × Step ν) : Prop :=
  ∃ (k : Kind) (run : Step ν), step.1.accepts? r = some (.only k) ∧ k ≠ .boolean ∧
    step.2 = guarded (.only k) run

/-- The step of an element is a transformation behind its guard, and whatever replaces the
transformation stands behind the same guard. -/
def Guarding (r : Registry ν) (doc : Document ν) (x : Element ν)
    (step : Descriptor ν × Step ν) : Prop :=
  ∃ (e : Entry ν) (k : Kind) (run : Step ν), step.1.accepts? r = some (.only k) ∧
    e.accepts = .only k ∧ k ≠ .boolean ∧ step.2 = guarded (.only k) run ∧
    ∀ f, resolveElement x (r.mapStepsBy f) doc = .ok (step.1, guarded (.only k) (f e run))

/-- What every guard here answers itself, with the value it is given. -/
def PassesThrough (r : Registry ν) (ds : List (Descriptor ν)) (w : Value ν) : Prop :=
  w = .inapplicable ∨ w = .absent ∧ ∀ d ∈ ds, d.accepts? r = some (.only .node)

theorem PassesThrough.tail {d : Descriptor ν} {ds : List (Descriptor ν)} {w : Value ν}
    (h : PassesThrough r (d :: ds) w) : PassesThrough r ds w :=
  h.imp_right fun h => ⟨h.1, fun d' hd => h.2 d' (List.mem_cons_of_mem _ hd)⟩

theorem IsGuarded.apply_of_passesThrough {step : Descriptor ν × Step ν} {ds : List (Descriptor ν)}
    {w : Value ν} (h : IsGuarded r step) (hw : PassesThrough r (step.1 :: ds) w) :
    step.2 w = pure w := by
  obtain ⟨k, run, haccepts, hk, hstep⟩ := h
  rw [hstep]
  rcases hw with rfl | ⟨rfl, hnodes⟩
  · exact guarded_inapplicable hk run
  · cases haccepts.symm.trans (hnodes step.1 List.mem_cons_self)
    exact guarded_absent run

theorem runSteps_of_passesThrough {steps : List (Descriptor ν × Step ν)} {w : Value ν}
    (hsteps : ∀ step ∈ steps, IsGuarded r step) (hw : PassesThrough r (steps.map (·.1)) w) :
    runSteps (steps.map (·.2)) w = pure w := by
  induction steps with
  | nil => rfl
  | cons step steps ih =>
    rw [List.map_cons, runSteps, (hsteps step List.mem_cons_self).apply_of_passesThrough hw,
      pure_bind]
    exact ih (fun s hs => hsteps s (List.mem_cons_of_mem _ hs)) hw.tail

theorem forall₂_guarding {xs : List (Element ν)} {c : Chain ν} (hc : resolve xs r doc = .ok c)
    (hkinds : ∀ step ∈ c.steps, ∃ k, step.1.accepts? r = some (.only k) ∧ k ≠ .boolean) :
    List.Forall₂ (Guarding r doc) xs c.steps := by
  have hsteps := resolve_eq_ok_iff.1 hc
  clear hc
  generalize c.steps = steps at hsteps hkinds
  induction hsteps with
  | nil => exact .nil
  | @cons x step _ _ hx _ ih =>
    refine .cons ?_ (ih fun s hs => hkinds s (List.mem_cons_of_mem _ hs))
    obtain ⟨k, haccepts, hk⟩ := hkinds step List.mem_cons_self
    obtain ⟨e, run, he, hstep, hreplaced⟩ := exists_guarded_of_resolveElement hx haccepts
    exact ⟨e, k, run, haccepts, he, hk, hstep, hreplaced⟩

theorem isGuarded_of_guarding {xs : List (Element ν)} {steps : List (Descriptor ν × Step ν)}
    (h : List.Forall₂ (Guarding r doc) xs steps) : ∀ step ∈ steps, IsGuarded r step := by
  intro step hstep
  obtain ⟨x, -, e, k, run, haccepts, -, hk, heq, -⟩ := exists_mem_of_forall₂ h hstep
  exact ⟨k, run, haccepts, hk, heq⟩

/-- Where transformations were replaced, the elements resolve to the same descriptors with steps
behind the same guards. -/
theorem exists_resolve_mapStepsBy {xs : List (Element ν)} {steps : List (Descriptor ν × Step ν)}
    (h : List.Forall₂ (Guarding r doc) xs steps) (f : Entry ν → Step ν → Step ν) :
    ∃ other : Chain ν, resolve xs (r.mapStepsBy f) doc = .ok other ∧
      other.descriptors = steps.map (·.1) ∧ ∀ step ∈ other.steps, IsGuarded r step := by
  induction h with
  | nil => exact ⟨⟨[]⟩, rfl, rfl, nofun⟩
  | @cons x step _ _ hx _ ih =>
    obtain ⟨e, k, run, haccepts, -, hk, -, hreplaced⟩ := hx
    obtain ⟨other, hother, hdescriptors, hsteps⟩ := ih
    refine ⟨⟨(step.1, guarded (.only k) (f e run)) :: other.steps⟩, ?_, ?_, ?_⟩
    · exact resolve_eq_ok_iff.2 (.cons (hreplaced f) (resolve_eq_ok_iff.1 hother))
    · exact congrArg (step.1 :: ·) hdescriptors
    · exact List.forall_mem_cons.2 ⟨⟨k, f e run, haccepts, hk, rfl⟩, hsteps⟩

/-- In a chain of registered transformations of one kind each, booleans excepted, a transformation
is only run on values of its kind: whatever is put in its place on the others, the chain resolves to
the same steps. A value that is inapplicable, or absent before transformations of nodes only, is the
result of the chain, without a query beyond those made so far. Whatever is put in the place of the
transformations still to come, it is the result of these. -/
theorem run_guarded {xs : List (Element ν)} {c : Chain ν} (hc : resolve xs r doc = .ok c)
    (hkinds : ∀ step ∈ c.steps, ∃ k, step.1.accepts? r = some (.only k) ∧ k ≠ .boolean) :
    (∀ off : Entry ν → Step ν → Step ν,
      resolve xs (r.mapStepsBy fun e run => withinKind e.accepts run (off e run)) doc = .ok c) ∧
    ∀ (done rest : List (Descriptor ν × Step ν)) (v w : Value ν) (queries : List (Query ν)),
      c.steps = done ++ rest → Chain.run ⟨done⟩ v = ⟨.ok w, queries⟩ →
      PassesThrough r (rest.map (·.1)) w →
      c.run v = ⟨.ok w, queries⟩ ∧
      ∀ f : Entry ν → Step ν → Step ν, ∃ other : Chain ν,
        resolve (xs.drop done.length) (r.mapStepsBy f) doc = .ok other ∧
        other.descriptors = rest.map (·.1) ∧ other.run w = pure w := by
  have hguarding := forall₂_guarding hc hkinds
  refine ⟨fun off => ?_, fun done rest v w queries hsplit hdone hw => ?_⟩
  · refine resolve_eq_ok_iff.2 (hguarding.imp ?_)
    rintro x step ⟨e, k, run, -, he, -, hstep, hreplaced⟩
    rw [hreplaced, he, guarded_withinKind, ← hstep]
  · rw [hsplit] at hguarding
    have hrest := List.forall₂_drop_append xs done rest hguarding
    constructor
    · rw [run, hsplit, List.map_append, runSteps_append]
      change Chain.run ⟨done⟩ v >>= runSteps (rest.map (·.2)) = _
      rw [hdone, Outcome.ok_bind, runSteps_of_passesThrough (isGuarded_of_guarding hrest) hw,
        Outcome.pure_eq, List.append_nil]
    · intro f
      obtain ⟨other, hother, hdescriptors, hsteps⟩ := exists_resolve_mapStepsBy hrest f
      rw [← hdescriptors] at hw
      exact ⟨other, hother, hdescriptors, runSteps_of_passesThrough hsteps hw⟩

/-! ### A search followed by a reading -/

theorem accepts?_standard {e : Entry ν} (he : e ∈ Standard.entries) {d : Descriptor ν}
    {args : List Text} (hd : d.call? = some (e.name, args)) :
    d.accepts? .standard = some e.accepts := by
  rw [Descriptor.accepts?, hd, Option.bind_some, Registry.get?_standard he, Option.map_some]

/-- The text of the first match. -/
def headingText (doc : Document ν) : Chain ν := ⟨[
  (.byNameWithArgs "select-one".toList ["h1".toList],
    guarded (.only .node) (Standard.selectOne "h1".toList doc)),
  (.byName "inner-text".toList, guarded (.only .node) (Standard.innerText doc))]⟩

theorem resolve_headingText (doc : Document ν) :
    resolve (["select-one:h1".toList, "inner-text".toList].map .text) .standard doc =
      .ok (headingText doc) := by
  have hfind : resolveElement (.text "select-one:h1".toList) .standard doc =
      .ok (.byNameWithArgs "select-one".toList ["h1".toList],
        guarded (.only .node) (Standard.selectOne "h1".toList doc)) := by
    have hs : Signature.Positional [Standard.required "selector"] :=
      Standard.positional ["selector"] []
    have hargs := Descriptor.spells_single "selector" "h1"
    have hmem := List.mem_of_getElem? (rfl : (Standard.entries : List (Entry ν))[0]? = some _)
    have hresolve := Descriptor.resolveElement_encode true [.load] doc
      (Registry.get?_standard hmem) rfl hs hargs (.inl rfl) (.inl rfl)
    refine hresolve.trans ?_
    have hsplit : Descriptor.split "select-one:h1".toList =
        ("select-one".toList, ["h1".toList]) := by decide +kernel
    change Except.ok (Descriptor.byNameWithArgs "select-one".toList
      (Descriptor.split "select-one:h1".toList).2, _) = _
    rw [hsplit]
    rfl
  exact resolve_eq_ok_iff.2 (.cons hfind (.cons (resolveElement_standard 3 rfl doc) .nil))

theorem accepts?_headingText (doc : Document ν) : ∀ step ∈ (headingText doc).steps,
    step.1.accepts? .standard = some (.only .node) := by
  have hfind := List.mem_of_getElem? (rfl : (Standard.entries : List (Entry ν))[0]? = some _)
  have hread := List.mem_of_getElem? (rfl : (Standard.entries : List (Entry ν))[3]? = some _)
  rw [headingText, List.forall_mem_cons, List.forall_mem_singleton]
  exact ⟨accepts?_standard hfind rfl, accepts?_standard hread rfl⟩

open Extraction in
/-- Where no heading is found, reading it is skipped, and a number is not even searched. -/
theorem run_headingText :
    (headingText unmatched).run (.node emptyPage) =
        ⟨.ok .absent, [.one emptyPage "h1".toList]⟩ ∧
      (headingText unmatched).run (.int 5) = ⟨.ok .inapplicable, []⟩ ∧
      resolve (["select-one:h1".toList, "inner-text".toList].map .text)
        (Registry.standard.mapStepsBy fun e run =>
          withinKind e.accepts run fun _ => .fail (.raised .runtime [])) unmatched =
        .ok (headingText unmatched) := by
  have hnodes := accepts?_headingText unmatched
  obtain ⟨hkind, hpass⟩ := run_guarded (resolve_headingText unmatched) fun step hstep =>
    ⟨.node, hnodes step hstep, nofun⟩
  refine ⟨?_, ?_, hkind fun _ _ _ => .fail (.raised .runtime [])⟩
  · exact (hpass [_] [_] (.node emptyPage) .absent [.one emptyPage "h1".toList] rfl rfl
      (.inr ⟨rfl, List.forall_mem_singleton.2 (hnodes _ (by simp [headingText]))⟩)).1
  · exact (hpass [_] [_] (.int 5) .inapplicable [] rfl rfl (.inl rfl)).1

end Chain

end Harvest
