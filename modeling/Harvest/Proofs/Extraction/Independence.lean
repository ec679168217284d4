import Harvest.Page
import Harvest.Proofs.Extraction.Memo
import Harvest.Proofs.Extraction.Phases

/-!
# Fields do not see each other

Extraction without a memo evaluates each active field afresh from its own specification: it queries
the selector again, resolves the chain again and folds it over what was found. The main statement is
that a call has the result of extraction without a memo, so that the value of a field is a function
of its own specification and other fields can come, go and move without changing it.
-/

namespace Harvest

variable {ν : Type}

theorem lookup_filterMap_of_not_mem {α β : Type} (f : α → Option β) {key : Text}
    {fields : List (Text × α)} (hk : key ∉ fields.map (·.1)) :
    (fields.filterMap fun p => (f p.2).map fun b => (p.1, b)).lookup key = none := by
  induction fields with
  | nil => rfl
  | cons p fields ih =>
    rw [List.map_cons, List.mem_cons, not_or] at hk
    have hne : (key == p.1) = false := by simpa using hk.1
    rw [List.filterMap_cons]
    cases f p.2 with
    | none => exact ih hk.2
    | some b =>
      change ((p.1, b) :: _).lookup key = none
      rw [List.lookup_cons, hne]
      exact ih hk.2

theorem lookup_filterMap_of_mem {α β : Type} (f : α → Option β) {key : Text} {a : α}
    {fields : List (Text × α)} (hd : (fields.map (·.1)).Nodup) (hm : (key, a) ∈ fields) :
    (fields.filterMap fun p => (f p.2).map fun b => (p.1, b)).lookup key = f a := by
  induction fields with
  | nil => cases hm
  | cons p fields ih =>
    rw [List.map_cons, List.nodup_cons] at hd
    rw [List.filterMap_cons]
    rcases List.mem_cons.1 hm with rfl | hm
    · cases hf : f a with
      | none => exact lookup_filterMap_of_not_mem f hd.1
      | some b => exact List.lookup_cons_self
    · have hne : (key == p.1) = false := by
        rw [beq_eq_false_iff_ne]
        intro he
        exact hd.1 (List.mem_map.2 ⟨(key, a), hm, he⟩)
      cases f p.2 with
      | none => exact ih hd.2 hm
      | some b =>
        change ((p.1, b) :: _).lookup key = f a
        rw [List.lookup_cons, hne]
        exact ih hd.2 hm

namespace Chain

/-- Running a chain is a left fold over its steps. -/
theorem result_runSteps (steps : List (Step ν)) (v : Value ν) :
    (runSteps steps v).result = steps.foldlM (fun v step => (step v).result) v := by
  induction steps generalizing v with
  | nil => rfl
  | cons step steps ih =>
    rw [runSteps, Outcome.result_bind, List.foldlM_cons]
    cases (step v).result with
    | error e => rfl
    | ok w => exact ih w

end Chain

namespace Extraction

/-- The root where there is no selector or an empty one, else what a query for it finds. -/
def freshStart (doc : Document ν) (root : ν) (spec : FieldSpec ν) :
    Except (Failure ν) (Value ν) :=
  match spec.selector with
  | none | some [] => .ok (doc.value root)
  | some s => doc.findOne root s

theorem origin_filter (doc : Document ν) (root : ν) (spec : FieldSpec ν) :
    origin doc root (spec.selector.filter (· ≠ [])) = freshStart doc root spec := by
  rw [freshStart]
  rcases spec.selector with _ | _ | _ <;> rfl

variable [Host ν]

/-- The value of a field evaluated afresh from its specification. -/
def freshValue (r : Registry ν) (doc : Document ν) (root : ν) (spec : FieldSpec ν) :
    Except (Failure ν) (Value ν) := do
  let start ← freshStart doc root spec
  let steps ← Chain.resolveSteps r doc (spec.elements.getD [])
  steps.foldlM (fun v step => (step.2 v).result) start

/-- Extraction without a memo. -/
def extractFresh (r : Registry ν) (doc : Document ν) (root : ν) (config : Configuration ν) :
    Except (Failure ν) (List (Text × Value ν)) := do
  let specs ← validateAll config.fields
  let active ← selectActive specs
  let _ ← resolveAll r doc active
  active.mapM fun p => (freshValue r doc root p.2).map fun v => (p.1, v)

/-- The value that a specification gives its field, when the field takes part. -/
def ownValue? (r : Registry ν) (doc : Document ν) (root : ν) (raw : RawSpec ν) :
    Option (Value ν) :=
  raw.validate.toOption.bind fun spec =>
    if spec.takesPart then (freshValue r doc root spec).toOption else none

theorem runChain_of_resolveElements {r : Registry ν} {doc : Document ν}
    {elements : Option (List (Element ν))} {chain : Option (Chain ν)}
    (h : resolveElements r doc elements = .ok chain) :
    ∃ steps, Chain.resolveSteps r doc (elements.getD []) = .ok steps ∧
      ∀ v, (runChain chain v).result = steps.foldlM (fun v step => (step.2 v).result) v := by
  rcases elements with _ | _ | ⟨x, xs⟩
  · cases h
    exact ⟨[], rfl, fun _ => rfl⟩
  · cases h
    exact ⟨[], rfl, fun _ => rfl⟩
  · rw [resolveElements, Chain.resolve] at h
    cases hs : Chain.resolveSteps r doc (x :: xs) with
    | error e =>
      rw [hs] at h
      cases h
    | ok steps =>
      rw [hs] at h
      cases h
      refine ⟨steps, hs, fun v => ?_⟩
      rw [runChain, Chain.run, Chain.result_runSteps, List.foldlM_map]

/-- A resolved field has the value its specification gives afresh. -/
theorem fieldValue_of_resolveField {r : Registry ν} {doc : Document ν} (root : ν) {key : Text}
    {spec : FieldSpec ν} {field : ActiveField ν} (h : resolveField r doc key spec = .ok field) :
    ((fieldValue doc root field).map fun v => (field.key, v)) =
      (freshValue r doc root spec).map fun v => (key, v) := by
  rw [resolveField] at h
  cases hc : resolveElements r doc spec.elements with
  | error e =>
    rw [hc] at h
    cases h
  | ok chain =>
    rw [hc] at h
    cases h
    obtain ⟨steps, hs, hrun⟩ := runChain_of_resolveElements hc
    rw [fieldValue, origin_filter, freshValue, hs]
    simp only [hrun]
    rfl

theorem result_extract (r : Registry ν) (doc : Document ν) (root : ν)
    (config : Configuration ν) :
    (extract r doc root config).result = extractFresh r doc root config := by
  rw [extract, prepare, extractFresh]
  cases validateAll config.fields with
  | error e => rfl
  | ok specs =>
    change (Outcome.of ((selectActive specs).bind (resolveAll r doc)) >>= _).result =
      (selectActive specs).bind _
    cases selectActive specs with
    | error e => rfl
    | ok active =>
      change (Outcome.of (resolveAll r doc active) >>= _).result = (resolveAll r doc active).bind _
      cases hf : resolveAll r doc active with
      | error e => rfl
      | ok fields =>
        rw [resolveAll_eq_mapM, mapM_eq_ok_iff] at hf
        rw [Outcome.of_ok, Outcome.ok_bind,
          evaluate_of_records [] Memo.records_nil fields]
        exact (mapM_eq_of_forall₂ (hf.imp fun p field h =>
          (fieldValue_of_resolveField root h).symm)).symm

theorem extractFresh_eq_ok {r : Registry ν} {doc : Document ν} {root : ν}
    {config : Configuration ν} {out : List (Text × Value ν)}
    (h : extractFresh r doc root config = .ok out) :
    List.Forall₂ (fun p q => ((freshValue r doc root p.2).map fun v => (p.1, v)) = .ok q)
      (activeSpecs config.fields) out := by
  rw [extractFresh, validateAll_eq_elim] at h
  cases hv : config.fields.findSome? fun p => p.2.invalid? with
  | some e =>
    rw [hv] at h
    cases h
  | none =>
    rw [hv, Option.elim_none] at h
    change (selectActive (config.fields.filterMap spec?)).bind _ = .ok out at h
    rw [selectActive_eq_elim] at h
    cases ha : (config.fields.filterMap spec?).findSome? fun p => failure? p.2.isActive with
    | some e =>
      rw [ha] at h
      cases h
    | none =>
      rw [ha, Option.elim_none, filter_spec?] at h
      change (resolveAll r doc (activeSpecs config.fields)).bind _ = .ok out at h
      cases hr : resolveAll r doc (activeSpecs config.fields) with
      | error e =>
        rw [hr] at h
        cases h
      | ok fields =>
        rw [hr] at h
        exact mapM_eq_ok_iff.1 h

theorem keys_of_extractFresh {r : Registry ν} {doc : Document ν} {root : ν}
    {config : Configuration ν} {out : List (Text × Value ν)}
    (h : extractFresh r doc root config = .ok out) :
    out.map (·.1) = (config.fields.filter fun p => p.2.takesPart).map (·.1) := by
  have hkeys : ∀ p : Text × FieldSpec ν, ∀ q,
      ((freshValue r doc root p.2).map fun v => (p.1, v)) = .ok q → p.1 = q.1 := by
    intro p q hq
    cases hv : freshValue r doc root p.2 with
    | error e =>
      rw [hv] at hq
      cases hq
    | ok v =>
      rw [hv] at hq
      cases hq
      rfl
  have hsame : List.Forall₂ (· = ·) ((activeSpecs config.fields).map (·.1)) (out.map (·.1)) := by
    rw [List.forall₂_map_left_iff, List.forall₂_map_right_iff]
    exact (extractFresh_eq_ok h).imp hkeys
  rw [List.forall₂_eq_eq_eq] at hsame
  rw [← hsame, keys_activeSpecs]

theorem eq_filterMap_of_extractFresh {r : Registry ν} {doc : Document ν} {root : ν}
    {config : Configuration ν} {out : List (Text × Value ν)}
    (h : extractFresh r doc root config = .ok out) :
    out = config.fields.filterMap fun p =>
      (ownValue? r doc root p.2).map fun v => (p.1, v) := by
  rw [eq_filterMap_of_forall₂ (extractFresh_eq_ok h), activeSpecs, List.filterMap_filterMap]
  congr 1
  funext p
  rw [activeSpec?, ownValue?, Option.bind_assoc, Option.map_bind]
  congr 1
  funext spec
  rw [Function.comp_apply]
  cases spec.takesPart with
  | false => rfl
  | true =>
    change ((freshValue r doc root spec).map fun v => (p.1, v)).toOption =
      (freshValue r doc root spec).toOption.map fun v => (p.1, v)
    cases freshValue r doc root spec <;> rfl

/-- A call has the result of extraction without a memo. What it yields are the fields that take
part, in order, each with the value of its own specification, so that a field has the same value in
every call that yields anything. -/
theorem extract_eq_extractFresh (r : Registry ν) (doc : Document ν) (root : ν)
    (config : Configuration ν) :
    (extract r doc root config).result = extractFresh r doc root config ∧
    ∀ out, (extract r doc root config).result = .ok out →
      out.map (·.1) = (config.fields.filter fun p => p.2.takesPart).map (·.1) ∧
      (out = config.fields.filterMap fun p =>
        (ownValue? r doc root p.2).map fun v => (p.1, v)) ∧
      ∀ (other : Configuration ν) (out' : List (Text × Value ν)),
        (extract r doc root other).result = .ok out' →
        ∀ key raw, (key, raw) ∈ config.fields → (key, raw) ∈ other.fields →
          out.lookup key = out'.lookup key := by
  refine ⟨result_extract r doc root config, ?_⟩
  intro out h
  rw [result_extract] at h
  have hout := eq_filterMap_of_extractFresh h
  refine ⟨keys_of_extractFresh h, hout, ?_⟩
  intro other out' h' key raw hm hm'
  rw [result_extract] at h'
  rw [hout, eq_filterMap_of_extractFresh h', lookup_filterMap_of_mem _ config.distinct hm,
    lookup_filterMap_of_mem _ other.distinct hm']

/-! ### Fields that share a selector -/

open Markup in
/-- A document in which no selector matches anything. -/
def unmatched : Document Cursor :=
  { Page.document with findOne := fun _ _ => .ok .absent, findAll := fun _ _ => .ok [] }

def emptyPage : Markup.Cursor := ⟨.document, [], []⟩

def onlySelector (s : Text) : RawSpec Markup.Cursor := .checked ⟨none, some s, none⟩

def headings : Configuration Markup.Cursor :=
  .ofPairs [("title".toList, onlySelector "h1"), ("heading".toList, onlySelector "h1")]

def lastHeading : Configuration Markup.Cursor := .ofPairs [("heading".toList, onlySelector "h1")]

/-- The last field has the same value without the first, which queries its selector for it. -/
theorem extract_headings :
    ∃ out out', (extract (.make false) unmatched emptyPage headings).result = .ok out ∧
      (extract (.make false) unmatched emptyPage lastHeading).result = .ok out' ∧
      out.lookup "heading".toList = out'.lookup "heading".toList := by
  refine ⟨_, _, rfl, rfl, ?_⟩
  refine ((extract_eq_extractFresh (.make false) unmatched emptyPage headings).2 _ rfl).2.2
    lastHeading _ rfl "heading".toList (onlySelector "h1") ?_ ?_
  · exact List.mem_cons_of_mem _ List.mem_cons_self
  · exact List.mem_cons_self

end Extraction

end Harvest
