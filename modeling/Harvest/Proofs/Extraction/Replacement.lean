import Harvest.Proofs.Extraction.Phases

/-!
# Refusal does not depend on what transformations do

`mapSteps f` puts `f step` in the place of every step: in registered transformations, in what
factories make, and in callables given in place. Names, kinds, parameters and refused arguments stay
as they are. A refusal stays the same under every such replacement and for every document, so a
refused call has neither run a transformation nor asked its document anything.
-/

namespace Harvest

variable {ν : Type}

namespace Form

def mapSteps (f : Step ν → Step ν) : Form ν → Form ν
  | .plain run => .plain fun doc => f (run doc)
  | .factory signature make =>
    .factory signature fun args => (make args).map fun run doc => f (run doc)

end Form

namespace Entry

def mapSteps (f : Step ν → Step ν) (e : Entry ν) : Entry ν := { e with form := e.form.mapSteps f }

theorem instantiate_mapSteps [Host ν] (f : Step ν → Step ν) (e : Entry ν)
    (args : List (Value ν)) :
    (e.mapSteps f).instantiate args = (e.instantiate args).map fun run doc => f (run doc) := by
  rw [instantiate, instantiate, mapSteps]
  cases e.form with
  | plain run =>
    simp only [Form.mapSteps]
    split <;> rfl
  | factory signature make =>
    simp only [Form.mapSteps]
    cases signature.fold args with
    | error e => rfl
    | ok args =>
      simp only [Except.bind]
      cases signature.mismatch? args.length with
      | some reason => rfl
      | none =>
        simp only [made]
        rcases make args with (_ | _) | _ <;> rfl

theorem failure?_bind_mapSteps [Host ν] (f : Step ν → Step ν) (e : Entry ν)
    (args : List (Value ν)) (doc doc' : Document ν) :
    failure? ((e.mapSteps f).bind args doc') = failure? (e.bind args doc) := by
  rw [bind, bind, failure?_map, failure?_map, instantiate_mapSteps, failure?_map]

end Entry

namespace Registry

variable [Host ν]

/-- Replaces the steps of each entry by what `f` makes of the entry and the step. -/
def mapStepsBy (f : Entry ν → Step ν → Step ν) (r : Registry ν) : Registry ν :=
  { r with loaded := true, entries := r.load.entries.map fun e => e.mapSteps (f e) }

theorem get?_mapStepsBy (f : Entry ν → Step ν → Step ν) (r : Registry ν) (name : Text) :
    (r.mapStepsBy f).get? name = (r.get? name).map fun e => e.mapSteps (f e) := by
  have hload : (r.mapStepsBy f).load = r.mapStepsBy f := rfl
  rw [get?, hload, mapStepsBy, get?, lookup, lookup, List.find?_map]
  rfl

@[simp] theorem holds_mapStepsBy (f : Entry ν → Step ν → Step ν) (r : Registry ν) (name : Text) :
    (r.mapStepsBy f).holds name = r.holds name := by
  rw [holds, holds, get?_mapStepsBy, Option.isSome_map]

def mapSteps (f : Step ν → Step ν) (r : Registry ν) : Registry ν :=
  { r with loaded := true, entries := r.load.entries.map (·.mapSteps f) }

theorem get?_mapSteps (f : Step ν → Step ν) (r : Registry ν) (name : Text) :
    (r.mapSteps f).get? name = (r.get? name).map (·.mapSteps f) :=
  get?_mapStepsBy (fun _ => f) r name

@[simp] theorem holds_mapSteps (f : Step ν → Step ν) (r : Registry ν) (name : Text) :
    (r.mapSteps f).holds name = r.holds name := holds_mapStepsBy (fun _ => f) r name

end Registry

def Callable.mapSteps (f : Step ν → Step ν) (c : Callable ν) : Callable ν :=
  { c with run := f c.run }

def Element.mapSteps (f : Step ν → Step ν) : Element ν → Element ν
  | .callable c => .callable (c.mapSteps f)
  | x => x

namespace Descriptor

variable [Host ν]

def mapSteps (f : Step ν → Step ν) : Descriptor ν → Descriptor ν
  | .inline c => .inline (c.mapSteps f)
  | d => d

theorem parse_mapSteps (f : Step ν → Step ν) (x : Element ν) (r : Registry ν) :
    parse (x.mapSteps f) (r.mapSteps f) = (parse x r).map (mapSteps f) := by
  cases x with
  | text t =>
    simp only [Element.mapSteps, parse, Registry.holds_mapSteps]
    by_cases ht : r.holds t
    · rw [if_pos ht]
      rfl
    · rw [if_neg ht]
      by_cases hc : t.contains ':'
      · rw [if_pos hc]
        by_cases hn : r.holds (split t).1
        · rw [if_pos hn]
          rfl
        · rw [if_neg hn]
          rfl
      · rw [if_neg hc]
        rfl
  | callable c => rfl
  | other v => rfl

theorem failure?_bindEntry_mapSteps (f : Step ν → Step ν) (name : Text) (args : List Text)
    (r : Registry ν) (doc doc' : Document ν) :
    failure? (bindEntry name args (r.mapSteps f) doc') = failure? (bindEntry name args r doc) := by
  rw [bindEntry, bindEntry, Registry.get?_mapSteps]
  cases r.get? name with
  | none => rfl
  | some e => exact e.failure?_bind_mapSteps f (args.map Value.text) doc doc'

theorem failure?_bind_mapSteps (f : Step ν → Step ν) (d : Descriptor ν) (r : Registry ν)
    (doc doc' : Document ν) :
    failure? ((d.mapSteps f).bind (r.mapSteps f) doc') = failure? (d.bind r doc) := by
  cases d with
  | byName name => exact failure?_bindEntry_mapSteps f name [] r doc doc'
  | byNameWithArgs name args => exact failure?_bindEntry_mapSteps f name args r doc doc'
  | inline c => rfl

end Descriptor

theorem Chain.failure?_resolveElement_mapSteps [Host ν] (f : Step ν → Step ν)
    (x : Element ν) (r : Registry ν) (doc doc' : Document ν) :
    failure? (resolveElement (x.mapSteps f) (r.mapSteps f) doc') =
      failure? (resolveElement x r doc) := by
  rw [resolveElement, resolveElement, Descriptor.parse_mapSteps]
  cases Descriptor.parse x r with
  | error e => rfl
  | ok d =>
    change failure? (((d.mapSteps f).bind (r.mapSteps f) doc').map fun step => (_, step)) =
      failure? ((d.bind r doc).map fun step => (d, step))
    rw [failure?_map, failure?_map]
    exact d.failure?_bind_mapSteps f r doc doc'

namespace FieldSpec

def mapSteps (f : Step ν → Step ν) (spec : FieldSpec ν) : FieldSpec ν :=
  { spec with elements := spec.elements.map (·.map (Element.mapSteps f)) }

theorem assemble_mapSteps (f : Step ν → Step ν)
    (condition : Except IssueKind (Option (Except (Failure ν) (Value ν))))
    (selector : Except IssueKind (Option Text))
    (elements : Except IssueKind (Option (List (Element ν)))) (unknown : List Text) :
    assemble condition selector (elements.map (·.map (·.map (Element.mapSteps f)))) unknown =
      (assemble condition selector elements unknown).map (mapSteps f) := by
  rcases condition with _ | _ <;> rcases selector with _ | _ <;> rcases elements with _ | _ <;>
    cases unknown <;> rfl

end FieldSpec

def Setting.mapSteps (f : Step ν → Step ν) : Setting ν → Setting ν
  | .elements xs => .elements (xs.map (Element.mapSteps f))
  | s => s

namespace RawSpec

def mapSteps (f : Step ν → Step ν) : RawSpec ν → RawSpec ν
  | .settings entries => .settings (entries.map fun p => (p.1, p.2.mapSteps f))
  | .checked spec => .checked (spec.mapSteps f)
  | .other => .other

theorem lookup_mapSteps (f : Step ν → Step ν) (key : Text) (entries : List (Text × Setting ν)) :
    (entries.map fun p => (p.1, p.2.mapSteps f)).lookup key =
      (entries.lookup key).map (Setting.mapSteps f) := by
  induction entries with
  | nil => rfl
  | cons p entries ih =>
    rw [List.map_cons, List.lookup_cons, List.lookup_cons, ih]
    split <;> rfl

theorem readCondition_mapSteps (f : Step ν → Step ν) (s : Option (Setting ν)) :
    FieldSpec.readCondition (s.map (Setting.mapSteps f)) = FieldSpec.readCondition s := by
  rcases s with _ | v | c | xs
  · rfl
  · cases v <;> rfl
  · rfl
  · rfl

theorem readSelector_mapSteps (f : Step ν → Step ν) (s : Option (Setting ν)) :
    FieldSpec.readSelector (s.map (Setting.mapSteps f)) = FieldSpec.readSelector s := by
  rcases s with _ | v | c | xs
  · rfl
  · cases v <;> rfl
  · rfl
  · rfl

theorem readElements_mapSteps (f : Step ν → Step ν) (s : Option (Setting ν)) :
    FieldSpec.readElements (s.map (Setting.mapSteps f)) =
      (FieldSpec.readElements s).map (·.map (·.map (Element.mapSteps f))) := by
  rcases s with _ | v | c | xs
  · rfl
  · cases v <;> rfl
  · rfl
  · rfl

theorem check_mapSteps (f : Step ν → Step ν) (entries : List (Text × Setting ν)) :
    FieldSpec.check (entries.map fun p => (p.1, p.2.mapSteps f)) =
      (FieldSpec.check entries).map (FieldSpec.mapSteps f) := by
  rw [FieldSpec.check, FieldSpec.check, lookup_mapSteps, lookup_mapSteps, lookup_mapSteps,
    readCondition_mapSteps, readSelector_mapSteps, readElements_mapSteps, List.map_map]
  exact FieldSpec.assemble_mapSteps f _ _ _ _

theorem validate_mapSteps (f : Step ν → Step ν) (raw : RawSpec ν) :
    (raw.mapSteps f).validate = raw.validate.map (FieldSpec.mapSteps f) := by
  cases raw with
  | settings entries =>
    rw [mapSteps, validate, validate, check_mapSteps]
    cases FieldSpec.check entries <;> rfl
  | checked spec => rfl
  | other => rfl

theorem invalid?_mapSteps (f : Step ν → Step ν) (raw : RawSpec ν) :
    (raw.mapSteps f).invalid? = raw.invalid? := by
  rw [invalid?, invalid?, validate_mapSteps, failure?_map]

theorem unanswered?_mapSteps (f : Step ν → Step ν) (raw : RawSpec ν) :
    (raw.mapSteps f).unanswered? = raw.unanswered? := by
  rw [unanswered?, unanswered?, validate_mapSteps]
  cases raw.validate <;> rfl

theorem unresolved?_mapSteps [Host ν] (f : Step ν → Step ν) (r : Registry ν)
    (doc doc' : Document ν) (raw : RawSpec ν) :
    (raw.mapSteps f).unresolved? (r.mapSteps f) doc' = raw.unresolved? r doc := by
  rw [unresolved?, unresolved?, validate_mapSteps]
  cases raw.validate with
  | error e => rfl
  | ok spec =>
    change (if spec.takesPart then _ else none) = if spec.takesPart then _ else none
    cases spec.takesPart with
    | false => rfl
    | true =>
      rw [if_pos rfl, if_pos rfl, FieldSpec.mapSteps]
      rcases hx : spec.elements with _ | xs
      · rfl
      · rw [Option.map_some, Option.getD_some, Option.getD_some, List.findSome?_map]
        congr 1
        funext x
        exact Chain.failure?_resolveElement_mapSteps f x r doc doc'

end RawSpec

namespace Configuration

def mapFields (f : Step ν → Step ν) (fields : List (Text × RawSpec ν)) :
    List (Text × RawSpec ν) :=
  fields.map fun p => (p.1, p.2.mapSteps f)

def mapSteps (f : Step ν → Step ν) (config : Configuration ν) : Configuration ν where
  fields := mapFields f config.fields
  distinct := by
    rw [mapFields, List.map_map]
    exact config.distinct

end Configuration

namespace Extraction

variable [Host ν]

/-- A refusal survives the replacement of every step, and of the document. -/
theorem refusal?_mapSteps (f : Step ν → Step ν) (r : Registry ν) (doc doc' : Document ν)
    (fields : List (Text × RawSpec ν)) :
    refusal? (r.mapSteps f) doc' (Configuration.mapFields f fields) = refusal? r doc fields := by
  simp only [refusal?, Configuration.mapFields, List.findSome?_map, Function.comp_def,
    RawSpec.invalid?_mapSteps, RawSpec.unanswered?_mapSteps,
    RawSpec.unresolved?_mapSteps f r doc doc']

end Extraction

end Harvest
