import Harvest.Extraction
import Harvest.Proofs.Traversal

/-!
# The first failure of the first phase that fails

Three phases come before any query: specifications are checked, conditions are asked, chains are
resolved. Each goes over the whole configuration before the next begins, so that the failure of a
call is the first failure of the first of them that has one. The phases are read here as searches
through the configuration, and `prepare` is shown to find exactly what these searches find.
-/

namespace Harvest

namespace Chain

variable {ν : Type} [Host ν]

theorem resolveSteps_eq_mapM (r : Registry ν) (doc : Document ν) (xs : List (Element ν)) :
    resolveSteps r doc xs = xs.mapM fun x => resolveElement x r doc := by
  induction xs with
  | nil => rfl
  | cons x xs ih => rw [resolveSteps, ih, List.mapM_cons]

/-- A chain fails to resolve with the failure of its first element that does. -/
theorem failure?_resolve (r : Registry ν) (doc : Document ν) (xs : List (Element ν)) :
    failure? (resolve xs r doc) = xs.findSome? fun x => failure? (resolveElement x r doc) := by
  rw [resolve, failure?_map, resolveSteps_eq_mapM, mapM_eq_elim]
  cases xs.findSome? fun x => failure? (resolveElement x r doc) <;> rfl

end Chain

namespace FieldSpec

variable {ν : Type}

/-- Whether the condition, if there is one, was answered and holds. -/
def takesPart (spec : FieldSpec ν) : Bool := spec.isActive.toOption.getD false

end FieldSpec

namespace RawSpec

variable {ν : Type}

def takesPart (raw : RawSpec ν) : Bool := (raw.validate.toOption.map (·.takesPart)).getD false

def invalid? (raw : RawSpec ν) : Option (Failure ν) := failure? raw.validate

/-- The failure of the condition of a valid specification. -/
def unanswered? (raw : RawSpec ν) : Option (Failure ν) :=
  raw.validate.toOption.bind fun spec => failure? spec.isActive

/-- The failure of the first element that cannot be resolved, in a field that takes part. -/
def unresolved? [Host ν] (r : Registry ν) (doc : Document ν) (raw : RawSpec ν) :
    Option (Failure ν) :=
  raw.validate.toOption.bind fun spec =>
    if spec.takesPart then
      (spec.elements.getD []).findSome? fun x => failure? (Chain.resolveElement x r doc)
    else none

end RawSpec

namespace Extraction

variable {ν : Type}

/-- The specification under a key, if it is valid. -/
def spec? (p : Text × RawSpec ν) : Option (Text × FieldSpec ν) :=
  p.2.validate.toOption.map fun spec => (p.1, spec)

theorem validateAll_eq_elim (fields : List (Text × RawSpec ν)) :
    validateAll fields =
      (fields.findSome? fun p => p.2.invalid?).elim (.ok (fields.filterMap spec?)) .error := by
  induction fields with
  | nil => rfl
  | cons p fields ih =>
    rw [validateAll, ih, List.findSome?_cons, List.filterMap_cons, RawSpec.invalid?, spec?]
    cases p.2.validate with
    | error e => rfl
    | ok spec =>
      cases fields.findSome? fun p => p.2.invalid? with
      | some e => rfl
      | none => rfl

theorem selectActive_eq_elim (specs : List (Text × FieldSpec ν)) :
    selectActive specs = (specs.findSome? fun p => failure? p.2.isActive).elim
      (.ok (specs.filter fun p => p.2.takesPart)) .error := by
  induction specs with
  | nil => rfl
  | cons p specs ih =>
    rw [selectActive, ih, List.findSome?_cons, List.filter_cons, FieldSpec.takesPart]
    cases p.2.isActive with
    | error e => rfl
    | ok active =>
      cases specs.findSome? fun p => failure? p.2.isActive with
      | some e => rfl
      | none => cases active <;> rfl

/-- The specification under a key, if it is valid and takes part. -/
def activeSpec? (p : Text × RawSpec ν) : Option (Text × FieldSpec ν) :=
  p.2.validate.toOption.bind fun spec => if spec.takesPart then some (p.1, spec) else none

def activeSpecs (fields : List (Text × RawSpec ν)) : List (Text × FieldSpec ν) :=
  fields.filterMap activeSpec?

theorem filter_spec? (fields : List (Text × RawSpec ν)) :
    ((fields.filterMap spec?).filter fun p => p.2.takesPart) = activeSpecs fields := by
  rw [List.filter_filterMap, activeSpecs]
  congr 1
  funext p
  rw [spec?, activeSpec?]
  cases p.2.validate with
  | error e => rfl
  | ok spec => rfl

theorem keys_activeSpecs (fields : List (Text × RawSpec ν)) :
    (activeSpecs fields).map (·.1) = (fields.filter fun p => p.2.takesPart).map (·.1) := by
  induction fields with
  | nil => rfl
  | cons p fields ih =>
    rw [activeSpecs, List.filterMap_cons, List.filter_cons, activeSpec?, RawSpec.takesPart]
    cases p.2.validate with
    | error e => exact ih
    | ok spec =>
      rw [Except.toOption, Option.bind_some, Option.map_some, Option.getD_some]
      cases spec.takesPart with
      | false => exact ih
      | true => exact congrArg (p.1 :: ·) ih

theorem findSome?_isActive (fields : List (Text × RawSpec ν)) :
    ((fields.filterMap spec?).findSome? fun p => failure? p.2.isActive) =
      fields.findSome? fun p => p.2.unanswered? := by
  rw [findSome?_filterMap]
  congr 1
  funext p
  rw [spec?, RawSpec.unanswered?, Option.bind_map]
  rfl

section

variable [Host ν]

theorem resolveAll_eq_mapM (r : Registry ν) (doc : Document ν)
    (specs : List (Text × FieldSpec ν)) :
    resolveAll r doc specs = specs.mapM fun p => resolveField r doc p.1 p.2 := by
  induction specs with
  | nil => rfl
  | cons p specs ih => rw [resolveAll, ih, List.mapM_cons]

theorem failure?_resolveField (r : Registry ν) (doc : Document ν) (key : Text)
    (spec : FieldSpec ν) : failure? (resolveField r doc key spec) =
      (spec.elements.getD []).findSome? fun x => failure? (Chain.resolveElement x r doc) := by
  rw [resolveField, failure?_map]
  rcases spec.elements with _ | _ | ⟨x, xs⟩
  · rfl
  · rfl
  · rw [resolveElements, failure?_map, Chain.failure?_resolve, Option.getD_some]

/-- The field a specification stands for, if it takes part and its chain can be resolved. -/
def activeField? (r : Registry ν) (doc : Document ν) (p : Text × RawSpec ν) :
    Option (ActiveField ν) :=
  p.2.validate.toOption.bind fun spec =>
    if spec.takesPart then (resolveField r doc p.1 spec).toOption else none

/-- The failure that a configuration is refused with: of the first invalid specification, else of
the first condition that fails, else of the first element that cannot be resolved. -/
def refusal? (r : Registry ν) (doc : Document ν) (fields : List (Text × RawSpec ν)) :
    Option (Failure ν) :=
  ((fields.findSome? fun p => p.2.invalid?).or (fields.findSome? fun p => p.2.unanswered?)).or
    (fields.findSome? fun p => p.2.unresolved? r doc)

theorem resolveAll_eq_elim (r : Registry ν) (doc : Document ν)
    (fields : List (Text × RawSpec ν)) :
    resolveAll r doc (activeSpecs fields) =
      (fields.findSome? fun p => p.2.unresolved? r doc).elim
        (.ok (fields.filterMap (activeField? r doc))) .error := by
  rw [resolveAll_eq_mapM, mapM_eq_elim, activeSpecs, findSome?_filterMap,
    List.filterMap_filterMap]
  have hfailure : (fun p : Text × RawSpec ν => (activeSpec? p).bind fun p =>
      failure? (resolveField r doc p.1 p.2)) = fun p => p.2.unresolved? r doc := by
    funext p
    rw [activeSpec?, RawSpec.unresolved?, Option.bind_assoc]
    congr 1
    funext spec
    split
    · exact failure?_resolveField r doc p.1 spec
    · rfl
  have hfield : (fun p : Text × RawSpec ν => (activeSpec? p).bind fun p =>
      (resolveField r doc p.1 p.2).toOption) = activeField? r doc := by
    funext p
    rw [activeSpec?, activeField?, Option.bind_assoc]
    congr 1
    funext spec
    split <;> rfl
  rw [hfailure, hfield]

theorem prepare_eq_elim (r : Registry ν) (doc : Document ν) (config : Configuration ν) :
    prepare r doc config = (refusal? r doc config.fields).elim
      (.ok (config.fields.filterMap (activeField? r doc))) .error := by
  rw [prepare, validateAll_eq_elim, refusal?]
  cases config.fields.findSome? fun p => p.2.invalid? with
  | some e => rfl
  | none =>
    change (selectActive (config.fields.filterMap spec?)).bind (resolveAll r doc) = _
    rw [selectActive_eq_elim, findSome?_isActive, filter_spec?, Option.none_or]
    cases config.fields.findSome? fun p => p.2.unanswered? with
    | some e => rfl
    | none => exact resolveAll_eq_elim r doc config.fields

theorem extract_eq_elim (r : Registry ν) (doc : Document ν) (root : ν)
    (config : Configuration ν) :
    extract r doc root config = (refusal? r doc config.fields).elim
      (evaluate doc root [] (config.fields.filterMap (activeField? r doc))) Outcome.fail := by
  rw [extract, prepare_eq_elim]
  cases refusal? r doc config.fields with
  | some e => rfl
  | none => rw [Option.elim_none, Option.elim_none, Outcome.of_ok, Outcome.ok_bind, List.nil_append]

end

end Extraction

end Harvest
