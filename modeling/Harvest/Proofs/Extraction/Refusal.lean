import Harvest.Page
import Harvest.Proofs.Extraction.Replacement

/-!
# Calls that are refused, and fields that take no part

The main statement decides every call: it is refused with the first failure of the first phase that
has one, and otherwise its active fields are evaluated. A refused call has done nothing, and a field
whose condition does not hold has no say in anything but through that condition.
-/

namespace Harvest

variable {ν : Type}

/-- A valid specification whose condition was answered and does not hold. -/
def RawSpec.Inactive (raw : RawSpec ν) : Prop :=
  ∃ spec, raw.validate = .ok spec ∧ spec.isActive = .ok false

namespace Extraction

variable [Host ν]

theorem activeField?_of_inactive (r : Registry ν) (doc : Document ν) {p : Text × RawSpec ν}
    (hp : p.2.Inactive) : activeField? r doc p = none := by
  obtain ⟨spec, hv, ha⟩ := hp
  simp [activeField?, FieldSpec.takesPart, hv, ha, Except.toOption]

/-- A field that takes no part is transparent to all three phases. -/
theorem refusal?_of_inactive (r : Registry ν) (doc : Document ν) {p : Text × RawSpec ν}
    (hp : p.2.Inactive) (before after : List (Text × RawSpec ν)) :
    refusal? r doc (before ++ p :: after) = refusal? r doc (before ++ after) := by
  obtain ⟨spec, hv, ha⟩ := hp
  have hinvalid : p.2.invalid? = none := by rw [RawSpec.invalid?, hv, failure?_ok]
  have hunanswered : p.2.unanswered? = none := by
    simp [RawSpec.unanswered?, hv, ha, Except.toOption]
  have hunresolved : p.2.unresolved? r doc = none := by
    simp [RawSpec.unresolved?, FieldSpec.takesPart, hv, ha, Except.toOption]
  simp only [refusal?, List.findSome?_append, List.findSome?_cons, hinvalid, hunanswered,
    hunresolved]

/-- A call depends on its fields that take no part as little as if they were not there. -/
theorem extract_of_inactive (r : Registry ν) (doc : Document ν) (root : ν)
    {config : Configuration ν} {p : Text × RawSpec ν} {before after : List (Text × RawSpec ν)}
    (hc : config.fields = before ++ p :: after) (hp : p.2.Inactive) :
    extract r doc root config = (refusal? r doc (before ++ after)).elim
      (evaluate doc root [] ((before ++ after).filterMap (activeField? r doc))) Outcome.fail := by
  rw [extract_eq_elim, hc, refusal?_of_inactive r doc hp, List.filterMap_append,
    List.filterMap_cons, activeField?_of_inactive r doc hp, List.filterMap_append]

/-- Every call is decided by the first phase that fails, else by the evaluation of its active
fields. When a phase fails, the outcome is that failure without a query, whatever transformations,
document and root there are. A field whose condition does not hold may have any other valid
selector and chain instead. -/
theorem extract_decided_by_phases (r : Registry ν) (doc : Document ν) (root : ν)
    (config : Configuration ν) :
    extract r doc root config = (refusal? r doc config.fields).elim
      (evaluate doc root [] (config.fields.filterMap (activeField? r doc))) Outcome.fail ∧
    (∀ e, refusal? r doc config.fields = some e →
      ∀ (f : Step ν → Step ν) (doc' : Document ν) (root' : ν),
        extract (r.mapSteps f) doc' root' (config.mapSteps f) = ⟨.error e, []⟩) ∧
    ∀ (other : Configuration ν) (before after : List (Text × RawSpec ν)) (key : Text)
      (raw raw' : RawSpec ν) (spec spec' : FieldSpec ν),
      config.fields = before ++ (key, raw) :: after →
      other.fields = before ++ (key, raw') :: after →
      raw.validate = .ok spec → spec.isActive = .ok false →
      raw'.validate = .ok spec' → spec'.condition = spec.condition →
      extract r doc root other = extract r doc root config := by
  refine ⟨extract_eq_elim r doc root config, ?_, ?_⟩
  · intro e he f doc' root'
    rw [extract_eq_elim, Configuration.mapSteps, refusal?_mapSteps f r doc doc', he,
      Option.elim_some, Outcome.fail]
  · intro other before after key raw raw' spec spec' hc ho hv ha hv' hcond
    have ha' : spec'.isActive = .ok false := by
      rw [← ha, FieldSpec.isActive, FieldSpec.isActive, hcond]
    rw [extract_of_inactive r doc root ho ⟨spec', hv', ha'⟩,
      extract_of_inactive r doc root hc ⟨spec, hv, ha⟩]

/-- A field with an unknown transformation, before something that is not a specification at all. -/
def spoilt : Configuration Markup.Cursor :=
  .ofPairs [("title".toList, .checked ⟨none, some "h1".toList, some [.text "tirm".toList]⟩),
    ("link".toList, .other)]

/-- A field that is switched off, with a chain. -/
def hidden (elements : List (Element Markup.Cursor)) : Configuration Markup.Cursor :=
  .ofPairs [("title".toList, .checked ⟨some (.ok (.bool false)), none, some elements⟩)]

theorem extract_spoilt_hidden :
    refusal? (.make true) Page.document spoilt.fields = some (.invalidSpec [⟨[], .modelType⟩]) ∧
    extract ((Registry.make true).mapSteps fun _ _ => .fail .selectorSyntax) Page.document
      ⟨.document, [], []⟩ (spoilt.mapSteps fun _ _ => .fail .selectorSyntax) =
        ⟨.error (.invalidSpec [⟨[], .modelType⟩]), []⟩ ∧
    extract (.make true) Page.document ⟨.document, [], []⟩ (hidden [.text "tirm".toList]) =
      extract (.make true) Page.document ⟨.document, [], []⟩ (hidden [.text "trim".toList]) := by
  have hrefused : refusal? (.make true) Page.document spoilt.fields =
      some (.invalidSpec [⟨[], .modelType⟩]) := rfl
  refine ⟨hrefused, ?_, ?_⟩
  · exact (extract_decided_by_phases (.make true) Page.document ⟨.document, [], []⟩ spoilt).2.1 _
      hrefused _ Page.document ⟨.document, [], []⟩
  · exact (extract_decided_by_phases (.make true) Page.document ⟨.document, [], []⟩
      (hidden [.text "trim".toList])).2.2 (hidden [.text "tirm".toList]) [] [] "title".toList
      _ _ _ _ rfl rfl rfl rfl rfl rfl

end Extraction

end Harvest
