import Harvest.Proofs.Number.Leading
import Harvest.Proofs.Number.Range
import Harvest.Proofs.Value.Overlong
import Harvest.Registry.Standard

/-!
# Where standard transformations fail

On a document that answers whatever it is asked, most of the standard transformations never fail. A
few do, each on values that hold a number too large for what is done with it: an integer with more
digits than may be read or written, one that is rounded or multiplied as a float and has no finite
one near to it, or a decimal with more digits than can be converted.
-/

namespace Harvest

variable {ν : Type}

/-- Documents whose every capability gives an answer. -/
structure Document.Answers (doc : Document ν) : Prop where
  findOne : ∀ n selector, ∃ v, doc.findOne n selector = .ok v
  findAll : ∀ n selector, ∃ vs, doc.findAll n selector = .ok vs
  innerHtml : ∀ n, ∃ t, doc.innerHtml n = .ok t
  innerText : ∀ n, ∃ t, doc.innerText n = .ok t
  formValue : ∀ n, ∃ t, doc.formValue n = .ok t
  attributeValue : ∀ n name, ∃ t, doc.attributeValue n name = .ok t
  detached : ∀ t, ∃ n, doc.detached t = .ok n
  childNodes : ∀ n, ∃ vs, doc.childNodes n = .ok vs
  nodeValue : ∀ v, ∃ t, doc.nodeValue v = .ok t

/-- Steps that give a value whatever they are run on. -/
def NeverFails (run : Step ν) : Prop := ∀ v, ∃ u, (run v).result = .ok u

theorem NeverFails.ne {run : Step ν} (h : NeverFails run) (v : Value ν) (f : Failure ν) :
    (run v).result ≠ .error f := by
  obtain ⟨u, hu⟩ := h v
  rw [hu]
  exact nofun

theorem neverFails_guarded {run : Step ν} (h : NeverFails run) (accepts : Accepts) :
    NeverFails (guarded accepts run) := by
  intro v
  cases accepts with
  | any => exact h v
  | only k =>
    rw [guarded]
    split
    · exact ⟨_, rfl⟩
    · split
      · exact h v
      · exact ⟨_, rfl⟩

theorem result_guarded_only_eq_error_iff {k : Kind} {run : Step ν} {v : Value ν} {f : Failure ν} :
    (guarded (.only k) run v).result = .error f ↔ v.kind = k ∧ (run v).result = .error f := by
  rw [guarded]
  by_cases hkind : v.kind = k
  · have hpresent : ¬ (k = .node ∧ v.kind = .absent) := by
      rintro ⟨rfl, habsent⟩
      rw [hkind] at habsent
      cases habsent
    rw [if_neg hpresent, if_pos hkind]
    simp only [hkind, true_and]
  · rw [if_neg hkind]
    split <;> simp [hkind]

namespace Standard

open Number

theorem neverFails_onNode {f : ν → Outcome ν (Value ν)} (h : ∀ n, ∃ u, (f n).result = .ok u) :
    NeverFails (onNode f) := by
  intro v
  cases v with
  | node n | nodeList n items => exact h n
  | _ => exact ⟨_, rfl⟩

theorem neverFails_onText {f : Text → Outcome ν (Value ν)} (h : ∀ t, ∃ u, (f t).result = .ok u) :
    NeverFails (onText f) := by
  intro v
  cases v with
  | text t => exact h t
  | _ => exact ⟨_, rfl⟩

theorem neverFails_onItems (f : List (Value ν) → Value ν) : NeverFails (onItems f) := by
  intro v
  cases v with
  | list items | tuple items => exact ⟨_, rfl⟩
  | _ => exact ⟨_, rfl⟩

/-! ### Nodes -/

section

variable {doc : Document ν} (hdoc : doc.Answers)
include hdoc

theorem neverFails_selectOne (selector : Text) : NeverFails (selectOne selector doc) :=
  neverFails_onNode fun n => hdoc.findOne n selector

theorem neverFails_selectAll (selector : Text) : NeverFails (selectAll selector doc) := by
  refine neverFails_onNode fun n => ?_
  obtain ⟨vs, hvs⟩ := hdoc.findAll n selector
  refine ⟨.list vs, ?_⟩
  rw [Outcome.result_bind, Document.queryAll, Outcome.queried, hvs]
  rfl

theorem neverFails_innerHtml : NeverFails (innerHtml doc) := by
  refine neverFails_onNode fun n => ?_
  obtain ⟨t, ht⟩ := hdoc.innerHtml n
  exact ⟨.text t, by rw [ht]; rfl⟩

theorem neverFails_innerText : NeverFails (innerText doc) := by
  refine neverFails_onNode fun n => ?_
  obtain ⟨t, ht⟩ := hdoc.innerText n
  exact ⟨.text t, by rw [ht]; rfl⟩

theorem neverFails_formValue : NeverFails (formValue doc) := by
  refine neverFails_onNode fun n => ?_
  obtain ⟨t, ht⟩ := hdoc.formValue n
  exact ⟨.ofText? t, by rw [ht]; rfl⟩

theorem neverFails_getAttribute (name : Text) : NeverFails (getAttribute name doc) := by
  refine neverFails_onNode fun n => ?_
  obtain ⟨t, ht⟩ := hdoc.attributeValue n name
  exact ⟨.ofText? t, by rw [ht]; rfl⟩

end

/-! ### Texts and sequences -/

theorem neverFails_trim : NeverFails (trim : Step ν) :=
  neverFails_onText fun _ => ⟨_, rfl⟩

theorem neverFails_matchPattern (p : Pattern) : NeverFails (matchPattern p : Step ν) := by
  refine neverFails_onText fun t => ?_
  cases p.match? t with
  | none => exact ⟨_, rfl⟩
  | some found => exact ⟨_, rfl⟩

theorem neverFails_getIndex (index : Int) : NeverFails (getIndex index : Step ν) :=
  neverFails_onItems _

/-! ### Numbers -/

theorem leadingInteger_eq_error_iff {t : Text} {digits : Nat} :
    leadingInteger t = .error digits ↔
      digitLimit < (leadingDigits t).2.length ∧ digits = (leadingDigits t).2.length := by
  rw [leadingInteger]
  by_cases hnone : (leadingDigits t).2 = []
  · simp [hnone]
  · by_cases hlong : digitLimit < (leadingDigits t).2.length
    · simp [hnone, hlong, eq_comm]
    · simp [hnone, hlong]

theorem result_toInt_eq_error_iff {v : Value ν} {f : Failure ν} :
    (toInt v).result = .error f ↔ ∃ t, v = .text t ∧
      digitLimit < (leadingDigits t).2.length ∧ f = .tooManyDigits (leadingDigits t).2.length := by
  cases v with
  | text t =>
    rw [toInt, onText]
    cases hleading : leadingInteger t with
    | error digits =>
      obtain ⟨hlong, hdigits⟩ := leadingInteger_eq_error_iff.1 hleading
      subst hdigits
      simp [Outcome.fail, hlong, eq_comm]
    | ok n? =>
      have hshort : ¬ digitLimit < (leadingDigits t).2.length := fun hlong => by
        rw [leadingInteger_eq_error_iff.2 ⟨hlong, rfl⟩] at hleading
        cases hleading
      cases n? <;> simp [hshort]
  | _ => simp [toInt, onText]

theorem result_toFloat_eq_error_iff {v : Value ν} {f : Failure ν} :
    (toFloat v).result = .error f ↔
      ∃ t p, v = .text t ∧ leadingFloat t = .error p ∧ f = .notFloat p := by
  cases v with
  | text t =>
    rw [toFloat, onText]
    cases hleading : leadingFloat t with
    | error p => simp [Outcome.fail, hleading, eq_comm]
    | ok x? => cases x? <;> simp [hleading]
  | _ => simp [toFloat, onText]

theorem result_round_eq_error_iff {v : Value ν} {f : Failure ν} :
    (round v).result = .error f ↔
      ∃ n : Int, v = .int n ∧ overflowBound ≤ n.natAbs ∧ f = .intTooLarge := by
  cases v with
  | int n =>
    rw [round]
    cases hfloat : ofInt? n with
    | none => simp [Outcome.fail, (ofInt?_eq_none_iff n).1 hfloat, eq_comm]
    | some x => simp [natAbs_lt_of_ofInt? hfloat]
  | _ => simp [round]

/-- Multiplying fails on an integer too large for a float when the other factor is a float. -/
theorem multiply_eq_error_iff {a b : Value ν} {f : Failure ν} :
    multiply a b = .error f ↔ f = .intTooLarge ∧
      ((∃ (n : Int) (x : Float), a = .int n ∧ b = .float x ∧ overflowBound ≤ n.natAbs) ∨
        ∃ (x : Float) (n : Int), a = .float x ∧ b = .int n ∧ overflowBound ≤ n.natAbs) := by
  cases a with
  | int n =>
    cases b with
    | float x =>
      rw [multiply]
      cases hfloat : ofInt? n with
      | none => simp [(ofInt?_eq_none_iff n).1 hfloat, eq_comm]
      | some y => simp [natAbs_lt_of_ofInt? hfloat]
    | _ => simp [multiply]
  | float x =>
    cases b with
    | int n =>
      rw [multiply]
      cases hfloat : ofInt? n with
      | none => simp [(ofInt?_eq_none_iff n).1 hfloat, eq_comm]
      | some y => simp [natAbs_lt_of_ofInt? hfloat]
    | _ => simp [multiply]
  | _ => simp [multiply]

theorem orUnwritable_eq_error_iff {t : Option Text} {f : Failure ν} :
    orUnwritable t = .error f ↔ t = none ∧ f = .unwritable := by
  cases t with
  | none => simp [orUnwritable, eq_comm]
  | some t => simp [orUnwritable]

variable [Host ν]

theorem neverFails_split (delimiter : Text) (limit : Option Int) :
    NeverFails (split (.text delimiter) limit : Step ν) :=
  neverFails_onText fun _ => ⟨_, rfl⟩

theorem neverFails_replace (p : Pattern) (replacement : Text) :
    NeverFails (replace p (.text replacement) : Step ν) :=
  neverFails_onText fun _ => ⟨_, rfl⟩

/-! ### Values coerced to text -/

theorem result_toString_eq_error_iff {v : Value ν} {f : Failure ν} :
    (toString v).result = .error f ↔ v.OverlongText ∧ f = .unwritable := by
  rw [← Value.toText_eq_none_iff, ← orUnwritable_eq_error_iff, toString]
  cases orUnwritable v.toText with
  | error e => simp [Except.map]
  | ok t => simp [Except.map]

theorem exists_toText_ofText? (t : Option Text) :
    ∃ u, (Value.ofText? t : Value ν).toText = some u := by
  cases t with
  | none => exact ⟨_, rfl⟩
  | some t => exact ⟨t, rfl⟩

theorem result_htmlToText_eq_error_iff {doc : Document ν} (hdoc : doc.Answers) {v : Value ν}
    {f : Failure ν} :
    (htmlToText doc v).result = .error f ↔ v.OverlongText ∧ f = .unwritable := by
  rw [← Value.toText_eq_none_iff, ← orUnwritable_eq_error_iff, htmlToText]
  cases orUnwritable v.toText with
  | error e => simp [bind, Except.bind, Outcome.of]
  | ok markup =>
    obtain ⟨container, hcontainer⟩ := hdoc.detached markup
    obtain ⟨children, hchildren⟩ := hdoc.childNodes container
    simp only [bind, Except.bind, hcontainer, hchildren, Outcome.of]
    cases children with
    | nil => simp [pure, Except.pure]
    | cons child children =>
      obtain ⟨t, ht⟩ := hdoc.nodeValue child
      obtain ⟨u, hu⟩ := exists_toText_ofText? (ν := ν) t
      simp [ht, hu, orUnwritable, pure, Except.pure]

end Standard

end Harvest
