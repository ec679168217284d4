import Harvest.Proofs.Descriptor.Binding
import Harvest.Proofs.Standard.Failures

/-!
# The failures of the standard set

Each standard transformation other than slicing fails on exactly the values that its hazard names,
and with exactly that failure. Most have no hazard at all. What a transformation was called with
only matters for multiplying, where it says what the factor is.
-/

namespace Harvest.Standard

variable {ν : Type}

open Number

/-- What a standard transformation does with numbers that can be too large for it. -/
inductive Hazard where
  | reading
  | converting
  | rounding
  | multiplying
  | writing
  deriving DecidableEq, Repr

/-- The hazard of the standard transformation of a name, if it has one. -/
def hazard? (name : Text) : Option Hazard :=
  if name = "to-int" then some .reading
  else if name = "to-float" then some .converting
  else if name = "round" then some .rounding
  else if name = "multiply-by" then some .multiplying
  else if name = "to-string" ∨ name = "html-to-text" then some .writing
  else none

/-- The number that an argument text denotes: an integer, or else a float. -/
def factor? (t : Text) : Option (Value ν) :=
  ((integer? t).map .int).or ((float? t).map .float)

/-- The values that are too large for what is done with them, and the failures they cause. -/
inductive Overrun (args : List Text) : Hazard → Value ν → Failure ν → Prop
  | reading {t : Text} (h : digitLimit < (leadingDigits t).2.length) :
    Overrun args .reading (.text t) (.tooManyDigits (leadingDigits t).2.length)
  | converting {t p : Text} (hp : numberText t = some p)
    (h : isOverlong (splitSign p).2 = true) : Overrun args .converting (.text t) (.notFloat p)
  | rounding {n : Int} (h : overflowBound ≤ n.natAbs) :
    Overrun args .rounding (.int n) .intTooLarge
  | byInt {n : Int} {x : Float}
    (hfactor : factor? (Text.join [':'] args) = some (.int n : Value ν))
    (h : overflowBound ≤ n.natAbs) : Overrun args .multiplying (.float x) .intTooLarge
  | byFloat {n : Int} {x : Float}
    (hfactor : factor? (Text.join [':'] args) = some (.float x : Value ν))
    (h : overflowBound ≤ n.natAbs) : Overrun args .multiplying (.int n) .intTooLarge
  | writing {v : Value ν} (h : v.OverlongText) : Overrun args .writing v .unwritable

variable [Host ν]

/-- The entry fails just as its hazard says, whichever texts it is called with. -/
def FailsByHazard (doc : Document ν) (e : Entry ν) : Prop :=
  ∀ (args : List Text) (step : Step ν), e.bind (args.map .text) doc = .ok step →
    ∀ (v : Value ν) (f : Failure ν), (step v).result = .error f ↔
      ∃ hazard, hazard? e.name = some hazard ∧ Overrun args hazard v f

variable {doc : Document ν} {e : Entry ν}

theorem failsByHazard_of_neverFails (hname : hazard? e.name = none)
    (h : ∀ (args : List Text) (step : Step ν), e.bind (args.map .text) doc = .ok step →
      NeverFails step) : FailsByHazard doc e := by
  intro args step hstep v f
  constructor
  · intro hf
    exact absurd hf ((h args step hstep).ne v f)
  · rintro ⟨hazard, hsome, -⟩
    rw [hname] at hsome
    cases hsome

theorem failsByHazard_of_plain {run : Document ν → Step ν} (hform : e.form = .plain run)
    (hname : hazard? e.name = none) (h : NeverFails (run doc)) : FailsByHazard doc e := by
  refine failsByHazard_of_neverFails hname fun args step hstep => ?_
  obtain ⟨-, rfl⟩ := Entry.bind_plain_eq_ok hform hstep
  exact neverFails_guarded h e.accepts

theorem failsByHazard_of_factory {s : Signature}
    {make : List (Value ν) → Except (Objection ν) (Document ν → Step ν)}
    (hform : e.form = .factory s make) (hname : hazard? e.name = none)
    (h : ∀ (args : List Text) (run : Document ν → Step ν), make (args.map .text) = .ok run →
      NeverFails (run doc)) : FailsByHazard doc e := by
  refine failsByHazard_of_neverFails hname fun args step hstep => ?_
  obtain ⟨folded, run, hrun, rfl⟩ := Entry.exists_of_bind_texts hform hstep
  exact neverFails_guarded (h folded run hrun) e.accepts

/-! ### Factories that make nothing that fails -/

theorem failsByHazard_select {select : Text → Document ν → Step ν}
    (hform : e.form = selectForm select) (hname : hazard? e.name = none)
    (h : ∀ selector, NeverFails (select selector doc)) : FailsByHazard doc e := by
  refine failsByHazard_of_factory hform hname fun args run hrun => ?_
  cases args with
  | nil => cases hrun
  | cons selector args =>
    cases hrun
    exact h selector

theorem failsByHazard_getAttribute (hdoc : doc.Answers) (hform : e.form = getAttributeForm)
    (hname : hazard? e.name = none) : FailsByHazard doc e := by
  refine failsByHazard_of_factory hform hname fun args run hrun => ?_
  cases args with
  | nil => cases hrun
  | cons name args =>
    cases hrun
    exact neverFails_getAttribute hdoc name

theorem failsByHazard_split (hform : e.form = splitForm) (hname : hazard? e.name = none) :
    FailsByHazard doc e := by
  refine failsByHazard_of_factory hform hname fun args run hrun => ?_
  cases args with
  | nil => cases hrun
  | cons delimiter args =>
    obtain ⟨limit, -, hlimit⟩ := bind_eq_ok_iff.1 hrun
    cases hlimit
    exact neverFails_split delimiter limit

theorem failsByHazard_replace (hform : e.form = replaceForm) (hname : hazard? e.name = none) :
    FailsByHazard doc e := by
  refine failsByHazard_of_factory hform hname fun args run hrun => ?_
  rcases args with _ | ⟨pattern, _ | ⟨replacement, args⟩⟩
  · cases hrun
  · cases hrun
  · obtain ⟨p, -, hp⟩ := bind_eq_ok_iff.1 hrun
    cases hp
    exact neverFails_replace p replacement

theorem failsByHazard_match (hform : e.form = matchForm) (hname : hazard? e.name = none) :
    FailsByHazard doc e := by
  refine failsByHazard_of_factory hform hname fun args run hrun => ?_
  cases args with
  | nil => cases hrun
  | cons pattern args =>
    obtain ⟨p, -, hp⟩ := bind_eq_ok_iff.1 hrun
    cases hp
    exact neverFails_matchPattern p

theorem failsByHazard_getIndex (hform : e.form = getIndexForm) (hname : hazard? e.name = none) :
    FailsByHazard doc e := by
  refine failsByHazard_of_factory hform hname fun args run hrun => ?_
  cases args with
  | nil => cases hrun
  | cons index args =>
    obtain ⟨i, -, hi⟩ := bind_eq_ok_iff.1 hrun
    cases hi
    exact neverFails_getIndex i

/-! ### Transformations with a hazard -/

theorem failsByHazard_of_hazard {run : Document ν → Step ν} {hazard : Hazard}
    (hform : e.form = .plain run) (hname : hazard? e.name = some hazard)
    (h : ∀ args v f, (guarded e.accepts (run doc) v).result = .error f ↔ Overrun args hazard v f) :
    FailsByHazard doc e := by
  intro args step hstep v f
  obtain ⟨-, rfl⟩ := Entry.bind_plain_eq_ok hform hstep
  rw [h args]
  constructor
  · exact fun hoverrun => ⟨hazard, hname, hoverrun⟩
  · rintro ⟨hazard', hhazard, hoverrun⟩
    cases hname.symm.trans hhazard
    exact hoverrun

theorem failsByHazard_toInt (hform : e.form = plainForm toInt) (haccepts : e.accepts = .only .text)
    (hname : hazard? e.name = some .reading) : FailsByHazard doc e := by
  refine failsByHazard_of_hazard hform hname fun args v f => ?_
  rw [haccepts, result_guarded_only_eq_error_iff, result_toInt_eq_error_iff]
  constructor
  · rintro ⟨-, t, rfl, hlong, rfl⟩
    exact .reading hlong
  · intro h
    cases h with
    | reading hlong => exact ⟨rfl, _, rfl, hlong, rfl⟩

theorem failsByHazard_toFloat (hform : e.form = plainForm toFloat)
    (haccepts : e.accepts = .only .text) (hname : hazard? e.name = some .converting) :
    FailsByHazard doc e := by
  refine failsByHazard_of_hazard hform hname fun args v f => ?_
  rw [haccepts, result_guarded_only_eq_error_iff, result_toFloat_eq_error_iff]
  constructor
  · rintro ⟨-, t, p, rfl, hfloat, rfl⟩
    obtain ⟨hp, hlong⟩ := leadingFloat_eq_error_iff.1 hfloat
    exact .converting hp hlong
  · intro h
    cases h with
    | converting hp hlong =>
      exact ⟨rfl, _, _, rfl, leadingFloat_eq_error_iff.2 ⟨hp, hlong⟩, rfl⟩

theorem failsByHazard_round (hform : e.form = plainForm round)
    (haccepts : e.accepts = .only .number) (hname : hazard? e.name = some .rounding) :
    FailsByHazard doc e := by
  refine failsByHazard_of_hazard hform hname fun args v f => ?_
  rw [haccepts, result_guarded_only_eq_error_iff, result_round_eq_error_iff]
  constructor
  · rintro ⟨-, n, rfl, hlarge, rfl⟩
    exact .rounding hlarge
  · intro h
    cases h with
    | rounding hlarge => exact ⟨rfl, _, rfl, hlarge, rfl⟩

theorem failsByHazard_writing {run : Document ν → Step ν} (hform : e.form = .plain run)
    (haccepts : e.accepts = .any) (hname : hazard? e.name = some .writing)
    (h : ∀ (v : Value ν) (f : Failure ν),
      (run doc v).result = .error f ↔ v.OverlongText ∧ f = .unwritable) : FailsByHazard doc e := by
  refine failsByHazard_of_hazard hform hname fun args v f => ?_
  rw [haccepts, guarded, h]
  constructor
  · rintro ⟨hlong, rfl⟩
    exact .writing hlong
  · intro hoverrun
    cases hoverrun with
    | writing hlong => exact ⟨hlong, rfl⟩

theorem factor?_of_numberArgument {parameter t : Text} {v : Value ν}
    (h : numberArgument parameter (.text t) = .ok v) : factor? t = some v := by
  simp only [numberArgument, Value.plain, Value.written] at h
  rw [factor?]
  cases hint : integer? t with
  | some n =>
    rw [hint] at h
    cases h
    rfl
  | none =>
    rw [hint] at h
    cases hfloat : float? t with
    | some x =>
      rw [hfloat] at h
      cases h
      rfl
    | none =>
      rw [hfloat] at h
      cases h

theorem failsByHazard_multiply (hform : e.form = multiplyForm)
    (haccepts : e.accepts = .only .number) (hname : hazard? e.name = some .multiplying) :
    FailsByHazard doc e := by
  intro args step hstep v f
  obtain ⟨run, hrun, rfl⟩ := Entry.exists_of_bind_single hstep hform rfl rfl nofun
  obtain ⟨factor, hnumber, hmultiply⟩ := bind_eq_ok_iff.1 hrun
  cases hmultiply
  have hfactor := factor?_of_numberArgument hnumber
  rw [haccepts, result_guarded_only_eq_error_iff]
  change v.kind = .number ∧ multiply factor v = .error f ↔ _
  rw [multiply_eq_error_iff]
  constructor
  · rintro ⟨-, rfl, ⟨n, x, rfl, rfl, hlarge⟩ | ⟨x, n, rfl, rfl, hlarge⟩⟩
    · exact ⟨_, hname, .byInt hfactor hlarge⟩
    · exact ⟨_, hname, .byFloat hfactor hlarge⟩
  · rintro ⟨hazard, hhazard, h⟩
    cases hname.symm.trans hhazard
    cases h with
    | byInt hint hlarge =>
      cases hfactor.symm.trans hint
      exact ⟨rfl, rfl, .inl ⟨_, _, rfl, rfl, hlarge⟩⟩
    | byFloat hfloat hlarge =>
      cases hfactor.symm.trans hfloat
      exact ⟨rfl, rfl, .inr ⟨_, _, rfl, rfl, hlarge⟩⟩

/-! ### The set -/

theorem failsByHazard_of_mem (hdoc : doc.Answers) :
    ∀ e ∈ (entries : List (Entry ν)), e.name ≠ "slice".toList → FailsByHazard doc e := by
  rw [entries]
  repeat' refine List.forall_mem_cons.2 ⟨fun hslice => ?_, ?_⟩
  · exact failsByHazard_select rfl rfl (neverFails_selectOne hdoc)
  · exact failsByHazard_select rfl rfl (neverFails_selectAll hdoc)
  · exact failsByHazard_of_plain rfl rfl (neverFails_innerHtml hdoc)
  · exact failsByHazard_of_plain rfl rfl (neverFails_innerText hdoc)
  · exact failsByHazard_of_plain rfl rfl (neverFails_formValue hdoc)
  · exact failsByHazard_getAttribute hdoc rfl rfl
  · exact failsByHazard_toInt rfl rfl rfl
  · exact failsByHazard_toFloat rfl rfl rfl
  · exact failsByHazard_round rfl rfl rfl
  · exact failsByHazard_multiply rfl rfl rfl
  · exact failsByHazard_writing rfl rfl rfl fun _ _ => result_htmlToText_eq_error_iff hdoc
  · exact failsByHazard_writing rfl rfl rfl fun _ _ => result_toString_eq_error_iff
  · exact failsByHazard_of_plain rfl rfl neverFails_trim
  · exact failsByHazard_split rfl rfl
  · exact failsByHazard_replace rfl rfl
  · exact failsByHazard_match rfl rfl
  · exact failsByHazard_getIndex rfl rfl
  · exact absurd rfl hslice
  · exact List.forall_mem_nil _

end Harvest.Standard
