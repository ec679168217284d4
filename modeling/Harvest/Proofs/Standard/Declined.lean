import Harvest.Proofs.Descriptor.Binding

/-!
# Values that standard transformations decline

A transformation that is given a value of another kind than its own yields the inapplicable result,
and one of nodes passes an absent node through. Within their own kind, a text without a number reads
as no number, a position that no item has yields the inapplicable result, and a pattern that does
not occur yields an absent value. None of these is a failure, and none asks the document.
-/

namespace Harvest.Standard

variable {ν : Type}

open Number

theorem toInt_of_leadingDigits {t : Text} (h : (leadingDigits t).2 = []) :
    toInt (.text t : Value ν) = pure (.float nan) := by
  have hleading : leadingInteger t = .ok none := by
    rw [leadingInteger]
    simp only [h, if_true]
  rw [toInt, onText, hleading]

theorem toFloat_of_leadingDecimal {t : Text} (h : leadingDecimal t = none) :
    toFloat (.text t : Value ν) = pure (.float nan) := by
  rw [toFloat, onText, leadingFloat, h]

theorem getIndex_of_out_of_range {i : Int} {items : List (Value ν)} {v : Value ν}
    (hitems : v = .list items ∨ v = .tuple items) (h : i < 0 ∨ (items.length : Int) ≤ i) :
    getIndex i v = pure .inapplicable := by
  have hitem : (if 0 ≤ i then (items[i.toNat]?).getD Value.inapplicable else Value.inapplicable) =
      (Value.inapplicable : Value ν) := by
    split
    · have hlong : items.length ≤ i.toNat := by omega
      rw [List.getElem?_eq_none hlong]
      rfl
    · rfl
  rcases hitems with rfl | rfl
  · exact congrArg pure hitem
  · exact congrArg pure hitem

theorem matchPattern_of_match? {p : Pattern} {t : Text} (h : p.match? t = none) :
    matchPattern p (.text t : Value ν) = pure .absent := by
  rw [matchPattern, onText, h]

variable [Host ν]

/-- What the standard transformation of a name, called with some argument texts, can do nothing
with, and what it yields instead. -/
inductive Declined (name : Text) (args : List Text) : Value ν → Value ν → Prop
  | kind {e : Entry ν} {k : Kind} {v : Value ν} (he : e ∈ entries) (hname : e.name = name)
    (haccepts : e.accepts = .only k) (hkind : v.kind ≠ k)
    (hpresent : ¬ (k = .node ∧ v.kind = .absent)) : Declined name args v .inapplicable
  | absentNode {e : Entry ν} (he : e ∈ entries) (hname : e.name = name)
    (haccepts : e.accepts = .only .node) : Declined name args .absent .absent
  | noInteger {t : Text} (hname : name = "to-int") (h : (leadingDigits t).2 = []) :
    Declined name args (.text t) (.float nan)
  | noDecimal {t : Text} (hname : name = "to-float") (h : leadingDecimal t = none) :
    Declined name args (.text t) (.float nan)
  | noMatch {t : Text} {p : Pattern} (hname : name = "match")
    (hpattern : Pattern.read (Host.characterNames ν) (Text.join [':'] args) = .ok p)
    (h : p.match? t = none) :
    Declined name args (.text t) .absent
  | noItem {v : Value ν} {items : List (Value ν)} {i : Int} (hname : name = "get-index")
    (hindex : leadingInteger (Text.join [':'] args) = .ok (some i))
    (hitems : v = .list items ∨ v = .tuple items) (h : i < 0 ∨ (items.length : Int) ≤ i) :
    Declined name args v .inapplicable

theorem eq_of_name_eq {e e' : Entry ν} (he : e ∈ entries) (he' : e' ∈ entries)
    (hname : e.name = e'.name) : e = e' :=
  Registry.eq_of_name_eq Registry.nodup_standard he he' hname

variable {doc : Document ν} {e : Entry ν} {args : List Text} {step : Step ν}

theorem step_of_kind_ne {k : Kind} (haccepts : e.accepts = .only k)
    (hstep : e.bind (args.map .text) doc = .ok step) {v : Value ν} (hkind : v.kind ≠ k)
    (hpresent : ¬ (k = .node ∧ v.kind = .absent)) : step v = pure .inapplicable := by
  obtain ⟨run, -, rfl⟩ := map_eq_ok_iff.1 hstep
  rw [haccepts, guarded, if_neg hpresent, if_neg hkind]

theorem step_absent (haccepts : e.accepts = .only .node)
    (hstep : e.bind (args.map .text) doc = .ok step) : step .absent = pure .absent := by
  obtain ⟨run, -, rfl⟩ := map_eq_ok_iff.1 hstep
  rw [haccepts]
  rfl

/-- What a standard transformation declines it answers at once. -/
theorem step_of_declined (he : e ∈ entries) (hstep : e.bind (args.map .text) doc = .ok step)
    {v u : Value ν} (h : Declined e.name args v u) : step v = pure u := by
  cases h with
  | kind he' hname haccepts hkind hpresent =>
    cases eq_of_name_eq he' he hname
    exact step_of_kind_ne haccepts hstep hkind hpresent
  | absentNode he' hname haccepts =>
    cases eq_of_name_eq he' he hname
    exact step_absent haccepts hstep
  | noInteger hname h =>
    cases eq_of_name_eq he (List.mem_of_getElem? (rfl : entries[6]? = some _)) hname
    obtain ⟨-, rfl⟩ := Entry.bind_plain_eq_ok rfl hstep
    exact toInt_of_leadingDigits h
  | noDecimal hname h =>
    cases eq_of_name_eq he (List.mem_of_getElem? (rfl : entries[7]? = some _)) hname
    obtain ⟨-, rfl⟩ := Entry.bind_plain_eq_ok rfl hstep
    exact toFloat_of_leadingDecimal h
  | noMatch hname hpattern h =>
    cases eq_of_name_eq he (List.mem_of_getElem? (rfl : entries[15]? = some _)) hname
    obtain ⟨run, hrun, rfl⟩ := Entry.exists_of_bind_single hstep rfl rfl rfl nofun
    obtain ⟨p', hp', hmatch⟩ := bind_eq_ok_iff.1 hrun
    cases hmatch
    rw [patternArgument, hpattern] at hp'
    cases hp'
    exact matchPattern_of_match? h
  | noItem hname hindex hitems h =>
    cases eq_of_name_eq he (List.mem_of_getElem? (rfl : entries[16]? = some _)) hname
    obtain ⟨run, hrun, rfl⟩ := Entry.exists_of_bind_single hstep rfl rfl rfl nofun
    obtain ⟨i', hi', hget⟩ := bind_eq_ok_iff.1 hrun
    cases hget
    simp only [intArgument, Value.plain, Value.written, hindex] at hi'
    cases hi'
    rcases hitems with rfl | rfl
    · exact getIndex_of_out_of_range (.inl rfl) h
    · exact getIndex_of_out_of_range (.inr rfl) h

end Harvest.Standard
