import Harvest.Failure
import Mathlib.Algebra.Ring.Nat

/-!
# Values without a text

An integer of more than 4300 digits has no text, and neither has a value that would show such an
integer anywhere inside. Everything else can be written. The two ways of writing differ on a node
that is a list of its children: messages show its markup, but its text is made of its items.
-/

namespace Harvest

theorem Number.intText?_eq_none_iff (n : Int) : intText? n = none ↔ 10 ^ digitLimit ≤ n.natAbs := by
  have hlength : (decimalDigits n.natAbs).length ≤ digitLimit ↔ n.natAbs < 10 ^ digitLimit :=
    Nat.length_toDigits_le_iff (by decide) (by decide)
  rw [← Nat.not_lt, ← hlength, intText?]
  by_cases hfits : (decimalDigits n.natAbs).length ≤ digitLimit
  · simp [hfits]
  · simp [hfits]

namespace Value

open Number

variable {ν : Type}

/-- Values that show an integer beyond the digit limit when they are written as messages show
them. -/
inductive Overlong : Value ν → Prop
  | int {n : Int} (h : 10 ^ digitLimit ≤ n.natAbs) : Overlong (.int n)
  | list {items : List (Value ν)} {v : Value ν} (hmem : v ∈ items) (h : Overlong v) :
    Overlong (.list items)
  | tuple {items : List (Value ν)} {v : Value ν} (hmem : v ∈ items) (h : Overlong v) :
    Overlong (.tuple items)
  | key {entries : List (Value ν × Value ν)} {k v : Value ν} (hmem : (k, v) ∈ entries)
    (h : Overlong k) : Overlong (.dict entries)
  | entry {entries : List (Value ν × Value ν)} {k v : Value ν} (hmem : (k, v) ∈ entries)
    (h : Overlong v) : Overlong (.dict entries)

/-- Values that show an integer beyond the digit limit when they are coerced to text. -/
inductive OverlongText : Value ν → Prop
  | int {n : Int} (h : 10 ^ digitLimit ≤ n.natAbs) : OverlongText (.int n)
  | list {items : List (Value ν)} {v : Value ν} (hmem : v ∈ items) (h : OverlongText v) :
    OverlongText (.list items)
  | tuple {items : List (Value ν)} {v : Value ν} (hmem : v ∈ items) (h : OverlongText v) :
    OverlongText (.tuple items)
  | nodeList {n : ν} {items : List (Value ν)} {v : Value ν} (hmem : v ∈ items)
    (h : OverlongText v) : OverlongText (.nodeList n items)
  | dict {entries : List (Value ν × Value ν)} (h : Overlong (.dict entries)) :
    OverlongText (.dict entries)

variable [Host ν]

theorem writtenItems_eq_none_iff {vs : List (Value ν)} :
    writtenItems vs = none ↔ ∃ v ∈ vs, written v = none := by
  induction vs with
  | nil => simp [writtenItems]
  | cons v vs ih =>
    simp only [writtenItems, List.mem_cons, exists_eq_or_imp, ← ih]
    cases written v with
    | none => simp
    | some p => simp

theorem writtenEntries_eq_none_iff {es : List (Value ν × Value ν)} :
    writtenEntries es = none ↔ ∃ e ∈ es, written e.1 = none ∨ written e.2 = none := by
  induction es with
  | nil => simp [writtenEntries]
  | cons e es ih =>
    simp only [writtenEntries, List.mem_cons, exists_eq_or_imp, ← ih]
    cases written e.1 with
    | none => simp
    | some p =>
      cases written e.2 with
      | none => simp
      | some q => simp

theorem itemTexts_eq_none_iff {vs : List (Value ν)} :
    itemTexts vs = none ↔ ∃ v ∈ vs, toText v = none := by
  induction vs with
  | nil => simp [itemTexts]
  | cons v vs ih =>
    simp only [List.mem_cons, exists_eq_or_imp, ← ih]
    by_cases habsent : v = .absent
    · subst habsent
      simp [itemTexts, toText]
    · rw [itemTexts]
      · cases toText v with
        | none => simp
        | some p => simp
      · exact habsent

theorem Overlong.written_eq_none {v : Value ν} (h : Overlong v) : written v = none := by
  induction h with
  | int h =>
    rw [written]
    exact (intText?_eq_none_iff _).2 h
  | list hmem _ ih | tuple hmem _ ih =>
    rw [written, writtenItems_eq_none_iff.2 ⟨_, hmem, ih⟩]
    rfl
  | key hmem _ ih =>
    rw [written, writtenEntries_eq_none_iff.2 ⟨_, hmem, .inl ih⟩]
    rfl
  | entry hmem _ ih =>
    rw [written, writtenEntries_eq_none_iff.2 ⟨_, hmem, .inr ih⟩]
    rfl

theorem overlong_of_written : ∀ {v : Value ν}, written v = none → Overlong v
  | .int n, h => by
    rw [written] at h
    exact .int ((intText?_eq_none_iff n).1 h)
  | .list items, h => by
    rw [written, Option.map_eq_none_iff] at h
    obtain ⟨v, hmem, hv⟩ := writtenItems_eq_none_iff.1 h
    exact .list hmem (overlong_of_written hv)
  | .tuple items, h => by
    rw [written, Option.map_eq_none_iff] at h
    obtain ⟨v, hmem, hv⟩ := writtenItems_eq_none_iff.1 h
    exact .tuple hmem (overlong_of_written hv)
  | .dict entries, h => by
    rw [written, Option.map_eq_none_iff] at h
    obtain ⟨⟨k, v⟩, hmem, hk | hv⟩ := writtenEntries_eq_none_iff.1 h
    · exact .key hmem (overlong_of_written hk)
    · exact .entry hmem (overlong_of_written hv)
  | .absent, h | .bool _, h | .float _, h | .text _, h | .bytes _, h | .node _, h
  | .nodeList _ _, h | .function _, h => by simp [written] at h
termination_by v => sizeOf v
decreasing_by
  all_goals
    have hsize := List.sizeOf_lt_of_mem hmem
    simp_wf
    try simp only [Prod.mk.sizeOf_spec] at hsize
    omega

theorem written_eq_none_iff (v : Value ν) : written v = none ↔ Overlong v :=
  ⟨overlong_of_written, Overlong.written_eq_none⟩

theorem OverlongText.toText_eq_none {v : Value ν} (h : OverlongText v) : toText v = none := by
  induction h with
  | int h =>
    rw [toText]
    exact (intText?_eq_none_iff _).2 h
  | list hmem _ ih | tuple hmem _ ih | nodeList hmem _ ih =>
    rw [toText, itemTexts_eq_none_iff.2 ⟨_, hmem, ih⟩]
    rfl
  | dict h =>
    rw [toText]
    exact h.written_eq_none

theorem overlongText_of_toText : ∀ {v : Value ν}, toText v = none → OverlongText v
  | .int n, h => by
    rw [toText] at h
    exact .int ((intText?_eq_none_iff n).1 h)
  | .list items, h => by
    rw [toText, Option.map_eq_none_iff] at h
    obtain ⟨v, hmem, hv⟩ := itemTexts_eq_none_iff.1 h
    exact .list hmem (overlongText_of_toText hv)
  | .tuple items, h => by
    rw [toText, Option.map_eq_none_iff] at h
    obtain ⟨v, hmem, hv⟩ := itemTexts_eq_none_iff.1 h
    exact .tuple hmem (overlongText_of_toText hv)
  | .nodeList n items, h => by
    rw [toText, Option.map_eq_none_iff] at h
    obtain ⟨v, hmem, hv⟩ := itemTexts_eq_none_iff.1 h
    exact .nodeList hmem (overlongText_of_toText hv)
  | .dict entries, h => by
    rw [toText] at h
    exact .dict (overlong_of_written h)
  | .absent, h | .bool _, h | .float _, h | .text _, h | .bytes _, h | .node _, h
  | .function _, h => by simp [toText, written] at h
termination_by v => sizeOf v
decreasing_by
  all_goals
    have hsize := List.sizeOf_lt_of_mem hmem
    simp_wf
    omega

/-- A value has no text exactly when it shows an integer beyond the digit limit. -/
theorem toText_eq_none_iff (v : Value ν) : toText v = none ↔ OverlongText v :=
  ⟨overlongText_of_toText, OverlongText.toText_eq_none⟩

end Value

/-- Texts can be shown however long they are, so their refusal can be worded. -/
theorem Failure.rejected_texts {ν : Type} [Host ν] (name : Text) (args : List Text)
    (reason : Refusal) : rejected name (args.map .text) reason =
      .config (.rejected (.text name) (args.map (Value.text : Text → Value ν)) reason) := by
  have hwritten : Value.written (.list (args.map (Value.text : Text → Value ν))) ≠ none := by
    intro hnone
    cases (Value.written_eq_none_iff _).1 hnone with
    | list hmem hlong =>
      obtain ⟨t, -, rfl⟩ := List.mem_map.1 hmem
      cases hlong
  obtain ⟨shown, hshown⟩ := Option.ne_none_iff_exists'.1 hwritten
  rw [rejected, ofConfig, ConfigError.message?, hshown]
  rfl

end Harvest
