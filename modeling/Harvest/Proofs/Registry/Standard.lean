import Harvest.Registry.Basic

/-!
# The standard registry

Entries with distinct names that are put in one after the other are all there, in this order. The
standard set has distinct names, so each of its entries is found under its name.
-/

namespace Harvest.Registry

variable {ν : Type}

theorem put_of_not_mem {e : Entry ν} {es : List (Entry ν)} (h : e.name ∉ es.map (·.name)) :
    put e es = es ++ [e] := by
  induction es with
  | nil => rfl
  | cons x es ih =>
    rw [List.map_cons, List.mem_cons, not_or] at h
    rw [put, if_neg (Ne.symm h.1), ih h.2, List.cons_append]

theorem foldl_put_of_nodup {es added : List (Entry ν)}
    (h : ((es ++ added).map (·.name)).Nodup) :
    added.foldl (fun es e => put e es) es = es ++ added := by
  induction added generalizing es with
  | nil => rw [List.foldl_nil, List.append_nil]
  | cons e added ih =>
    have hsplit : es ++ e :: added = (es ++ [e]) ++ added := by
      rw [List.append_assoc, List.singleton_append]
    have hnew : e.name ∉ es.map (·.name) := by
      rw [List.map_append, List.map_cons, List.nodup_append] at h
      exact fun hm => h.2.2 e.name hm e.name List.mem_cons_self rfl
    rw [hsplit] at h ⊢
    rw [List.foldl_cons, put_of_not_mem hnew, ih h]

theorem lookup_of_mem {e : Entry ν} {es : List (Entry ν)} (hes : (es.map (·.name)).Nodup)
    (he : e ∈ es) : lookup e.name es = some e := by
  induction es with
  | nil => cases he
  | cons x es ih =>
    rw [List.map_cons, List.nodup_cons] at hes
    rw [lookup, List.find?_cons]
    rcases List.mem_cons.1 he with rfl | he
    · rw [decide_eq_true rfl]
    · have hne : x.name ≠ e.name := fun heq => hes.1 (heq ▸ List.mem_map_of_mem he)
      rw [decide_eq_false hne]
      exact ih hes.2 he

theorem eq_of_name_eq {es : List (Entry ν)} (hes : (es.map (·.name)).Nodup) {e e' : Entry ν}
    (he : e ∈ es) (he' : e' ∈ es) (hname : e.name = e'.name) : e = e' := by
  have hlookup := lookup_of_mem hes he
  rw [hname, lookup_of_mem hes he'] at hlookup
  exact (Option.some.inj hlookup).symm

variable [Host ν]

theorem names_standard : (Standard.entries : List (Entry ν)).map (·.name) =
    ["select-one", "select-all", "inner-html", "inner-text", "value", "get-attribute", "to-int",
      "to-float", "round", "multiply-by", "html-to-text", "to-string", "trim", "split", "replace",
      "match", "get-index", "slice"].map String.toList := rfl

theorem nodup_standard : ((Standard.entries : List (Entry ν)).map (·.name)).Nodup := by
  rw [names_standard]
  decide +kernel

theorem separator_not_mem_standard {e : Entry ν} (he : e ∈ Standard.entries) : ':' ∉ e.name := by
  have hnames : ∀ name ∈ (Standard.entries : List (Entry ν)).map (·.name), ':' ∉ name := by
    rw [names_standard]
    decide +kernel
  exact hnames e.name (List.mem_map_of_mem he)

theorem entries_standard : (standard : Registry ν).entries = Standard.entries := by
  have hfold : Standard.entries.foldl (fun es e => put e es) ([] : List (Entry ν)) =
      [] ++ Standard.entries := foldl_put_of_nodup (by rw [List.nil_append]; exact nodup_standard)
  rw [standard, load, make, if_neg Bool.false_ne_true]
  simp only [if_true, hfold, List.nil_append]

theorem get?_standard {e : Entry ν} (he : e ∈ Standard.entries) :
    (standard : Registry ν).get? e.name = some e := by
  have hload : (standard : Registry ν).load = standard := rfl
  rw [get?, hload, entries_standard, lookup_of_mem nodup_standard he]

theorem mem_entries_of_get?_standard {name : Text} {e : Entry ν}
    (h : (standard : Registry ν).get? name = some e) : e ∈ Standard.entries := by
  have hload : (standard : Registry ν).load = standard := rfl
  rw [get?, hload, entries_standard] at h
  exact List.mem_of_find?_eq_some h

end Harvest.Registry
