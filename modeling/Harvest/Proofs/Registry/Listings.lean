import Harvest.Page
import Harvest.Proofs.Registry.Effects
import Mathlib.Algebra.BigOperators.Group.List.Basic
import Mathlib.Data.List.Sort

/-!
# Listings of a registry

No two entries of a registry that can be reached have the same name. So its names in order increase
strictly, and the summaries stand in the order of these names, each for the entry that its name
stands for. A listing by kind is the part of the whole listing with this kind. What is listed
depends on the entries that the names stand for, and on nothing else in the history of the registry.
-/

namespace Harvest

/-- All that an entry can declare about its input. -/
def Accepts.all : List Accepts :=
  [.any, .only .node, .only .text, .only .number, .only .array, .only .boolean, .only .absent,
    .only .other]

namespace Registry

variable {ν : Type}

/-! ### Names are distinct -/

theorem names_put_of_mem {e : Entry ν} {es : List (Entry ν)} (h : e.name ∈ es.map (·.name)) :
    (put e es).map (·.name) = es.map (·.name) := by
  induction es with
  | nil => cases h
  | cons x es ih =>
    rw [put]
    split
    · rename_i hx
      rw [List.map_cons, List.map_cons, hx]
    · rename_i hx
      rw [List.map_cons, List.map_cons, ih]
      rw [List.map_cons, List.mem_cons] at h
      exact h.resolve_left (Ne.symm hx)

theorem kept_nodup : Kept fun es : List (Entry ν) => (es.map (·.name)).Nodup where
  nil := List.nodup_nil
  put e es _ hes := by
    by_cases h : e.name ∈ es.map (·.name)
    · rwa [names_put_of_mem h]
    · rw [put_of_not_mem h, List.map_append, List.map_singleton, List.nodup_append]
      refine ⟨hes, List.nodup_singleton _, ?_⟩
      rintro name hname _ hlast rfl
      rw [List.mem_singleton] at hlast
      exact h (hlast ▸ hname)
  remove _ es hes := hes.sublist (List.filter_sublist.map _)

/-! ### The order of the names -/

-- Names are compared as lists of characters.
attribute [local instance (high)] List.instLE List.decidableLE

theorem nameBefore_trans (a b c : Text) (hab : nameBefore a b = true)
    (hbc : nameBefore b c = true) : nameBefore a c = true :=
  decide_eq_true (List.le_trans (of_decide_eq_true hab) (of_decide_eq_true hbc))

theorem nameBefore_total (a b : Text) : (nameBefore a b || nameBefore b a) = true := by
  rw [Bool.or_eq_true, nameBefore, nameBefore, decide_eq_true_eq, decide_eq_true_eq]
  exact List.le_total a b

theorem nameBefore_antisymm {a b : Text} (hab : nameBefore a b = true)
    (hba : nameBefore b a = true) : a = b :=
  List.le_antisymm (of_decide_eq_true hab) (of_decide_eq_true hba)

/-- The first code points that differ decide, or the end of the shorter name. -/
theorem lex_of_nameBefore {a b : Text} (h : nameBefore a b = true) (hne : a ≠ b) :
    List.Lex (fun c d => c.toNat < d.toNat) a b := by
  by_contra hlex
  have hba : b ≤ a := hlex
  exact hne (nameBefore_antisymm h (decide_eq_true hba))

theorem pairwise_mergeSort_names (names : List Text) :
    (names.mergeSort nameBefore).Pairwise fun a b => nameBefore a b = true :=
  List.pairwise_mergeSort nameBefore_trans nameBefore_total names

theorem pairwise_lex_mergeSort {names : List Text} (h : names.Nodup) :
    (names.mergeSort nameBefore).Pairwise (List.Lex fun c d => c.toNat < d.toNat) := by
  have hdistinct : (names.mergeSort nameBefore).Nodup :=
    (List.mergeSort_perm names nameBefore).nodup_iff.2 h
  exact (pairwise_mergeSort_names names).imp₂ (fun _ _ => lex_of_nameBefore) hdistinct

/-- Distinct names in order depend on which names they are, and not on their order before. -/
theorem mergeSort_eq_of_mem_iff {names names' : List Text} (h : names.Nodup) (h' : names'.Nodup)
    (hmem : ∀ name, name ∈ names ↔ name ∈ names') :
    names.mergeSort nameBefore = names'.mergeSort nameBefore := by
  have hperm : (names.mergeSort nameBefore).Perm (names'.mergeSort nameBefore) :=
    (List.mergeSort_perm names _).trans
      (((List.perm_ext_iff_of_nodup h h').2 hmem).trans (List.mergeSort_perm names' _).symm)
  exact hperm.eq_of_pairwise (fun _ _ _ _ => nameBefore_antisymm) (pairwise_mergeSort_names names)
    (pairwise_mergeSort_names names')

/-! ### Entries in the order of their names -/

def sortedEntries (es : List (Entry ν)) : List (Entry ν) :=
  es.mergeSort fun a b => nameBefore a.name b.name

theorem sortedEntries_perm (es : List (Entry ν)) : (sortedEntries es).Perm es :=
  List.mergeSort_perm es _

theorem pairwise_sortedEntries (es : List (Entry ν)) :
    (sortedEntries es).Pairwise fun a b => nameBefore a.name b.name = true :=
  List.pairwise_mergeSort (fun a b c => nameBefore_trans a.name b.name c.name)
    (fun a b => nameBefore_total a.name b.name) es

theorem names_sortedEntries (es : List (Entry ν)) :
    (sortedEntries es).map (·.name) = (es.map (·.name)).mergeSort nameBefore :=
  List.map_mergeSort fun _ _ _ _ => rfl

/-- Entries can be chosen before they are brought in order or afterwards. -/
theorem sortedEntries_filter {es : List (Entry ν)} (hes : (es.map (·.name)).Nodup)
    (p : Entry ν → Bool) : sortedEntries (es.filter p) = (sortedEntries es).filter p := by
  have hperm : (sortedEntries (es.filter p)).Perm ((sortedEntries es).filter p) :=
    (sortedEntries_perm (es.filter p)).trans ((sortedEntries_perm es).filter p).symm
  refine hperm.eq_of_pairwise (fun a b ha hb hab hba => ?_) (pairwise_sortedEntries _)
    ((pairwise_sortedEntries es).filter p)
  have ha : a ∈ es := (List.mem_filter.1 ((sortedEntries_perm _).mem_iff.1 ha)).1
  have hb : b ∈ es := (sortedEntries_perm es).mem_iff.1 (List.mem_filter.1 hb).1
  exact eq_of_name_eq hes ha hb (nameBefore_antisymm hab hba)

/-- Each name in order leads to the entry in its place. -/
theorem map_lookup_names {es : List (Entry ν)} (hes : (es.map (·.name)).Nodup) :
    ((es.map (·.name)).mergeSort nameBefore).map (lookup · es) = (sortedEntries es).map some := by
  rw [← names_sortedEntries, List.map_map]
  refine List.map_congr_left fun e he => ?_
  exact lookup_of_mem hes ((sortedEntries_perm es).mem_iff.1 he)

theorem mem_names_iff {es : List (Entry ν)} {name : Text} :
    name ∈ es.map (·.name) ↔ (lookup name es).isSome = true := by
  rw [lookup, List.find?_isSome, List.mem_map]
  simp only [decide_eq_true_eq]

variable [Host ν]

/-! ### Listings of a registry with distinct names -/

theorem mem_keys_iff (r : Registry ν) (name : Text) :
    name ∈ r.keys ↔ (r.get? name).isSome = true := by
  rw [keys, List.mem_mergeSort, mem_names_iff, get?]

theorem count_eq_length_keys (r : Registry ν) : r.count = r.keys.length := by
  rw [count, keys, List.length_mergeSort, List.length_map]

theorem summaries_none (r : Registry ν) :
    r.summaries none = (sortedEntries r.load.entries).map Entry.summary := rfl

theorem summaries_some (r : Registry ν) (k : Accepts) : r.summaries (some k) =
    (sortedEntries (r.load.entries.filter (·.accepts = k))).map Entry.summary := rfl

variable {r s : Registry ν}

theorem map_summary_keys (hr : (r.load.entries.map (·.name)).Nodup) :
    r.keys.map (fun name => (r.get? name).map Entry.summary) = (r.summaries none).map some := by
  have hentries : r.keys.map r.get? = (sortedEntries r.load.entries).map some :=
    map_lookup_names hr
  have hsummaries := congrArg (List.map (Option.map Entry.summary)) hentries
  rw [List.map_map, List.map_map] at hsummaries
  rw [summaries_none, List.map_map]
  exact hsummaries

theorem summaries_some_eq_filter (hr : (r.load.entries.map (·.name)).Nodup) (k : Accepts) :
    r.summaries (some k) = (r.summaries none).filter (·.accepts = k) := by
  rw [summaries_some, summaries_none, sortedEntries_filter hr, List.filter_map]
  rfl

theorem names_summaries (r : Registry ν) : (r.summaries none).map (·.name) = r.keys := by
  rw [summaries_none, List.map_map, keys, ← names_sortedEntries]
  rfl

theorem count_all (k : Accepts) : Accepts.all.count k = 1 := by
  cases k with
  | any => rfl
  | only k => cases k <;> rfl

/-- What is listed for each kind in turn is the whole listing, in another order. -/
theorem flatMap_summaries_perm (hr : (r.load.entries.map (·.name)).Nodup) :
    (Accepts.all.flatMap fun k => r.summaries (some k)).Perm (r.summaries none) := by
  rw [List.flatMap_congr fun k _ => summaries_some_eq_filter hr k, List.perm_iff_count]
  intro x
  -- Only the part of its own kind has the summary.
  have hother : ∀ k, k ≠ x.accepts → k ∈ Accepts.all →
      (List.count x ∘ fun k => (r.summaries none).filter (·.accepts = k)) k = 0 := by
    intro k hk _
    exact List.count_eq_zero.2 fun hx => hk (of_decide_eq_true (List.mem_filter.1 hx).2).symm
  rw [List.count_flatMap, List.sum_map_eq_nsmul_single x.accepts _ hother, count_all, one_nsmul]
  exact List.count_filter (decide_eq_true rfl)

/-- Registries whose names stand for entries with the same summaries list the same. -/
theorem listings_congr (hr : (r.load.entries.map (·.name)).Nodup)
    (hs : (s.load.entries.map (·.name)).Nodup)
    (h : ∀ name, (r.get? name).map Entry.summary = (s.get? name).map Entry.summary) :
    r.keys = s.keys ∧ ∀ kind, r.summaries kind = s.summaries kind := by
  have hkeys : r.keys = s.keys := by
    refine mergeSort_eq_of_mem_iff hr hs fun name => ?_
    have hheld : (r.get? name).isSome = (s.get? name).isSome := by
      rw [← Option.isSome_map (f := Entry.summary), h name, Option.isSome_map]
    rw [mem_names_iff, mem_names_iff, ← get?, ← get?, hheld]
  have hwhole : r.summaries none = s.summaries none := by
    have hmap : (r.summaries none).map some = (s.summaries none).map some := by
      rw [← map_summary_keys hr, ← map_summary_keys hs, hkeys]
      exact List.map_congr_left fun name _ => h name
    exact List.map_injective_iff.2 (Option.some_injective _) hmap
  refine ⟨hkeys, fun kind => ?_⟩
  cases kind with
  | none => exact hwhole
  | some k => rw [summaries_some_eq_filter hr, summaries_some_eq_filter hs, hwhole]

theorem nodup_names_run (includesStandard : Bool) (ops : List (Operation ν)) :
    (((make includesStandard).run ops).load.entries.map (·.name)).Nodup :=
  kept_nodup.load (kept_nodup.run (r := make includesStandard) kept_nodup.nil ops)

/-- The names in a registry are listed in strictly increasing order of their code points. They are
those that stand for an entry, and there are as many as the count says. The summaries are those of
their entries, in the same order. The listing of a kind is what the whole listing has of that kind,
in its order, so that all kinds together give the whole listing once. Registries with the same
summary for each name, whatever led to them, list the same. -/
theorem listings_decided_by_entries (includesStandard : Bool) (ops : List (Operation ν)) :
    let r := (make includesStandard).run ops
    r.keys.Pairwise (List.Lex fun c d => c.toNat < d.toNat) ∧
      (∀ name, name ∈ r.keys ↔ ∃ e, r.get? name = some e) ∧
      r.count = r.keys.length ∧
      (r.summaries none).map (·.name) = r.keys ∧
      r.keys.map (fun name => (r.get? name).map Entry.summary) = (r.summaries none).map some ∧
      (∀ k, r.summaries (some k) = (r.summaries none).filter (·.accepts = k)) ∧
      (Accepts.all.flatMap fun k => r.summaries (some k)).Perm (r.summaries none) ∧
      ∀ (includesStandard' : Bool) (ops' : List (Operation ν)),
        let s := (make includesStandard').run ops'
        (∀ name, (r.get? name).map Entry.summary = (s.get? name).map Entry.summary) →
          r.keys = s.keys ∧ r.count = s.count ∧ ∀ kind, r.summaries kind = s.summaries kind := by
  intro r
  have hr : (r.load.entries.map (·.name)).Nodup := nodup_names_run includesStandard ops
  refine ⟨pairwise_lex_mergeSort hr, fun name => ?_, count_eq_length_keys r, names_summaries r,
    map_summary_keys hr, summaries_some_eq_filter hr, flatMap_summaries_perm hr, ?_⟩
  · rw [mem_keys_iff, Option.isSome_iff_exists]
  · intro includesStandard' ops' s h
    obtain ⟨hkeys, hsummaries⟩ := listings_congr hr (nodup_names_run includesStandard' ops') h
    refine ⟨hkeys, ?_, hsummaries⟩
    rw [count_eq_length_keys, count_eq_length_keys, hkeys]

/-- An entry of the host that leaves values as they are. -/
def identityEntry (name : Text) : Entry Markup.Cursor :=
  ⟨name, .plain fun _ => pure, .any, false, [], false, .host "identity".toList⟩

/-- Two histories that keep the same two entries in different orders list the same. -/
theorem listings_of_two_histories :
    let r := (make false).run [.register (identityEntry ['a']), .register (identityEntry ['b'])]
    let s := (make false).run [.register (identityEntry ['a']), .register (identityEntry ['b']),
      .unregister ['a'], .register (identityEntry ['b']), .register (identityEntry ['a'])]
    (∀ name, (r.get? name).map Entry.summary = (s.get? name).map Entry.summary) ∧
      r.entries.map (·.name) = [['a'], ['b']] ∧ s.entries.map (·.name) = [['b'], ['a']] ∧
      r.keys = s.keys ∧ r.count = s.count ∧ ∀ kind, r.summaries kind = s.summaries kind := by
  intro r s
  have hsame : ∀ name, (r.get? name).map Entry.summary = (s.get? name).map Entry.summary := by
    intro name
    have hget : r.get? name = s.get? name := by
      by_cases hname : name = ['a'] ∨ name = ['b']
      · rcases hname with rfl | rfl <;> rfl
      · obtain ⟨ha, hb⟩ := not_or.1 hname
        simp [r, s, run, get?_perform_register, get?_perform_unregister, identityEntry, Ne.symm ha,
          Ne.symm hb]
    rw [hget]
  obtain ⟨-, -, -, -, -, -, -, hlistings⟩ := listings_decided_by_entries false
    [.register (identityEntry ['a']), .register (identityEntry ['b'])]
  exact ⟨hsame, rfl, rfl, hlistings false _ hsame⟩

end Registry

end Harvest
