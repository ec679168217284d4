import Harvest.Proofs.Extraction.Independence

/-!
# The queries of a call

A call that is not refused makes, for each field it reaches, the query for a selector that no field
before has, and then the queries of the field's chain. The main statement gives the whole sequence,
says which fields are reached, and concludes that the selectors are queried once each, in the order
in which fields first use them.
-/

namespace Harvest

theorem nodup_eraseDups {α : Type} [BEq α] [LawfulBEq α] (xs : List α) :
    xs.eraseDups.Nodup := by
  induction hn : xs.length using Nat.strongRecOn generalizing xs with
  | ind n ih =>
    cases xs with
    | nil => exact List.nodup_nil
    | cons x xs =>
      rw [List.eraseDups_cons, List.nodup_cons]
      constructor
      · rw [List.mem_eraseDups, List.mem_filter]
        simp
      · have hlt : (xs.filter fun y => !y == x).length < n := by
          rw [← hn, List.length_cons]
          exact Nat.lt_succ_of_le (List.length_filter_le _ _)
        exact ih _ hlt _ rfl

namespace Extraction

variable {ν : Type} {doc : Document ν} {root : ν}

/-- Selectors are queried in the order of first use, those of earlier fields not again. -/
theorem selections_eq_eraseDups (doc : Document ν) (root : ν)
    (earlier fields : List (ActiveField ν)) :
    ((segments doc root earlier fields).flatMap fun p => p.selection) =
      (((selectors fields).filter fun s => s ∉ selectors earlier).eraseDups).map (.one root) := by
  induction fields generalizing earlier with
  | nil => rfl
  | cons field rest ih =>
    rw [segments, List.flatMap_cons, ih, selectors_append, selectors_singleton]
    cases hs : field.selector with
    | none =>
      have hrest : selectors (field :: rest) = selectors rest := by
        rw [selectors, List.filterMap_cons, hs, selectors]
      rw [hrest, selection, Option.toList_none, List.append_nil, List.nil_append]
    | some s =>
      have hrest : selectors (field :: rest) = s :: selectors rest := by
        rw [selectors, List.filterMap_cons, hs, selectors]
      rw [hrest, selection, Option.toList_some]
      by_cases hseen : s ∈ selectors earlier
      · have hsame : (fun t => decide (t ∉ selectors earlier ++ [s])) =
            fun t => decide (t ∉ selectors earlier) := by
          funext t
          rw [decide_eq_decide, List.mem_append, List.mem_singleton]
          exact not_congr ⟨fun ht => ht.elim id fun he => he ▸ hseen, Or.inl⟩
        rw [if_pos hseen, hsame, List.filter_cons_of_neg (by simpa using hseen), List.nil_append]
      · have hmore : (fun t => decide (t ∉ selectors earlier ++ [s])) =
            fun t => (!t == s) && decide (t ∉ selectors earlier) := by
          funext t
          rw [Bool.eq_iff_iff]
          simp [and_comm]
        rw [if_neg hseen, List.filter_cons_of_pos (by simpa using hseen), List.eraseDups_cons,
          List.filter_filter, hmore]
        rfl

theorem reached_append {before : List (ActiveField ν)}
    (h : ∀ field ∈ before, ∃ v, fieldValue doc root field = .ok v)
    (rest : List (ActiveField ν)) :
    reached doc root (before ++ rest) = before ++ reached doc root rest := by
  induction before with
  | nil => rfl
  | cons field before ih =>
    obtain ⟨v, hv⟩ := h field List.mem_cons_self
    rw [List.cons_append, reached, hv]
    exact congrArg (field :: ·) (ih fun f hf => h f (List.mem_cons_of_mem _ hf))

/-- The result of an evaluation is the first failure among its fields, if there is one. -/
theorem result_evaluate (fields : List (ActiveField ν)) :
    (evaluate doc root [] fields).result =
      (fields.findSome? fun field => failure? (fieldValue doc root field)).elim
        (.ok (fields.filterMap fun field =>
          ((fieldValue doc root field).map fun v => (field.key, v)).toOption)) .error := by
  rw [evaluate_of_records [] Memo.records_nil fields, mapM_eq_elim]
  simp only [failure?_map]

theorem queries_evaluate (fields : List (ActiveField ν)) :
    (evaluate doc root [] fields).queries =
      queriesOf (segments doc root [] (reached doc root fields)) := by
  rw [evaluate_of_records [] Memo.records_nil fields]

theorem reached_of_ok {fields : List (ActiveField ν)} {out : List (Text × Value ν)}
    (h : (evaluate doc root [] fields).result = .ok out) : reached doc root fields = fields := by
  rw [result_evaluate] at h
  cases hf : fields.findSome? fun field => failure? (fieldValue doc root field) with
  | some e =>
    rw [hf] at h
    cases h
  | none =>
    rw [List.findSome?_eq_none_iff] at hf
    have hall := reached_append (fun field hm => eq_ok_of_failure? (hf field hm)) []
    rwa [List.append_nil, reached, List.append_nil] at hall

theorem reached_of_error {fields : List (ActiveField ν)} {e : Failure ν}
    (h : (evaluate doc root [] fields).result = .error e) :
    ∃ before field after, fields = before ++ field :: after ∧
      (∀ f ∈ before, ∃ v, fieldValue doc root f = .ok v) ∧
      fieldValue doc root field = .error e ∧ reached doc root fields = before ++ [field] := by
  rw [result_evaluate] at h
  cases hf : fields.findSome? fun field => failure? (fieldValue doc root field) with
  | none =>
    rw [hf] at h
    cases h
  | some e' =>
    rw [hf] at h
    cases h
    obtain ⟨before, field, after, rfl, hfail, hbefore⟩ := List.findSome?_eq_some_iff.1 hf
    have hok : ∀ f ∈ before, ∃ v, fieldValue doc root f = .ok v :=
      fun f hm => eq_ok_of_failure? (hbefore f hm)
    have herror : fieldValue doc root field = .error e := by
      cases hv : fieldValue doc root field with
      | error e' =>
        rw [hv] at hfail
        cases hfail
        rfl
      | ok v =>
        rw [hv] at hfail
        cases hfail
    refine ⟨before, field, after, rfl, hok, herror, ?_⟩
    rw [reached_append hok, reached, herror]

theorem selector_ne_of_activeField? [Host ν] {r : Registry ν} {p : Text × RawSpec ν}
    {field : ActiveField ν} (h : activeField? r doc p = some field) :
    field.selector ≠ some [] := by
  obtain ⟨spec, -, hspec⟩ := Option.bind_eq_some_iff.1 h
  split at hspec
  · rw [resolveField] at hspec
    cases hchain : resolveElements r doc spec.elements with
    | error e =>
      rw [hchain] at hspec
      cases hspec
    | ok chain =>
      rw [hchain] at hspec
      cases hspec
      intro hempty
      have hne := (Option.filter_eq_some_iff.1 hempty).2
      exact absurd rfl (of_decide_eq_true hne)
  · cases hspec

theorem fields_of_prepare [Host ν] {r : Registry ν} {config : Configuration ν}
    {fields : List (ActiveField ν)} (h : prepare r doc config = .ok fields) :
    fields = config.fields.filterMap (activeField? r doc) := by
  rw [prepare_eq_elim] at h
  cases hr : refusal? r doc config.fields with
  | some e =>
    rw [hr] at h
    cases h
  | none =>
    rw [hr] at h
    cases h
    rfl

theorem empty_not_mem_selectors [Host ν] {r : Registry ν} {config : Configuration ν}
    {fields : List (ActiveField ν)} (h : prepare r doc config = .ok fields) :
    [] ∉ selectors fields := by
  intro hm
  obtain ⟨field, hfield, hselector⟩ := List.mem_filterMap.1 hm
  rw [fields_of_prepare h] at hfield
  obtain ⟨p, -, hp⟩ := List.mem_filterMap.1 hfield
  exact selector_ne_of_activeField? hp hselector

/-- The fields reached come first, so that they have no selector that the fields have not. -/
theorem selectors_reached_subset (fields : List (ActiveField ν)) :
    selectors (reached doc root fields) ⊆ selectors fields := by
  have hprefix : reached doc root fields <+: fields := by
    induction fields with
    | nil => exact List.prefix_refl []
    | cons field rest ih =>
      rw [reached]
      split
      · exact (List.prefix_cons_inj field).2 ih
      · exact (List.prefix_cons_inj field).2 List.nil_prefix
  obtain ⟨after, hafter⟩ := hprefix
  intro s hs
  rw [← hafter, selectors_append]
  exact List.mem_append_left _ hs

theorem extract_of_prepare [Host ν] {r : Registry ν} {config : Configuration ν}
    {fields : List (ActiveField ν)} (h : prepare r doc config = .ok fields) :
    extract r doc root config = evaluate doc root [] fields := by
  rw [extract, h, Outcome.of_ok, Outcome.ok_bind, List.nil_append]

/-- The queries of a call that gets to evaluating its fields. They are those of the fields reached,
field by field: the query for a selector that no field before has, then what the field's chain does
by itself. All fields are reached, or those up to the one whose failure ends the call. -/
theorem queries_extract [Host ν] {r : Registry ν} {config : Configuration ν} (root : ν)
    {fields : List (ActiveField ν)} (h : prepare r doc config = .ok fields) :
    let call := extract r doc root config
    let before := reached doc root fields
    let selected := (segments doc root [] before).flatMap fun p => p.selection
    fields = config.fields.filterMap (activeField? r doc) ∧
      call.queries = queriesOf (segments doc root [] before) ∧
      (∀ out, call.result = .ok out → before = fields) ∧
      (∀ e, call.result = .error e → ∃ done field rest, fields = done ++ field :: rest ∧
        (∀ f ∈ done, ∃ v, fieldValue doc root f = .ok v) ∧
        fieldValue doc root field = .error e ∧ before = done ++ [field]) ∧
      selected = (selectors before).eraseDups.map (.one root) ∧ selected.Nodup ∧
      ∀ node, .one node [] ∉ selected := by
  intro call before selected
  have hcall : call = evaluate doc root [] fields := extract_of_prepare h
  have hselected : selected = (selectors before).eraseDups.map (.one root) := by
    have hfirst := selections_eq_eraseDups doc root [] before
    have hnone : (selectors before).filter (fun s => s ∉ selectors ([] : List (ActiveField ν))) =
        selectors before := List.filter_eq_self.2 fun s _ => by simp [selectors]
    rwa [hnone] at hfirst
  refine ⟨fields_of_prepare h, ?_, ?_, ?_, hselected, ?_, ?_⟩
  · rw [hcall]
    exact queries_evaluate fields
  · intro out hout
    rw [hcall] at hout
    exact reached_of_ok hout
  · intro e he
    rw [hcall] at he
    exact reached_of_error he
  · rw [hselected]
    refine List.pairwise_map.2 ((nodup_eraseDups (selectors before)).imp fun hne heq => ?_)
    cases heq
    exact hne rfl
  · intro node hm
    rw [hselected] at hm
    obtain ⟨s, hs, hs'⟩ := List.mem_map.1 hm
    cases hs'
    exact empty_not_mem_selectors h (selectors_reached_subset fields (List.mem_eraseDups.1 hs))

theorem queries_headings :
    prepare (.make false) unmatched headings =
      .ok [⟨"title".toList, some "h1".toList, none⟩, ⟨"heading".toList, some "h1".toList, none⟩] ∧
    (extract (.make false) unmatched emptyPage headings).queries =
      [.one emptyPage "h1".toList] := by
  have hfields : prepare (.make false) unmatched headings =
      .ok [⟨"title".toList, some "h1".toList, none⟩, ⟨"heading".toList, some "h1".toList, none⟩] :=
    rfl
  obtain ⟨-, hqueries, -⟩ := queries_extract emptyPage hfields
  refine ⟨hfields, ?_⟩
  rw [hqueries]
  rfl

end Extraction

end Harvest
