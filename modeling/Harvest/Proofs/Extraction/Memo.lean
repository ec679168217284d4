import Harvest.Extraction

/-!
# The memo records what fresh queries find

While the fields of a call are evaluated, the memo holds the selectors of the fields before, each
with what a fresh query finds, and nothing else. Each field therefore gets the value it would have
by itself, and its selector is queried only when no field before has it. The main statement gives
the result and the queries of an evaluation in these terms at once.
-/

namespace Harvest.Extraction

variable {ν : Type} (doc : Document ν) (root : ν)

/-- The value a field starts from when its selector is queried afresh. -/
def origin : Option Text → Except (Failure ν) (Value ν)
  | none => .ok (doc.value root)
  | some s => doc.findOne root s

def fieldValue (field : ActiveField ν) : Except (Failure ν) (Value ν) :=
  (origin doc root field.selector).bind fun v => (runChain field.chain v).result

/-- The query for a selector, unless it is among those seen before. -/
def selection (seen : List Text) : Option Text → List (Query ν)
  | none => []
  | some s => if s ∈ seen then [] else [.one root s]

/-- The queries a chain makes when it runs on the value its field starts from. -/
def chainQueries (field : ActiveField ν) : List (Query ν) :=
  match origin doc root field.selector with
  | .ok v => (runChain field.chain v).queries
  | .error _ => []

/-- The queries made for one field. -/
structure Segment (ν : Type) where
  selection : List (Query ν)
  chain : List (Query ν)

def selectors (fields : List (ActiveField ν)) : List Text := fields.filterMap (·.selector)

/-- The queries made for each field, when those in `earlier` come before. -/
def segments (earlier : List (ActiveField ν)) : List (ActiveField ν) → List (Segment ν)
  | [] => []
  | field :: rest =>
    ⟨selection root (selectors earlier) field.selector, chainQueries doc root field⟩ ::
      segments (earlier ++ [field]) rest

/-- The fields up to the first that has no value, which is among them. -/
def reached : List (ActiveField ν) → List (ActiveField ν)
  | [] => []
  | field :: rest =>
    match fieldValue doc root field with
    | .ok _ => field :: reached rest
    | .error _ => [field]

structure Memo.Records (memo : Memo ν) (seen : List Text) : Prop where
  known : ∀ s ∈ seen, ∃ v, doc.findOne root s = .ok v ∧ memo.lookup s = some v
  unknown : ∀ s, s ∉ seen → memo.lookup s = none

variable {doc root}

theorem Memo.records_nil : Memo.Records doc root ([] : Memo ν) [] :=
  ⟨fun _ hs => absurd hs List.not_mem_nil, fun _ _ => rfl⟩

theorem Memo.Records.congr {memo : Memo ν} {seen seen' : List Text}
    (h : memo.Records doc root seen) (hs : ∀ s, s ∈ seen' ↔ s ∈ seen) :
    memo.Records doc root seen' :=
  ⟨fun s hm => h.known s ((hs s).1 hm), fun s hn => h.unknown s fun hm => hn ((hs s).2 hm)⟩

theorem Memo.Records.cons {memo : Memo ν} {seen : List Text} (h : memo.Records doc root seen)
    {s : Text} {v : Value ν} (hv : doc.findOne root s = .ok v) :
    Memo.Records doc root ((s, v) :: memo) (seen ++ [s]) where
  known t ht := by
    by_cases hts : t = s
    · exact ⟨v, hts ▸ hv, by rw [hts, List.lookup_cons_self]⟩
    · have hseen : t ∈ seen := by
        rcases List.mem_append.1 ht with hseen | hlast
        · exact hseen
        · exact absurd (List.mem_singleton.1 hlast) hts
      obtain ⟨w, hw, hl⟩ := h.known t hseen
      have hne : (t == s) = false := by simpa using hts
      exact ⟨w, hw, by rw [List.lookup_cons, hne, hl]⟩
  unknown t ht := by
    rw [List.mem_append, not_or, List.mem_singleton] at ht
    have hne : (t == s) = false := by simpa using ht.2
    rw [List.lookup_cons, hne, h.unknown t ht.1]

/-- A field starts where it would by itself, at the cost of a query only for a new selector. -/
theorem start_of_records {memo : Memo ν} {seen : List Text} (h : memo.Records doc root seen)
    (selector : Option Text) :
    ∃ memo', (start doc root memo selector =
        ⟨(origin doc root selector).map fun v => (v, memo'), selection root seen selector⟩) ∧
      ∀ v, origin doc root selector = .ok v →
        memo'.Records doc root (seen ++ selector.toList) := by
  cases selector with
  | none =>
    refine ⟨memo, rfl, fun v _ => ?_⟩
    rw [Option.toList_none, List.append_nil]
    exact h
  | some s =>
    by_cases hs : s ∈ seen
    · obtain ⟨v, hv, hl⟩ := h.known s hs
      refine ⟨memo, ?_, fun w _ => h.congr fun t => ?_⟩
      · simp only [start, origin, selection, hl, hv, if_pos hs]
        rfl
      · rw [Option.toList_some, List.mem_append, List.mem_singleton]
        exact ⟨fun ht => ht.elim id fun he => he ▸ hs, Or.inl⟩
    · have hl := h.unknown s hs
      cases hv : doc.findOne root s with
      | error e =>
        refine ⟨memo, ?_, fun w hw => ?_⟩
        · simp only [start, origin, selection, hl, hv, if_neg hs, Document.queryOne,
            Outcome.queried]
          rfl
        · rw [origin, hv] at hw
          cases hw
      | ok v =>
        refine ⟨(s, v) :: memo, ?_, fun w _ => h.cons hv⟩
        simp only [start, origin, selection, hl, hv, if_neg hs, Document.queryOne,
          Outcome.queried]
        rfl

theorem selectors_append (fields rest : List (ActiveField ν)) :
    selectors (fields ++ rest) = selectors fields ++ selectors rest := List.filterMap_append

theorem selectors_singleton (field : ActiveField ν) :
    selectors [field] = field.selector.toList := by
  rw [selectors, List.filterMap_cons, List.filterMap_nil]
  cases field.selector <;> rfl

/-- The queries of a run of segments. -/
def queriesOf (parts : List (Segment ν)) : List (Query ν) :=
  parts.flatMap fun p => p.selection ++ p.chain

/-- Whatever fields came before, evaluation gives each field the value it has by itself, and makes
the queries of the fields it reaches. -/
theorem evaluate_of_records {memo : Memo ν} (earlier : List (ActiveField ν))
    (h : memo.Records doc root (selectors earlier)) (fields : List (ActiveField ν)) :
    evaluate doc root memo fields =
      ⟨fields.mapM fun field => (fieldValue doc root field).map fun v => (field.key, v),
        queriesOf (segments doc root earlier (reached doc root fields))⟩ := by
  induction fields generalizing memo earlier with
  | nil => rfl
  | cons field rest ih =>
    obtain ⟨memo', hstart, hrecords⟩ := start_of_records h field.selector
    rw [List.mapM_cons, reached]
    cases ho : origin doc root field.selector with
    | error e =>
      have hvalue : fieldValue doc root field = .error e := by rw [fieldValue, ho]; rfl
      have hchain : chainQueries doc root field = [] := by rw [chainQueries, ho]
      have hfail : start doc root memo field.selector =
          ⟨.error e, selection root (selectors earlier) field.selector⟩ := by rw [hstart, ho]; rfl
      rw [evaluate, hfail, Outcome.error_bind, hvalue, segments, segments, hchain, queriesOf,
        List.flatMap_singleton, List.append_nil]
      rfl
    | ok v =>
      have hvalue : fieldValue doc root field = (runChain field.chain v).result := by
        rw [fieldValue, ho]
        rfl
      have hchain : chainQueries doc root field = (runChain field.chain v).queries := by
        rw [chainQueries, ho]
      have hfound : start doc root memo field.selector =
          ⟨.ok (v, memo'), selection root (selectors earlier) field.selector⟩ := by
        rw [hstart, ho]
        rfl
      have hnext : memo'.Records doc root (selectors (earlier ++ [field])) := by
        rw [selectors_append, selectors_singleton]
        exact hrecords v ho
      rw [evaluate, hfound, Outcome.ok_bind, hvalue]
      rcases hrun : runChain field.chain v with ⟨_ | w, qs⟩
      · rw [segments, segments, hchain, hrun, queriesOf, List.flatMap_singleton]
        simp only [hrun, Outcome.error_bind]
        rfl
      · rw [segments, hchain, hrun, queriesOf, List.flatMap_cons]
        simp only [hrun, Outcome.ok_bind, ih _ hnext]
        cases rest.mapM fun field => (fieldValue doc root field).map fun v => (field.key, v) with
        | error e =>
          rw [Outcome.error_bind, List.append_assoc]
          rfl
        | ok values =>
          rw [Outcome.ok_bind, Outcome.pure_eq, List.append_nil, List.append_assoc]
          rfl

end Harvest.Extraction
