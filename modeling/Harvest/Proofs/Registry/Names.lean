import Harvest.Proofs.Registry.Standard

/-!
# Names in registries that can be reached

The entries of a registry change by putting an entry in under a name without a colon, by taking a
name out, and by starting again from nothing. What holds of no entries and is kept by these holds in
every registry that operations lead to. In particular no text with a colon is ever a name.
-/

namespace Harvest.Registry

variable {ν : Type}

/-- What holds of no entries, and still holds after an entry was put in or a name taken out. -/
structure Kept (P : List (Entry ν) → Prop) : Prop where
  nil : P []
  put : ∀ (e : Entry ν) (es : List (Entry ν)), ':' ∉ e.name → P es → P (put e es)
  remove : ∀ (name : Text) (es : List (Entry ν)), P es → P (es.filter (·.name ≠ name))

theorem Kept.foldl_put {P : List (Entry ν) → Prop} (h : Kept P) {es added : List (Entry ν)}
    (hes : P es) (hadded : ∀ e ∈ added, ':' ∉ e.name) :
    P (added.foldl (fun es e => Registry.put e es) es) := by
  induction added generalizing es with
  | nil => exact hes
  | cons e added ih =>
    refine ih (h.put e es (hadded e List.mem_cons_self) hes) fun e' he' => ?_
    exact hadded e' (List.mem_cons_of_mem _ he')

theorem kept_separator_not_mem :
    Kept fun es : List (Entry ν) => ∀ e ∈ es, ':' ∉ e.name where
  nil _ he := absurd he List.not_mem_nil
  put e es hname hes := by
    induction es with
    | nil =>
      intro e' he'
      rw [put, List.mem_singleton] at he'
      exact he' ▸ hname
    | cons x es ih =>
      obtain ⟨hx, hes⟩ := List.forall_mem_cons.1 hes
      rw [put]
      split
      · exact List.forall_mem_cons.2 ⟨hname, hes⟩
      · exact List.forall_mem_cons.2 ⟨hx, ih hes⟩
  remove _ _ hes e he := hes e (List.mem_filter.1 he).1

variable [Host ν]

/-- The registry after a sequence of operations. -/
def run (r : Registry ν) (ops : List (Operation ν)) : Registry ν :=
  ops.foldl (fun r op => (r.perform op).1) r

theorem run_cons (r : Registry ν) (op : Operation ν) (ops : List (Operation ν)) :
    r.run (op :: ops) = (r.perform op).1.run ops := rfl

namespace Kept

variable {P : List (Entry ν) → Prop}

theorem load (h : Kept P) {r : Registry ν} (hr : P r.entries) : P r.load.entries := by
  rw [Registry.load]
  split
  · exact hr
  · change P (if r.includesStandard then _ else r.entries)
    split
    · exact h.foldl_put hr fun _ he => separator_not_mem_standard he
    · exact hr

theorem register (h : Kept P) {r s : Registry ν} {e : Entry ν} {warnings : List Text}
    (hr : P r.entries) (hs : r.register e = .ok (s, warnings)) : P s.entries := by
  unfold Registry.register at hs
  by_cases hname : e.name.contains ':' = true
  · rw [if_pos hname] at hs
    cases hs
  · rw [if_neg hname] at hs
    cases hs
    refine h.put e _ (fun hm => hname ?_) (h.load hr)
    rwa [List.contains_iff_mem]

theorem perform (h : Kept P) {r : Registry ν} (hr : P r.entries) (op : Operation ν) :
    P (r.perform op).1.entries := by
  cases op with
  | register e =>
    rw [Registry.perform]
    cases hs : r.register e with
    | error f => exact h.load hr
    | ok p => exact h.register hr hs
  | unregister name => exact h.remove name _ (h.load hr)
  | reload => exact h.load h.nil
  | load | get | contains | keys | count | summaries | copy => exact h.load hr

theorem run (h : Kept P) {r : Registry ν} (hr : P r.entries) (ops : List (Operation ν)) :
    P (r.run ops).entries := by
  induction ops generalizing r with
  | nil => exact hr
  | cons op ops ih =>
    rw [run_cons]
    exact ih (h.perform hr op)

end Kept

/-- No text with a colon is a name in a registry that can be reached. -/
theorem get?_run_of_separator (includesStandard : Bool) (ops : List (Operation ν)) {t : Text}
    (ht : ':' ∈ t) : ((make includesStandard).run ops).get? t = none := by
  have hmake : ∀ e ∈ (make includesStandard : Registry ν).entries, ':' ∉ e.name :=
    kept_separator_not_mem.nil
  have hnames := kept_separator_not_mem.load (kept_separator_not_mem.run hmake ops)
  rw [get?, lookup, List.find?_eq_none]
  intro e he hname
  rw [decide_eq_true_eq] at hname
  exact hnames e he (hname ▸ ht)

theorem get?_standard_of_separator {t : Text} (ht : ':' ∈ t) :
    (standard : Registry ν).get? t = none := get?_run_of_separator true [.load] ht

theorem name_of_get? {r : Registry ν} {name : Text} {e : Entry ν} (h : r.get? name = some e) :
    e.name = name := by
  have hname := List.find?_some h
  rwa [decide_eq_true_eq] at hname

end Harvest.Registry
