import Harvest.Proofs.Extraction.Phases

/-!
# Resolving ahead and resolving in turn

A chain can be resolved as a whole before it runs, or element by element while it runs. On chains
that resolve the two give the same outcome. On the others running in turn gets as far as the first
element that cannot be resolved, and fails there at the latest: it ends with the failure of an
earlier step when there is one, and otherwise with the failure to resolve.
-/

namespace Harvest.Chain

variable {ν : Type}

theorem runSteps_append (done rest : List (Step ν)) (v : Value ν) :
    runSteps (done ++ rest) v = runSteps done v >>= runSteps rest := by
  induction done generalizing v with
  | nil =>
    rw [List.nil_append, runSteps, pure_bind]
  | cons step done ih =>
    simp only [List.cons_append, runSteps, bind_assoc, ih]

/-- A run that fails does so in one of its steps, on what the steps before it yield. -/
theorem exists_of_result_runSteps_error {steps : List (Step ν)} {v : Value ν} {f : Failure ν}
    (h : (runSteps steps v).result = .error f) :
    ∃ done step rest w, steps = done ++ step :: rest ∧ (runSteps done v).result = .ok w ∧
      (step w).result = .error f := by
  induction steps generalizing v with
  | nil => cases h
  | cons step steps ih =>
    rw [runSteps, Outcome.result_bind] at h
    cases hstep : (step v).result with
    | error e =>
      rw [hstep] at h
      cases h
      exact ⟨[], step, steps, v, rfl, rfl, hstep⟩
    | ok u =>
      rw [hstep] at h
      obtain ⟨done, failing, rest, w, rfl, hdone, hfailing⟩ := ih h
      refine ⟨step :: done, failing, rest, w, rfl, ?_, hfailing⟩
      rw [runSteps, Outcome.result_bind, hstep]
      exact hdone

/-- A chain fails exactly when one of its steps fails on what the steps before it yield. -/
theorem result_run_eq_error_iff {c : Chain ν} {v : Value ν} {f : Failure ν} :
    (c.run v).result = .error f ↔
      ∃ done step rest w, c.steps = done ++ step :: rest ∧ (Chain.run ⟨done⟩ v).result = .ok w ∧
        (step.2 w).result = .error f := by
  constructor
  · intro h
    obtain ⟨done, step, rest, w, hsteps, hdone, hstep⟩ := exists_of_result_runSteps_error h
    obtain ⟨done', rest', hc, rfl, hrest⟩ := List.map_eq_append_iff.1 hsteps
    obtain ⟨step', rest'', rfl, rfl, -⟩ := List.map_eq_cons_iff.1 hrest
    exact ⟨done', step', rest'', w, hc, hdone, hstep⟩
  · rintro ⟨done, step, rest, w, hsteps, hdone, hstep⟩
    rw [run] at hdone ⊢
    rw [hsteps, List.map_append, List.map_cons, runSteps_append, Outcome.result_bind, hdone]
    change (runSteps (step.2 :: rest.map (·.2)) w).result = _
    rw [runSteps, Outcome.result_bind, hstep]
    rfl

variable [Host ν] (r : Registry ν) (doc : Document ν)

theorem applyEach_append (before after : List (Element ν)) (v : Value ν) :
    applyEach r doc (before ++ after) v = applyEach r doc before v >>= applyEach r doc after := by
  induction before generalizing v with
  | nil =>
    rw [List.nil_append, applyEach, pure_bind]
  | cons x before ih =>
    simp only [List.cons_append, applyEach, bind_assoc, ih]

variable {r doc}

theorem resolve_eq_ok_iff {xs : List (Element ν)} {c : Chain ν} :
    resolve xs r doc = .ok c ↔
      List.Forall₂ (fun x step => resolveElement x r doc = .ok step) xs c.steps := by
  rw [← mapM_eq_ok_iff, resolve, resolveSteps_eq_mapM]
  cases xs.mapM fun x => resolveElement x r doc with
  | error e => simp [Except.map]
  | ok steps =>
    obtain ⟨steps'⟩ := c
    simp [Except.map]

/-- A chain that cannot be resolved can be resolved up to its first element that cannot. -/
theorem exists_of_resolve_eq_error {xs : List (Element ν)} {e : Failure ν}
    (h : resolve xs r doc = .error e) :
    ∃ before x after c, xs = before ++ x :: after ∧ resolve before r doc = .ok c ∧
      resolveElement x r doc = .error e := by
  have hmapM : (xs.mapM fun x => resolveElement x r doc) = .error e := by
    rw [resolve, resolveSteps_eq_mapM] at h
    cases hxs : xs.mapM fun x => resolveElement x r doc with
    | ok steps =>
      rw [hxs] at h
      cases h
    | error e' =>
      rw [hxs] at h
      cases h
      rfl
  obtain ⟨before, x, after, steps, hsplit, hbefore, hx⟩ := exists_of_mapM_eq_error hmapM
  exact ⟨before, x, after, ⟨steps⟩, hsplit, resolve_eq_ok_iff.2 (mapM_eq_ok_iff.1 hbefore), hx⟩

theorem applyEach_of_forall₂ {xs : List (Element ν)} {steps : List (Descriptor ν × Step ν)}
    (h : List.Forall₂ (fun x step => resolveElement x r doc = .ok step) xs steps) (v : Value ν) :
    applyEach r doc xs v = runSteps (steps.map (·.2)) v := by
  induction h generalizing v with
  | nil => rfl
  | cons hx _ ih =>
    rw [applyEach, hx, Outcome.of_ok, List.map_cons, runSteps]
    exact bind_congr fun w => ih w

theorem applyEach_cons_of_error {x : Element ν} {e : Failure ν}
    (hx : resolveElement x r doc = .error e) (after : List (Element ν)) (v : Value ν) :
    applyEach r doc (x :: after) v = ⟨.error e, []⟩ := by
  rw [applyEach, hx, Outcome.of_error, Outcome.error_bind]

variable (r doc)

/-- Resolving each element in its turn agrees with resolving them all first. When all can be
resolved, there is one step for each in order, and the outcomes are the same. When some cannot, the
elements before the first of these form a chain `c`: where `c` fails, in some step on what the steps
before it yield, so does applying the elements, and otherwise the failure to resolve comes after
the queries of `c`. -/
theorem applyEach_agrees_with_resolve (xs : List (Element ν)) (v : Value ν) :
    match resolve xs r doc with
    | .ok c =>
      List.Forall₂ (fun x step => resolveElement x r doc = .ok step) xs c.steps ∧
        applyEach r doc xs v = c.run v
    | .error e =>
      ∃ before x after c, xs = before ++ x :: after ∧ resolve before r doc = .ok c ∧
        resolveElement x r doc = .error e ∧
        match c.run v with
        | ⟨.ok _, queries⟩ => applyEach r doc xs v = ⟨.error e, queries⟩
        | ⟨.error f, queries⟩ =>
          applyEach r doc xs v = ⟨.error f, queries⟩ ∧
            ∃ done step rest w, c.steps = done ++ step :: rest ∧
              (Chain.run ⟨done⟩ v).result = .ok w ∧ (step.2 w).result = .error f := by
  cases hxs : resolve xs r doc with
  | ok c =>
    have hsteps := resolve_eq_ok_iff.1 hxs
    exact ⟨hsteps, applyEach_of_forall₂ hsteps v⟩
  | error e =>
    obtain ⟨before, x, after, c, hsplit, hbefore, hx⟩ := exists_of_resolve_eq_error hxs
    have happly : applyEach r doc xs v = c.run v >>= fun _ => ⟨.error e, []⟩ := by
      rw [hsplit, applyEach_append, applyEach_of_forall₂ (resolve_eq_ok_iff.1 hbefore)]
      exact bind_congr fun w => applyEach_cons_of_error hx after w
    refine ⟨before, x, after, c, hsplit, hbefore, hx, ?_⟩
    rcases hrun : c.run v with ⟨f | w, queries⟩
    · rw [hrun, Outcome.error_bind] at happly
      exact ⟨happly, result_run_eq_error_iff.1 (congrArg Outcome.result hrun)⟩
    · rw [hrun, Outcome.ok_bind, List.append_nil] at happly
      exact happly

end Harvest.Chain
