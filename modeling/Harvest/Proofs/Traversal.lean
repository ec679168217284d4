import Mathlib.Data.List.Forall2

/-!
# Functions that may fail

What holds of the failure or of the result of a computation is found part by part. A list is gone
through with a function that may fail until its first failure: the outcome is found by searching for
this failure, and it is all results exactly when the results correspond to the elements one by one.
-/

namespace Harvest

def failure? {ε α : Type} : Except ε α → Option ε
  | .error e => some e
  | .ok _ => none

@[simp] theorem failure?_error {ε α : Type} (e : ε) : failure? (.error e : Except ε α) = some e :=
  rfl

@[simp] theorem failure?_ok {ε α : Type} (a : α) : failure? (.ok a : Except ε α) = none := rfl

@[simp] theorem failure?_map {ε α β : Type} (f : α → β) (x : Except ε α) :
    failure? (x.map f) = failure? x := by
  cases x <;> rfl

theorem eq_ok_of_failure? {ε α : Type} {x : Except ε α} (h : failure? x = none) :
    ∃ a, x = .ok a := by
  cases x with
  | error e => cases h
  | ok a => exact ⟨a, rfl⟩

theorem map_eq_ok_iff {ε α β : Type} {x : Except ε α} {f : α → β} {b : β} :
    x.map f = .ok b ↔ ∃ a, x = .ok a ∧ f a = b := by
  cases x <;> simp [Except.map]

theorem bind_eq_ok_iff {ε α β : Type} {x : Except ε α} {f : α → Except ε β} {b : β} :
    x.bind f = .ok b ↔ ∃ a, x = .ok a ∧ f a = .ok b := by
  cases x <;> simp [Except.bind]

/-! ### What holds of a failure or of a result -/

/-- One thing holds of the failure, or another of the result. -/
def Yields {ε α : Type} (E : ε → Prop) (A : α → Prop) : Except ε α → Prop
  | .error e => E e
  | .ok a => A a

namespace Yields

variable {ε α β : Type} {E : ε → Prop} {A : α → Prop} {B : β → Prop} {x : Except ε α}

theorem bind {f : α → Except ε β} (h : Yields E A x) (hf : ∀ a, A a → Yields E B (f a)) :
    Yields E B (x >>= f) := by
  cases x with
  | error e => exact h
  | ok a => exact hf a h

theorem map {f : α → β} (h : Yields E A x) (hf : ∀ a, A a → B (f a)) : Yields E B (x.map f) := by
  cases x with
  | error e => exact h
  | ok a => exact hf a h

theorem mono {E' : ε → Prop} (h : Yields E A x) (hE : ∀ e, E e → E' e) : Yields E' A x := by
  cases x with
  | error e => exact hE e h
  | ok a => exact h

theorem ite {c : Prop} [Decidable c] {y : Except ε α} (hx : c → Yields E A x)
    (hy : ¬ c → Yields E A y) : Yields E A (if c then x else y) := by
  split
  · rename_i hc
    exact hx hc
  · rename_i hc
    exact hy hc

/-- What goes on after a check only has to be looked at when the check was passed. -/
theorem check {c : Prop} [Decidable c] {e : ε} {f : Unit → Except ε β} (he : E e)
    (h : ¬ c → Yields E B (f ())) :
    Yields E B (if c then (throw e : Except ε Unit) >>= f else f ()) := by
  split
  · exact he
  · rename_i hc
    exact h hc

end Yields

/-! ### Lists -/

theorem mapM_congr {m : Type → Type} [Monad m] [LawfulMonad m] {α β : Type} {f g : α → m β}
    {xs : List α} (h : ∀ x ∈ xs, f x = g x) : xs.mapM f = xs.mapM g := by
  have hmapM := congrArg (List.mapM id) (List.map_congr_left h)
  rwa [List.mapM_map, List.mapM_map] at hmapM

/-- A list is gone through until the first failure, or to its end. -/
theorem mapM_eq_elim {ε α β : Type} (f : α → Except ε β) (xs : List α) :
    xs.mapM f = (xs.findSome? fun x => failure? (f x)).elim
      (.ok (xs.filterMap fun x => (f x).toOption)) .error := by
  induction xs with
  | nil => rfl
  | cons x xs ih =>
    rw [List.mapM_cons, ih, List.findSome?_cons, List.filterMap_cons]
    cases hx : f x with
    | error e => rfl
    | ok b =>
      cases xs.findSome? fun x => failure? (f x) with
      | some e => rfl
      | none => rfl

theorem findSome?_filterMap {α β γ : Type} (f : α → Option β) (g : β → Option γ) (xs : List α) :
    (xs.filterMap f).findSome? g = xs.findSome? fun x => (f x).bind g := by
  rw [← List.head?_filterMap, List.filterMap_filterMap, List.head?_filterMap]

/-- A list is gone through to its end exactly when every element succeeds. -/
theorem mapM_eq_ok_iff {ε α β : Type} {f : α → Except ε β} {xs : List α} {ys : List β} :
    xs.mapM f = .ok ys ↔ List.Forall₂ (fun x y => f x = .ok y) xs ys := by
  induction xs generalizing ys with
  | nil =>
    rw [List.forall₂_nil_left_iff]
    exact ⟨fun h => by cases h; rfl, fun h => by rw [h]; rfl⟩
  | cons x xs ih =>
    rw [List.mapM_cons, List.forall₂_cons_left_iff]
    cases hx : f x with
    | error e =>
      constructor
      · intro h
        cases h
      · rintro ⟨y, zs, hy, -, -⟩
        cases hy
    | ok y =>
      cases hxs : xs.mapM f with
      | error e =>
        constructor
        · intro h
          cases h
        · rintro ⟨z, zs, -, hzs, -⟩
          rw [ih.2 hzs] at hxs
          cases hxs
      | ok zs =>
        constructor
        · intro h
          cases h
          exact ⟨y, zs, rfl, ih.1 hxs, rfl⟩
        · rintro ⟨z, zs', hz, hzs, rfl⟩
          rw [ih.2 hzs] at hxs
          cases hz
          cases hxs
          rfl

/-- A list that is not gone through to its end is gone through up to the first failure. -/
theorem exists_of_mapM_eq_error {ε α β : Type} {f : α → Except ε β} {xs : List α} {e : ε}
    (h : xs.mapM f = .error e) :
    ∃ before x after ys, xs = before ++ x :: after ∧ before.mapM f = .ok ys ∧ f x = .error e := by
  induction xs with
  | nil => cases h
  | cons x xs ih =>
    rw [List.mapM_cons] at h
    cases hx : f x with
    | error e' =>
      rw [hx] at h
      cases h
      exact ⟨[], x, xs, [], rfl, rfl, hx⟩
    | ok y =>
      cases hxs : xs.mapM f with
      | ok ys =>
        rw [hx, hxs] at h
        cases h
      | error e' =>
        rw [hx, hxs] at h
        cases h
        obtain ⟨before, x', after, ys, rfl, hbefore, hx'⟩ := ih hxs
        refine ⟨x :: before, x', after, y :: ys, rfl, ?_, hx'⟩
        rw [List.mapM_cons, hx, hbefore]
        rfl

theorem mapM_eq_of_forall₂ {ε α β γ : Type} {g : α → Except ε γ} {h : β → Except ε γ}
    {xs : List α} {ys : List β} (hxy : List.Forall₂ (fun x y => g x = h y) xs ys) :
    xs.mapM g = ys.mapM h := by
  induction hxy with
  | nil => rfl
  | cons hx _ ih => rw [List.mapM_cons, List.mapM_cons, hx, ih]

theorem exists_mem_of_forall₂ {α β : Type} {R : α → β → Prop} {xs : List α} {ys : List β}
    (h : List.Forall₂ R xs ys) {y : β} (hy : y ∈ ys) : ∃ x ∈ xs, R x y := by
  induction h with
  | nil => cases hy
  | cons hxy _ ih =>
    rcases List.mem_cons.1 hy with rfl | hy
    · exact ⟨_, List.mem_cons_self, hxy⟩
    · obtain ⟨x, hx, hxy⟩ := ih hy
      exact ⟨x, List.mem_cons_of_mem _ hx, hxy⟩

theorem eq_filterMap_of_forall₂ {ε α β : Type} {f : α → Except ε β} {xs : List α} {ys : List β}
    (hxy : List.Forall₂ (fun x y => f x = .ok y) xs ys) :
    ys = xs.filterMap fun x => (f x).toOption := by
  induction hxy with
  | nil => rfl
  | cons hx _ ih =>
    rw [List.filterMap_cons, hx, ih]
    rfl

end Harvest
