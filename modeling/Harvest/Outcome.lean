import Harvest.Failure

/-!
# Outcomes

A computation over a document has a result, which may be a failure, and the queries it made on the
way, in order. Queries made before a failure are kept. Outcomes form a lawful monad in which the
queries of a sequence are the queries of its parts, one after the other.
-/

namespace Harvest

/-- A search below a node, for the first match or for all. -/
inductive Query (ν : Type) where
  | one (node : ν) (selector : Text)
  | all (node : ν) (selector : Text)
  deriving DecidableEq, Repr

@[ext] structure Outcome (ν α : Type) where
  result : Except (Failure ν) α
  queries : List (Query ν)

namespace Outcome

variable {ν α β : Type}

/-- An outcome without queries. -/
def of (r : Except (Failure ν) α) : Outcome ν α := ⟨r, []⟩

def fail (f : Failure ν) : Outcome ν α := ⟨.error f, []⟩

def queried (q : Query ν) (r : Except (Failure ν) α) : Outcome ν α := ⟨r, [q]⟩

protected def bind (x : Outcome ν α) (f : α → Outcome ν β) : Outcome ν β :=
  match x.result with
  | .error e => ⟨.error e, x.queries⟩
  | .ok a => ⟨(f a).result, x.queries ++ (f a).queries⟩

instance : Monad (Outcome ν) where
  pure a := ⟨.ok a, []⟩
  bind := Outcome.bind

@[simp] theorem pure_eq (a : α) : (pure a : Outcome ν α) = ⟨.ok a, []⟩ := rfl

@[simp] theorem error_bind (e : Failure ν) (qs : List (Query ν)) (f : α → Outcome ν β) :
    (⟨.error e, qs⟩ >>= f : Outcome ν β) = ⟨.error e, qs⟩ := rfl

@[simp] theorem ok_bind (a : α) (qs : List (Query ν)) (f : α → Outcome ν β) :
    (⟨.ok a, qs⟩ >>= f : Outcome ν β) = ⟨(f a).result, qs ++ (f a).queries⟩ := rfl

@[simp] theorem of_ok (a : α) : (of (.ok a) : Outcome ν α) = ⟨.ok a, []⟩ := rfl

@[simp] theorem of_error (e : Failure ν) : (of (.error e) : Outcome ν α) = ⟨.error e, []⟩ := rfl

theorem result_bind (x : Outcome ν α) (f : α → Outcome ν β) :
    (x >>= f).result = x.result.bind fun a => (f a).result := by
  rcases x with ⟨_ | a, qs⟩ <;> rfl

instance : LawfulMonad (Outcome ν) := LawfulMonad.mk' _
  (fun x => by
    rcases x with ⟨_ | a, qs⟩
    · rfl
    · change (⟨.ok a, qs ++ []⟩ : Outcome ν _) = _
      rw [List.append_nil])
  (fun a f => by
    change (⟨(f a).result, [] ++ (f a).queries⟩ : Outcome ν _) = f a
    rw [List.nil_append])
  (fun x f g => by
    rcases x with ⟨_ | a, qs⟩
    · rfl
    · simp only [ok_bind]
      rcases h : f a with ⟨_ | b, rs⟩
      · rfl
      · simp only [ok_bind, List.append_assoc])

end Outcome

end Harvest
