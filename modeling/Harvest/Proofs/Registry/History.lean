import Harvest.Page
import Harvest.Proofs.Registry.Replies
import Mathlib.Data.List.Induction

/-!
# What a registry holds is decided by its history

Of the operations since a registry was last reloaded, or since it was made, the latest that is about
a name decides what the name stands for: an accepted registration gives it its entry, a removal
takes it away. A name that none of them is about has its standard entry, when the standard set is
included. The main statement says so of every history without copies, and what each operation then
answers. Histories start from a registry that has loaded nothing, and read as if it had.
-/

namespace Harvest.Registry

variable {ν : Type}

namespace Operation

/-- Whether the operation decides what a name stands for. Registrations under names with a colon are
refused and decide nothing. -/
def decides (name : Text) : Operation ν → Bool
  | .register e => e.name = name && !name.contains ':'
  | .unregister removed => removed = name
  | _ => false

end Operation

def Reply.warnings : Reply ν → List Text
  | .registered warnings => warnings
  | _ => []

/-- The latest operation that decides what a name stands for, unless a reload came after it. -/
def latest? (ops : List (Operation ν)) (name : Text) : Option (Operation ν) :=
  (ops.reverse.takeWhile fun op => !op.isReload).find? (·.decides name)

theorem latest?_append_singleton (ops : List (Operation ν)) (op : Operation ν) (name : Text) :
    latest? (ops ++ [op]) name =
      if op.isReload then none else if op.decides name then some op else latest? ops name := by
  rw [latest?, List.reverse_append, List.reverse_singleton, List.singleton_append,
    List.takeWhile_cons]
  cases op.isReload with
  | true => simp
  | false =>
    cases hdecides : op.decides name <;> simp [latest?, hdecides]

variable [Host ν]

/-- The entry that a name stands for after a history without copies. -/
def entryAfter (includesStandard : Bool) (ops : List (Operation ν)) (name : Text) :
    Option (Entry ν) :=
  match latest? ops name with
  | none => standardEntry includesStandard name
  | some (.register e) => some e
  | some _ => none

/-- What a name stands for after one more operation. -/
theorem get?_perform {r : Registry ν} {op : Operation ν} (hop : op.isCopy = false) (name : Text) :
    (r.perform op).1.get? name =
      if op.isReload then standardEntry r.includesStandard name
      else if op.decides name then
        match op with
        | .register e => some e
        | _ => none
      else r.get? name := by
  cases op with
  | register e => simp [get?_perform_register, Operation.isReload, Operation.decides]
  | unregister removed => simp [get?_perform_unregister, Operation.isReload, Operation.decides]
  | reload => simp [get?_perform_reload, Operation.isReload]
  | copy => cases hop
  | load | get | contains | keys | count | summaries =>
    simp [perform, Operation.isReload, Operation.decides]

theorem get?_run {includesStandard : Bool} {ops : List (Operation ν)}
    (hops : ∀ op ∈ ops, op.isCopy = false) (name : Text) :
    ((make includesStandard).run ops).get? name = entryAfter includesStandard ops name := by
  induction ops using List.reverseRecOn with
  | nil => exact get?_make includesStandard name
  | append_singleton ops op ih =>
    have hbefore : ∀ op ∈ ops, op.isCopy = false :=
      fun op hop => hops op (List.mem_append_left _ hop)
    have hop : op.isCopy = false := hops op (List.mem_append_right _ (List.mem_singleton_self op))
    have hincludes : ((make includesStandard : Registry ν).run ops).includesStandard =
        includesStandard := by
      have hall : (ops.all fun op => !op.isCopy) = true := by simpa using hbefore
      rw [includesStandard_run, hall, Bool.and_true]
      rfl
    rw [run_append, run_singleton, get?_perform hop, hincludes, entryAfter,
      latest?_append_singleton, ih hbefore]
    cases hreload : op.isReload with
    | true => rfl
    | false =>
      cases hdecides : op.decides name with
      | true =>
        simp only [Bool.false_eq_true, if_false, if_true]
        cases op <;> rfl
      | false => rfl

theorem loaded_perform (r : Registry ν) (op : Operation ν) : (r.perform op).1.loaded = true := by
  cases op with
  | register e =>
    by_cases hsep : ':' ∈ e.name
    · rw [perform_register_of_mem r hsep, loaded_load]
    · rw [perform_register_of_not_mem r hsep]
  | copy => rfl
  | reload =>
    rw [perform_reload]
    exact loaded_load _
  | load | unregister | get | contains | keys | count | summaries => exact loaded_load r

/-- A registry that was never loaded holds nothing yet. -/
theorem loaded_or_nil_run (includesStandard : Bool) (ops : List (Operation ν)) :
    ((make includesStandard).run ops).loaded = true ∨
      ((make includesStandard).run ops).entries = [] := by
  induction ops using List.reverseRecOn with
  | nil => exact .inr rfl
  | append_singleton ops op _ =>
    left
    rw [run_append, run_singleton]
    exact loaded_perform _ op

/-- A registration that is refused changes nothing that can be observed later. -/
theorem replies_perform_register_of_mem (r : Registry ν) {e : Entry ν} (h : ':' ∈ e.name)
    (later : List (Operation ν)) : (r.perform (.register e)).1.replies later = r.replies later := by
  rw [perform_register_of_mem r h]
  exact (sameEntries_load r).replies_eq (.inl (includesStandard_load r))

/-- Only an accepted registration under a name that is held gives a warning. -/
theorem warnings_perform_ne_nil_iff (r : Registry ν) (op : Operation ν) :
    (r.perform op).2.warnings ≠ [] ↔
      ∃ e, op = .register e ∧ ':' ∉ e.name ∧ (r.get? e.name).isSome = true := by
  cases op with
  | register e =>
    by_cases hsep : ':' ∈ e.name
    · rw [perform_register_of_mem r hsep]
      refine ⟨fun h => absurd rfl h, ?_⟩
      rintro ⟨e', he, hfree, -⟩
      cases he
      exact absurd hsep hfree
    · rw [perform_register_of_not_mem r hsep]
      change replacementWarnings e.name (r.get? e.name).isSome ≠ [] ↔ _
      constructor
      · intro h
        refine ⟨e, rfl, hsep, ?_⟩
        by_contra hnone
        rw [replacementWarnings, if_neg hnone] at h
        exact h rfl
      · rintro ⟨e', he, -, hheld⟩
        cases he
        rw [replacementWarnings, if_pos hheld]
        exact List.cons_ne_nil _ _
  | load | unregister | get | contains | keys | count | summaries | copy | reload =>
    exact ⟨fun h => absurd rfl h, fun ⟨_, he, _⟩ => by cases he⟩

/-- After a history without copies, each name stands for what its history says, and a removal, a
registration and a membership test answer accordingly. A registration under a name with a colon is
refused and leaves every later reply as it was; the others warn exactly when they replace an entry,
and nothing else warns. Before the next operation the registry can be loaded by registering the
standard entries one by one, and likewise when it is reloaded: this warns of nothing either, and the
replies are the same. -/
theorem perform_run_decided_by_history (includesStandard : Bool) {ops : List (Operation ν)}
    (hops : ∀ op ∈ ops, op.isCopy = false) :
    let r := (make includesStandard).run ops
    let found := entryAfter includesStandard ops
    (∀ name, (r.perform (.get name)).2 = .entry (found name)) ∧
      (∀ name, (r.perform (.contains (.text name))).2 = .held (found name).isSome) ∧
      (∀ name, (r.perform (.unregister name)).2 = .removed (found name).isSome) ∧
      (∀ e, ':' ∉ e.name → (r.perform (.register e)).2 =
        .registered (replacementWarnings e.name (found e.name).isSome)) ∧
      (∀ e, ':' ∈ e.name → (r.perform (.register e)).2 = .refused (.separatorInName e.name) ∧
        ∀ later, (r.perform (.register e)).1.replies later = r.replies later) ∧
      (∀ op, (r.perform op).2.warnings ≠ [] ↔
        ∃ e, op = .register e ∧ ':' ∉ e.name ∧ (found e.name).isSome = true) ∧
      (∃ s, r.loadByRegistration = .ok (s, []) ∧ ∀ later, s.replies later = r.replies later) ∧
      ({ r with loaded := false, entries := [] } : Registry ν).loadByRegistration =
        .ok ((r.perform .reload).1, []) := by
  intro r found
  have hfound : ∀ name, r.get? name = found name := get?_run hops
  refine ⟨fun name => ?_, fun name => ?_, fun name => ?_, fun e he => ?_, fun e he => ⟨?_, ?_⟩,
    fun op => ?_, ⟨r.load, ?_, ?_⟩, ?_⟩
  · exact congrArg Reply.entry (hfound name)
  · exact congrArg (fun e => Reply.held e.isSome) (hfound name)
  · exact congrArg (fun e => Reply.removed e.isSome) (hfound name)
  · rw [perform_register_of_not_mem r he, hfound]
  · rw [perform_register_of_mem r he]
  · exact replies_perform_register_of_mem r he
  · rw [warnings_perform_ne_nil_iff]
    simp only [hfound]
  · exact loadByRegistration_eq (loaded_or_nil_run includesStandard ops)
  · exact fun later => (sameEntries_load r).replies_eq (.inl (includesStandard_load r))
  · exact loadByRegistration_eq (.inr rfl)

/-- An entry of the host under the name of a standard one. -/
def ownTrim : Entry Markup.Cursor :=
  ⟨"trim".toList, .plain fun _ => pure, .any, false, [], false, .host "identity".toList⟩

/-- The first operation registers the entry, and the standard one is not put over it later. -/
theorem perform_run_ownTrim :
    let r := (make true).run [.register ownTrim, .unregister "split".toList, .keys]
    (∀ op ∈ [Operation.register ownTrim, .unregister "split".toList, .keys], op.isCopy = false) ∧
      (r.perform (.get "trim".toList)).2 = .entry (some ownTrim) ∧
      (r.perform (.unregister "split".toList)).2 = .removed false ∧
      (r.perform (.register ownTrim)).2 =
        .registered ["Replacing registered transformation: trim".toList] := by
  intro r
  have hops : ∀ op ∈ [Operation.register ownTrim, .unregister "split".toList, .keys],
      op.isCopy = false := by simp [Operation.isCopy]
  obtain ⟨hget, -, hremoved, hregistered, -⟩ := perform_run_decided_by_history true hops
  refine ⟨hops, (hget _).trans rfl, (hremoved _).trans rfl, (hregistered ownTrim ?_).trans rfl⟩
  decide

end Harvest.Registry
