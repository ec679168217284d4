import Harvest.Proofs.Registry.Effects

/-!
# Registries that answer alike

A registry answers from the entries it holds once it is loaded, and from nothing else. Two that hold
the same entries in the same order answer every operation alike and still hold the same entries
afterwards, unless they are reloaded: then what they hold depends on whether each of them includes
the standard set.
-/

namespace Harvest.Registry

variable {ν : Type} [Host ν]

/-- The replies to a sequence of operations. -/
def replies (r : Registry ν) : List (Operation ν) → List (Reply ν)
  | [] => []
  | op :: ops => (r.perform op).2 :: (r.perform op).1.replies ops

theorem replies_append (r : Registry ν) (ops later : List (Operation ν)) :
    r.replies (ops ++ later) = r.replies ops ++ (r.run ops).replies later := by
  induction ops generalizing r with
  | nil => rfl
  | cons op ops ih => rw [List.cons_append, replies, replies, ih, List.cons_append, run_cons]

/-- The same entries in the same order, once both are loaded. -/
def SameEntries (r s : Registry ν) : Prop := r.load.entries = s.load.entries

theorem sameEntries_load (r : Registry ν) : SameEntries r.load r :=
  congrArg Registry.entries (load_load r)

namespace SameEntries

variable {r s : Registry ν}

theorem get? (h : SameEntries r s) (name : Text) : r.get? name = s.get? name :=
  congrArg (lookup name) h

/-- One operation is answered alike. -/
theorem reply (h : SameEntries r s) (op : Operation ν) : (r.perform op).2 = (s.perform op).2 := by
  have hentries : r.load.entries = s.load.entries := h
  cases op with
  | register e =>
    by_cases hsep : ':' ∈ e.name
    · rw [perform_register_of_mem r hsep, perform_register_of_mem s hsep]
    · rw [perform_register_of_not_mem r hsep, perform_register_of_not_mem s hsep, h.get? e.name]
  | unregister name => exact congrArg (fun es => Reply.removed (lookup name es).isSome) hentries
  | get name => exact congrArg Reply.entry (h.get? name)
  | contains v =>
    cases v with
    | text name => exact congrArg (fun e => Reply.held e.isSome) (h.get? name)
    | _ => rfl
  | keys =>
    exact congrArg (fun es => Reply.names ((es.map (·.name)).mergeSort nameBefore)) hentries
  | count => exact congrArg (fun es => Reply.number es.length) hentries
  | summaries kind =>
    have hsummaries : r.summaries kind = s.summaries kind := by
      cases kind <;> simp only [summaries, hentries]
    exact congrArg Reply.listing hsummaries
  | load | copy | reload => rfl

/-- Afterwards the entries are the same again, if a reload brings the same back. -/
theorem perform (h : SameEntries r s) {op : Operation ν}
    (hop : r.includesStandard = s.includesStandard ∨ op.isReload = false) :
    SameEntries (r.perform op).1 (s.perform op).1 := by
  have hentries : r.load.entries = s.load.entries := h
  cases op with
  | register e =>
    by_cases hsep : ':' ∈ e.name
    · rw [perform_register_of_mem r hsep, perform_register_of_mem s hsep, SameEntries, load_load,
        load_load, hentries]
    · rw [perform_register_of_not_mem r hsep, perform_register_of_not_mem s hsep]
      have hput : put e r.load.entries = put e s.load.entries := congrArg (put e) hentries
      simpa [SameEntries, load_of_loaded] using hput
  | unregister name =>
    have hr : (r.unregister name).1.loaded = true := loaded_load r
    have hs : (s.unregister name).1.loaded = true := loaded_load s
    rw [Registry.perform, Registry.perform, SameEntries, load_of_loaded hr, load_of_loaded hs,
      unregister, unregister, hentries]
  | reload =>
    have hincludes : r.includesStandard = s.includesStandard := hop.resolve_right Bool.noConfusion
    rw [perform_reload, perform_reload, hincludes, SameEntries]
  | load | get | contains | keys | count | summaries =>
    have hr : SameEntries r.load r := sameEntries_load r
    have hs : SameEntries s.load s := sameEntries_load s
    exact hr.trans (hentries.trans hs.symm)
  | copy => exact hentries

/-- Every sequence of operations is answered alike, if a reload brings the same back or there is
none. -/
theorem replies_eq (h : SameEntries r s) {ops : List (Operation ν)}
    (hops : r.includesStandard = s.includesStandard ∨ ∀ op ∈ ops, op.isReload = false) :
    r.replies ops = s.replies ops := by
  induction ops generalizing r s with
  | nil => rfl
  | cons op ops ih =>
    have hop : r.includesStandard = s.includesStandard ∨ op.isReload = false :=
      hops.imp_right fun hnone => hnone op List.mem_cons_self
    have hlater : (r.perform op).1.includesStandard = (s.perform op).1.includesStandard ∨
        ∀ op ∈ ops, op.isReload = false := by
      rcases hops with hincludes | hnone
      · left
        rw [includesStandard_perform, includesStandard_perform, hincludes]
      · exact .inr fun op' hop' => hnone op' (List.mem_cons_of_mem op hop')
    rw [replies, replies, h.reply op, ih (h.perform hop) hlater]

end SameEntries

end Harvest.Registry
