import Harvest.Page
import Harvest.Proofs.Registry.Replies

/-!
# What a copy is good for

A copy holds the entries of its original and answers like it, up to the first reload. Reloading
gives the original its standard set back, when it includes one, and leaves a copy with nothing,
because a copy includes no standard set. So a copy cannot be told from its original exactly when the
original includes no standard set either: when it was made without it, or is itself a copy.
-/

namespace Harvest.Registry

variable {ν : Type} [Host ν]

theorem sameEntries_copy (r : Registry ν) : SameEntries r.copy r := by
  have hloaded : r.copy.loaded = true := rfl
  rw [SameEntries, load_of_loaded hloaded, copy]

theorem replies_load (r : Registry ν) (later : List (Operation ν)) :
    r.load.replies later = r.replies later :=
  (sameEntries_load r).replies_eq (.inl (includesStandard_load r))

/-- A registry that is reloaded goes on as one that is made anew. -/
theorem replies_append_reload (r : Registry ν) (before later : List (Operation ν)) :
    r.replies (before ++ .reload :: later) =
      r.replies before ++ .done :: (make (r.run before).includesStandard).replies later := by
  rw [replies_append, replies, perform_reload, replies_load]

theorem replies_copy_of_no_reload (r : Registry ν) {later : List (Operation ν)}
    (h : ∀ op ∈ later, op.isReload = false) : r.copy.replies later = r.replies later :=
  (sameEntries_copy r).replies_eq (.inr h)

/-- The number of entries after a reload tells a copy from an original with a standard set. -/
theorem replies_copy_ne {r : Registry ν} (h : r.includesStandard = true) :
    r.copy.replies [.reload, .count] ≠ r.replies [.reload, .count] := by
  have hcopy := replies_append_reload r.copy [] [.count]
  have horiginal := replies_append_reload r [] [.count]
  have hkept : (r.run []).includesStandard = true := h
  have hlost : (r.copy.run []).includesStandard = false := rfl
  have hempty : (make false : Registry ν).count = 0 := by
    rw [count, load_make, if_neg Bool.false_ne_true, List.length_nil]
  have hfull : (make true : Registry ν).count = 18 := by
    rw [count, load_make, if_pos rfl]
    rfl
  rw [List.nil_append, hlost] at hcopy
  rw [List.nil_append, hkept] at horiginal
  rw [hcopy, horiginal]
  simp [replies, perform, hempty, hfull]

/-- A copy cannot be told from its original exactly when the original includes no standard set. -/
theorem replies_copy_eq_iff (r : Registry ν) :
    (∀ later, r.copy.replies later = r.replies later) ↔ r.includesStandard = false := by
  constructor
  · intro h
    cases hincludes : r.includesStandard with
    | false => rfl
    | true => exact absurd (h _) (replies_copy_ne hincludes)
  · intro h later
    exact (sameEntries_copy r).replies_eq (.inl h.symm)

/-- The replies of a copy are those of its original as long as nothing is reloaded. From a reload on
the original goes on as a registry made anew, and the copy as one made without the standard set. The
two can be told apart, unless the original was made without the standard set or is itself a copy. -/
theorem replies_copy (includesStandard : Bool) (ops : List (Operation ν)) :
    let r := (make includesStandard).run ops
    (∀ later : List (Operation ν), (∀ op ∈ later, op.isReload = false) →
        r.copy.replies later = r.replies later) ∧
      (∀ before later : List (Operation ν), (∀ op ∈ before, op.isReload = false) →
        r.copy.replies (before ++ .reload :: later) =
            r.replies before ++ .done :: (make false).replies later ∧
          r.replies (before ++ .reload :: later) = r.replies before ++ .done ::
            (make (r.run before).includesStandard).replies later) ∧
      ((∀ later, r.copy.replies later = r.replies later) ↔
        includesStandard = false ∨ ∃ op ∈ ops, op.isCopy = true) := by
  intro r
  refine ⟨fun later => replies_copy_of_no_reload r, fun before later hbefore => ⟨?_, ?_⟩, ?_⟩
  · have hlost : (r.copy.run before).includesStandard = false := by
      rw [includesStandard_run]
      exact Bool.false_and _
    rw [replies_append_reload, hlost, replies_copy_of_no_reload r hbefore]
  · exact replies_append_reload r before later
  · have hincludes : r.includesStandard =
        (includesStandard && ops.all fun op => !op.isCopy) := includesStandard_run _ ops
    rw [replies_copy_eq_iff, hincludes]
    cases includesStandard <;> simp

/-- A registry with the standard set and its copy, both reloaded, hold different numbers of entries,
so that the copy can be told from its original. -/
theorem replies_copy_reload_ne :
    ¬ ∀ (includesStandard : Bool) (ops later : List (Operation Markup.Cursor)),
      ((make includesStandard).run ops).copy.replies later =
        ((make includesStandard).run ops).replies later :=
  fun h => replies_copy_ne (r := (make true).run []) rfl (h true [] [.reload, .count])

end Harvest.Registry
