import Harvest.Proofs.Registry.Names

/-!
# What an operation does to the entry of a name

A registration that is accepted decides what its own name stands for, a removal likewise, and both
leave every other name alone. Reloading gives each name its standard entry back, when the standard
set is included. No other operation changes what a name stands for. The standard set is loaded as if
its entries were registered one by one, which meets no name twice and therefore warns of nothing.
-/

namespace Harvest.Registry

variable {ν : Type}

attribute [ext] Registry

theorem lookup_put (e : Entry ν) (es : List (Entry ν)) (name : Text) :
    lookup name (put e es) = if e.name = name then some e else lookup name es := by
  induction es with
  | nil => by_cases hname : e.name = name <;> simp [put, lookup, hname]
  | cons x es ih =>
    by_cases hx : x.name = e.name
    · by_cases hname : e.name = name <;> simp [put, lookup, hx, hname]
    · by_cases hfound : x.name = name
      · have hne : name ≠ e.name := fun h => hx (hfound.trans h)
        simp [put, lookup, hfound, hne, hne.symm]
      · simpa [put, lookup, hx, hfound] using ih

theorem lookup_filter_ne (removed name : Text) (es : List (Entry ν)) :
    lookup name (es.filter (·.name ≠ removed)) =
      if removed = name then none else lookup name es := by
  induction es with
  | nil => simp [lookup]
  | cons x es ih =>
    by_cases hx : x.name = removed
    · by_cases hname : removed = name
      · simp [lookup, hx, hname]
      · simpa [lookup, hx, hname] using ih
    · by_cases hfound : x.name = name
      · have hne : name ≠ removed := fun h => hx (hfound.trans h)
        simp [lookup, hfound, hne, hne.symm]
      · simpa [lookup, hx, hfound] using ih

namespace Operation

def isReload : Operation ν → Bool
  | .reload => true
  | _ => false

def isCopy : Operation ν → Bool
  | .copy => true
  | _ => false

end Operation

variable [Host ν]

/-- The entry of the standard set under a name, when the set is included. -/
def standardEntry (includesStandard : Bool) (name : Text) : Option (Entry ν) :=
  if includesStandard then lookup name Standard.entries else none

theorem load_of_loaded {r : Registry ν} (h : r.loaded = true) : r.load = r := by
  rw [load, if_pos h]

@[simp] theorem loaded_load (r : Registry ν) : r.load.loaded = true := by
  rw [load]
  split
  · assumption
  · rfl

@[simp] theorem load_load (r : Registry ν) : r.load.load = r.load := load_of_loaded (loaded_load r)

@[simp] theorem includesStandard_load (r : Registry ν) :
    r.load.includesStandard = r.includesStandard := by
  rw [load]
  split <;> rfl

theorem load_make (includesStandard : Bool) :
    ((make includesStandard).load : Registry ν) =
      ⟨includesStandard, true, if includesStandard then Standard.entries else []⟩ := by
  refine Registry.ext (includesStandard_load _) (loaded_load _) ?_
  cases includesStandard with
  | false => simp [load, make]
  | true =>
    rw [if_pos rfl]
    exact entries_standard

-- Unification must not start computing the standard set.
attribute [local irreducible] load

/-- The warnings of an accepted registration under a name that was held or not. -/
def replacementWarnings (name : Text) (held : Bool) : List Text :=
  if held then ["Replacing registered transformation: ".toList ++ name] else []

/-- An accepted registration puts the entry in, and warns when the name was held. -/
theorem register_of_not_mem (r : Registry ν) {e : Entry ν} (h : ':' ∉ e.name) :
    r.register e = .ok (⟨r.includesStandard, true, put e r.load.entries⟩,
      replacementWarnings e.name (r.get? e.name).isSome) := by
  have hcontains : ¬ e.name.contains ':' = true := by simpa using h
  rw [register, if_neg hcontains, get?, includesStandard_load, loaded_load]
  rfl

theorem register_of_mem (r : Registry ν) {e : Entry ν} (h : ':' ∈ e.name) :
    r.register e = .error (.separatorInName e.name) := by
  have hcontains : e.name.contains ':' = true := by simpa using h
  rw [register, if_pos hcontains]

@[simp] theorem get?_load (r : Registry ν) (name : Text) : r.load.get? name = r.get? name := by
  rw [get?, get?, load_load]

theorem get?_of_loaded {r : Registry ν} (h : r.loaded = true) (name : Text) :
    r.get? name = lookup name r.entries := by
  rw [get?, load_of_loaded h]

theorem get?_make (includesStandard : Bool) (name : Text) :
    ((make includesStandard).get? name : Option (Entry ν)) =
      standardEntry includesStandard name := by
  rw [get?, load_make, standardEntry]
  cases includesStandard <;> rfl

/-! ### One operation -/

theorem perform_register_of_mem (r : Registry ν) {e : Entry ν} (h : ':' ∈ e.name) :
    r.perform (.register e) = (r.load, .refused (.separatorInName e.name)) := by
  rw [perform, register_of_mem r h]

theorem perform_register_of_not_mem (r : Registry ν) {e : Entry ν} (h : ':' ∉ e.name) :
    r.perform (.register e) = (⟨r.includesStandard, true, put e r.load.entries⟩,
      .registered (replacementWarnings e.name (r.get? e.name).isSome)) := by
  rw [perform, register_of_not_mem r h]

theorem perform_reload (r : Registry ν) :
    r.perform .reload = ((make r.includesStandard).load, .done) := rfl

theorem get?_perform_register (r : Registry ν) (e : Entry ν) (name : Text) :
    (r.perform (.register e)).1.get? name =
      if e.name = name ∧ ':' ∉ name then some e else r.get? name := by
  by_cases hsep : ':' ∈ e.name
  · have hnot : ¬ (e.name = name ∧ ':' ∉ name) := fun ⟨heq, hfree⟩ => hfree (heq ▸ hsep)
    rw [perform_register_of_mem r hsep, if_neg hnot, get?_load]
  · have hiff : (e.name = name ∧ ':' ∉ name) ↔ e.name = name :=
      ⟨And.left, fun heq => ⟨heq, heq ▸ hsep⟩⟩
    rw [perform_register_of_not_mem r hsep, get?_of_loaded rfl, lookup_put, get?]
    simp only [hiff]

theorem get?_perform_unregister (r : Registry ν) (removed name : Text) :
    (r.perform (.unregister removed)).1.get? name =
      if removed = name then none else r.get? name := by
  have hloaded : (r.perform (.unregister removed)).1.loaded = true := loaded_load r
  rw [get?_of_loaded hloaded, perform, unregister, lookup_filter_ne, get?]

theorem get?_perform_reload (r : Registry ν) (name : Text) :
    (r.perform .reload).1.get? name = standardEntry r.includesStandard name := by
  rw [perform_reload, get?_load, get?_make]

/-- Only a copy forgets that the standard set was to be included. -/
theorem includesStandard_perform (r : Registry ν) (op : Operation ν) :
    (r.perform op).1.includesStandard = (r.includesStandard && !op.isCopy) := by
  cases op with
  | register e =>
    by_cases hsep : ':' ∈ e.name
    · simp [perform_register_of_mem r hsep, Operation.isCopy]
    · simp [perform_register_of_not_mem r hsep, Operation.isCopy]
  | reload =>
    simp [perform_reload, make, Operation.isCopy]
  | copy => exact (Bool.and_false _).symm
  | load | unregister | get | contains | keys | count | summaries =>
    exact (includesStandard_load r).trans (Bool.and_true _).symm

theorem includesStandard_run (r : Registry ν) (ops : List (Operation ν)) :
    (r.run ops).includesStandard = (r.includesStandard && ops.all fun op => !op.isCopy) := by
  induction ops generalizing r with
  | nil => simp [run]
  | cons op ops ih => rw [run_cons, ih, includesStandard_perform, List.all_cons, Bool.and_assoc]

theorem run_append (r : Registry ν) (ops later : List (Operation ν)) :
    r.run (ops ++ later) = (r.run ops).run later := List.foldl_append

theorem run_singleton (r : Registry ν) (op : Operation ν) : r.run [op] = (r.perform op).1 := rfl

/-! ### Loading entry by entry -/

/-- Registers entries one after the other, and collects the warnings. -/
def registerAll (r : Registry ν) : List (Entry ν) → Except (Failure ν) (Registry ν × List Text)
  | [] => .ok (r, [])
  | e :: es => do
    let (s, warnings) ← r.register e
    let (s, more) ← s.registerAll es
    return (s, warnings ++ more)

/-- Loading by registration. The registry counts as loaded before the first entry is registered,
because every registration loads the registry first. -/
def loadByRegistration (r : Registry ν) : Except (Failure ν) (Registry ν × List Text) :=
  if r.loaded then .ok (r, [])
  else registerAll { r with loaded := true } (if r.includesStandard then Standard.entries else [])

theorem registerAll_of_nodup {r : Registry ν} (hr : r.loaded = true) {es : List (Entry ν)}
    (hsep : ∀ e ∈ es, ':' ∉ e.name) (hnodup : ((r.entries ++ es).map (·.name)).Nodup) :
    r.registerAll es = .ok ({ r with entries := r.entries ++ es }, []) := by
  induction es generalizing r with
  | nil => rw [registerAll, List.append_nil]
  | cons e es ih =>
    have hnew : e.name ∉ r.entries.map (·.name) := by
      rw [List.map_append, List.map_cons, List.nodup_append] at hnodup
      exact fun hm => hnodup.2.2 e.name hm e.name List.mem_cons_self rfl
    have hfree : r.get? e.name = none := by
      rw [get?_of_loaded hr, lookup, List.find?_eq_none]
      intro x hx hname
      rw [decide_eq_true_eq] at hname
      exact hnew (hname ▸ List.mem_map_of_mem hx)
    have hsplit : r.entries ++ e :: es = (r.entries ++ [e]) ++ es := by simp
    have hrest := @ih ⟨r.includesStandard, true, r.entries ++ [e]⟩ rfl
      (fun x hx => hsep x (List.mem_cons_of_mem e hx)) (by rwa [← hsplit])
    rw [registerAll, register_of_not_mem r (hsep e List.mem_cons_self), hfree, load_of_loaded hr,
      put_of_not_mem hnew, hsplit]
    change (registerAll _ es).bind _ = _
    rw [hrest, hr]
    rfl

/-- Loading by registration is loading, and warns of nothing. -/
theorem loadByRegistration_eq {r : Registry ν} (hr : r.loaded = true ∨ r.entries = []) :
    r.loadByRegistration = .ok (r.load, []) := by
  obtain ⟨includesStandard, loaded, entries⟩ := r
  cases loaded with
  | true =>
    rw [loadByRegistration, if_pos rfl, load_of_loaded rfl]
  | false =>
    obtain rfl : entries = [] := hr.resolve_left Bool.false_ne_true
    have hload : (⟨includesStandard, false, []⟩ : Registry ν).load =
        ⟨includesStandard, true, if includesStandard then Standard.entries else []⟩ :=
      load_make includesStandard
    rw [loadByRegistration, if_neg Bool.false_ne_true, hload]
    cases includesStandard with
    | false => rfl
    | true =>
      exact registerAll_of_nodup rfl (fun _ he => separator_not_mem_standard he) nodup_standard

end Harvest.Registry
