import Harvest.Page
import Harvest.Proofs.Text.Splitting
import Harvest.Proofs.Value.Overlong
import Harvest.Registry.Standard

/-!
# Nested sequences coerced to text

A sequence is joined by commas whatever its items are, so the commas of an inner sequence stand
beside those of the outer one. When no sequence in it is empty, the text of a value is made of its
leaves alone: how these are nested leaves no trace.
-/

namespace Harvest.Value

variable {ν : Type}

/-- The items of a sequence; a node that is a list of its children is one. -/
def items? : Value ν → Option (List (Value ν))
  | .list items | .tuple items | .nodeList _ items => some items
  | _ => none

mutual

/-- What stands in a value when all its sequences are opened, from left to right. -/
def leaves : Value ν → List (Value ν)
  | .list items | .tuple items | .nodeList _ items => itemLeaves items
  | v => [v]

def itemLeaves : List (Value ν) → List (Value ν)
  | [] => []
  | v :: vs => leaves v ++ itemLeaves vs

end

/-- Values without an empty sequence at any depth. -/
inductive Filled : Value ν → Prop
  | leaf {v : Value ν} (h : v.items? = none) : Filled v
  | sequence {v : Value ν} {items : List (Value ν)} (h : v.items? = some items)
    (hne : items ≠ []) (hitems : ∀ w ∈ items, Filled w) : Filled v

theorem leaves_of_items?_eq_none {v : Value ν} (h : v.items? = none) : v.leaves = [v] := by
  cases v with
  | list | tuple | nodeList => cases h
  | _ => rw [leaves] <;> nofun

theorem leaves_of_items?_eq_some {v : Value ν} {items : List (Value ν)}
    (h : v.items? = some items) : v.leaves = itemLeaves items := by
  cases v with
  | list | tuple | nodeList =>
    cases h
    rw [leaves]
  | _ => cases h

theorem itemLeaves_eq_flatMap (vs : List (Value ν)) : itemLeaves vs = vs.flatMap leaves := by
  induction vs with
  | nil => rfl
  | cons v vs ih => rw [itemLeaves, ih, List.flatMap_cons]

theorem Filled.leaves_ne_nil {v : Value ν} (hv : Filled v) : v.leaves ≠ [] := by
  induction hv with
  | leaf h =>
    rw [leaves_of_items?_eq_none h]
    exact List.cons_ne_nil _ _
  | sequence h hne _ ih =>
    obtain ⟨w, items, rfl⟩ := List.exists_cons_of_ne_nil hne
    rw [leaves_of_items?_eq_some h, itemLeaves]
    exact List.append_ne_nil_of_left_ne_nil (ih w List.mem_cons_self) _

theorem Filled.items?_of_mem_leaves {v w : Value ν} (hv : Filled v) (hw : w ∈ v.leaves) :
    w.items? = none := by
  induction hv with
  | leaf h =>
    rw [leaves_of_items?_eq_none h, List.mem_singleton] at hw
    rwa [hw]
  | sequence h _ _ ih =>
    rw [leaves_of_items?_eq_some h, itemLeaves_eq_flatMap, List.mem_flatMap] at hw
    obtain ⟨u, hu, hw⟩ := hw
    exact ih u hu hw

variable [Host ν]

/-- A leaf's part of the text: an absent leaf is empty. -/
def leafText : Value ν → Option Text
  | .absent => some []
  | v => v.toText

theorem leafText_of_ne_absent {v : Value ν} (h : v ≠ .absent) : v.leafText = v.toText := by
  rw [leafText]
  exact h

theorem itemTexts_cons (v : Value ν) (vs : List (Value ν)) :
    itemTexts (v :: vs) = v.leafText.bind fun p => (itemTexts vs).map (p :: ·) := by
  by_cases habsent : v = .absent
  · subst habsent
    rfl
  · rw [leafText_of_ne_absent habsent, itemTexts]
    exact habsent

theorem itemTexts_eq_mapM (vs : List (Value ν)) : itemTexts vs = vs.mapM leafText := by
  induction vs with
  | nil => rfl
  | cons v vs ih =>
    rw [itemTexts_cons, ih, List.mapM_cons]
    cases v.leafText with
    | none => rfl
    | some p => cases vs.mapM leafText <;> rfl

theorem itemTexts_append (vs ws : List (Value ν)) :
    itemTexts (vs ++ ws) =
      (itemTexts vs).bind fun ps => (itemTexts ws).map fun qs => ps ++ qs := by
  rw [itemTexts_eq_mapM, List.mapM_append, ← itemTexts_eq_mapM, ← itemTexts_eq_mapM]
  cases itemTexts vs with
  | none => rfl
  | some ps => cases itemTexts ws <;> rfl

theorem length_of_itemTexts {vs : List (Value ν)} {ps : List Text} (h : itemTexts vs = some ps) :
    ps.length = vs.length := by
  induction vs generalizing ps with
  | nil =>
    cases h
    rfl
  | cons v vs ih =>
    rw [itemTexts_cons, Option.bind_eq_some_iff] at h
    obtain ⟨p, -, h⟩ := h
    obtain ⟨qs, hqs, rfl⟩ := Option.map_eq_some_iff.1 h
    rw [List.length_cons, List.length_cons, ih hqs]

/-- The texts of the items with commas between them. -/
def joined (vs : List (Value ν)) : Option Text := (itemTexts vs).map (Text.join [','])

theorem toText_of_items?_eq_some {v : Value ν} {items : List (Value ν)}
    (h : v.items? = some items) : v.toText = joined items := by
  cases v with
  | list | tuple | nodeList =>
    cases h
    rw [toText, joined]
  | _ => cases h

/-- Two lists of items side by side: their texts are joined with one comma between them. -/
theorem joined_append {vs ws : List (Value ν)} (hv : vs ≠ []) (hw : ws ≠ []) :
    joined (vs ++ ws) = (joined vs).bind fun p => (joined ws).map fun q => p ++ ([','] ++ q) := by
  rw [joined, joined, joined, itemTexts_append]
  cases hps : itemTexts vs with
  | none => rfl
  | some ps =>
    cases hqs : itemTexts ws with
    | none => rfl
    | some qs =>
      have hp : ps ≠ [] := List.ne_nil_of_length_pos
        (length_of_itemTexts hps ▸ List.length_pos_iff.2 hv)
      have hq : qs ≠ [] := List.ne_nil_of_length_pos
        (length_of_itemTexts hqs ▸ List.length_pos_iff.2 hw)
      exact congrArg some (Text.join_append hp hq [','])

theorem joined_singleton (v : Value ν) : joined [v] = v.leafText := by
  rw [joined, itemTexts_cons, itemTexts]
  cases v.leafText with
  | none => rfl
  | some p => exact congrArg some List.intercalate_singleton

/-- Opening the items of a sequence does not change its text when each item has the text of its
leaves. -/
theorem joined_itemLeaves {vs : List (Value ν)} (hne : vs ≠ [])
    (hleaves : ∀ v ∈ vs, v.leaves ≠ [])
    (htext : ∀ v ∈ vs, v.leafText = joined v.leaves) : joined vs = joined (itemLeaves vs) := by
  induction vs with
  | nil => exact absurd rfl hne
  | cons v vs ih =>
    rw [List.forall_mem_cons] at hleaves htext
    -- the last item has no comma behind it, so it is not the rest of another one
    by_cases hvs : vs = []
    · rw [hvs, joined_singleton, itemLeaves, itemLeaves, List.append_nil]
      exact htext.1
    · have hrest : itemLeaves vs ≠ [] := by
        obtain ⟨w, ws, rfl⟩ := List.exists_cons_of_ne_nil hvs
        exact List.append_ne_nil_of_left_ne_nil (hleaves.2 w List.mem_cons_self) _
      calc joined (v :: vs)
          = v.leafText.bind fun p => (joined vs).map fun q => p ++ ([','] ++ q) := by
            rw [← joined_singleton, ← joined_append (List.cons_ne_nil v []) hvs,
              List.singleton_append]
        _ = (joined v.leaves).bind fun p =>
              (joined (itemLeaves vs)).map fun q => p ++ ([','] ++ q) := by
            rw [htext.1, ih hvs hleaves.2 htext.2]
        _ = joined (itemLeaves (v :: vs)) := by
            rw [itemLeaves, joined_append hleaves.1 hrest]

theorem Filled.leafText_eq {v : Value ν} (hv : Filled v) : v.leafText = joined v.leaves := by
  induction hv with
  | leaf h => rw [leaves_of_items?_eq_none h, joined_singleton]
  | @sequence v items h hne hitems ih =>
    have hpresent : v ≠ .absent := by
      rintro rfl
      cases h
    rw [leafText_of_ne_absent hpresent, toText_of_items?_eq_some h, leaves_of_items?_eq_some h]
    exact joined_itemLeaves hne (fun w hw => (hitems w hw).leaves_ne_nil) ih

theorem exists_mapM_leafText {vs : List (Value ν)} (h : ∀ v ∈ vs, ¬ OverlongText v) :
    ∃ ts, vs.mapM leafText = some ts := by
  rw [← itemTexts_eq_mapM, ← Option.ne_none_iff_exists']
  intro hnone
  obtain ⟨v, hv, hnone⟩ := itemTexts_eq_none_iff.1 hnone
  exact h v hv ((toText_eq_none_iff v).1 hnone)

theorem Filled.toText_eq {v : Value ν} (hv : Filled v) (hpresent : v ≠ .absent) :
    v.toText = (v.leaves.mapM leafText).map (Text.join [',']) := by
  rw [← leafText_of_ne_absent hpresent, hv.leafText_eq, joined, itemTexts_eq_mapM]

/-- The text of a value without empty sequences is made of the texts of its leaves, with one comma
between each two of them; it exists when no leaf shows an integer beyond the digit limit. So two
values with the same leaves have the same text. Only an absent value that is no item at all has a
text of its own. -/
theorem toText_by_leaves {v : Value ν} (hv : Filled v) (hpresent : v ≠ .absent) :
    v.leaves ≠ [] ∧ (∀ w ∈ v.leaves, w.items? = none) ∧
      v.toText = (v.leaves.mapM leafText).map (Text.join [',']) ∧
      ((∀ w ∈ v.leaves, ¬ OverlongText w) → ∃ ts, v.leaves.mapM leafText = some ts ∧
        v.toText = some (Text.join [','] ts) ∧
        Standard.toString v = .of (.ok (.text (Text.join [','] ts)))) ∧
      ∀ w : Value ν, Filled w → w ≠ .absent → w.leaves = v.leaves →
        w.toText = v.toText ∧ Standard.toString w = Standard.toString v := by
  refine ⟨hv.leaves_ne_nil, fun w => hv.items?_of_mem_leaves, hv.toText_eq hpresent,
    fun hleaves => ?_, fun w hw hwpresent hsame => ?_⟩
  · obtain ⟨ts, hts⟩ := exists_mapM_leafText hleaves
    have htext : v.toText = some (Text.join [','] ts) := by
      rw [hv.toText_eq hpresent, hts]
      rfl
    refine ⟨ts, hts, htext, ?_⟩
    rw [Standard.toString, htext]
    rfl
  · have htext : w.toText = v.toText := by
      rw [hw.toText_eq hwpresent, hsame, ← hv.toText_eq hpresent]
    exact ⟨htext, by rw [Standard.toString, htext, Standard.toString]⟩

/-- Two nestings of an integer, a text, an absent value and a boolean. -/
theorem toString_of_two_nestings :
    Standard.toString
        (.list [.int 1, .tuple [.text "a".toList, .absent], .list [.list [.bool true]]] :
          Value Markup.Cursor) = .of (.ok (.text "1,a,,true".toList)) ∧
      Standard.toString
        (.tuple [.list [.tuple [.int 1, .text "a".toList], .absent], .bool true] :
          Value Markup.Cursor) = .of (.ok (.text "1,a,,true".toList)) := by
  have hpair : ∀ v w : Value Markup.Cursor, Filled v → Filled w → ∀ u ∈ [v, w], Filled u :=
    fun v w hv hw => List.forall_mem_cons.2 ⟨hv, List.forall_mem_singleton.2 hw⟩
  have hright : Filled (.list [.int 1, .tuple [.text "a".toList, .absent],
      .list [.list [.bool true]]] : Value Markup.Cursor) := by
    refine .sequence rfl (List.cons_ne_nil _ _)
      (List.forall_mem_cons.2 ⟨.leaf rfl, hpair _ _ ?_ ?_⟩)
    · exact .sequence rfl (List.cons_ne_nil _ _) (hpair _ _ (.leaf rfl) (.leaf rfl))
    · exact .sequence rfl (List.cons_ne_nil _ _) (List.forall_mem_singleton.2
        (.sequence rfl (List.cons_ne_nil _ _) (List.forall_mem_singleton.2 (.leaf rfl))))
  have hleft : Filled (.tuple [.list [.tuple [.int 1, .text "a".toList], .absent],
      .bool true] : Value Markup.Cursor) := by
    refine .sequence rfl (List.cons_ne_nil _ _) (hpair _ _ (.sequence rfl (List.cons_ne_nil _ _)
      (hpair _ _ ?_ (.leaf rfl))) (.leaf rfl))
    exact .sequence rfl (List.cons_ne_nil _ _) (hpair _ _ (.leaf rfl) (.leaf rfl))
  obtain ⟨-, -, htext, -, hsame⟩ := toText_by_leaves hright nofun
  have hwritten : Standard.toString (.list [.int 1, .tuple [.text "a".toList, .absent],
      .list [.list [.bool true]]] : Value Markup.Cursor) =
        .of (.ok (.text "1,a,,true".toList)) := by
    rw [Standard.toString, htext]
    rfl
  exact ⟨hwritten, (hsame _ hleft nofun rfl).2.trans hwritten⟩

end Harvest.Value
