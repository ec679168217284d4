import Harvest.Proofs.Traversal
import Harvest.Proofs.Value.Nesting

/-!
# Texts by kind

The kind of a value says how it reads as a text: an array is joined from its items, a node is its
markup. The coercion to text asks first whether a value has items, the kind asks first whether it is
a node. The two differ on a node that is a list of its children, and only there: the coercion takes
it for the list.
-/

namespace Harvest.Value

open Number

variable {ν : Type}

def items (v : Value ν) : List (Value ν) := v.items?.getD []

theorem sizeOf_lt_of_mem_items {v w : Value ν} (hw : w ∈ v.items) : sizeOf w < sizeOf v := by
  have hsize := List.sizeOf_lt_of_mem hw
  cases v with
  | list | tuple | nodeList =>
    simp only [items, items?, Option.getD_some] at hsize
    simp_wf
    omega
  | _ => exact absurd hw List.not_mem_nil

/-- What holds of a value when it holds of its items holds of all values. -/
theorem induction_on_items {motive : Value ν → Prop}
    (step : ∀ v, (∀ w ∈ v.items, motive w) → motive v) (v : Value ν) : motive v :=
  step v fun w _ => induction_on_items step w
termination_by sizeOf v
decreasing_by
  rename_i hw
  exact sizeOf_lt_of_mem_items hw

/-- A value occurs within itself and within the sequences that have it among their items, at any
depth. -/
inductive Within (u : Value ν) : Value ν → Prop
  | self : Within u u
  | item {v w : Value ν} (hw : w ∈ v.items) (h : Within u w) : Within u v

mutual

/-- The value with a list in the place of every node that is a list of its children. -/
def listed : Value ν → Value ν
  | .list items | .nodeList _ items => .list (listedItems items)
  | .tuple items => .tuple (listedItems items)
  | v => v

def listedItems : List (Value ν) → List (Value ν)
  | [] => []
  | v :: vs => listed v :: listedItems vs

end

theorem listedItems_eq_map (vs : List (Value ν)) : listedItems vs = vs.map listed := by
  induction vs with
  | nil => rfl
  | cons v vs ih => rw [listedItems, ih, List.map_cons]

theorem listed_eq_self {v : Value ν} (h : ∀ n items, ¬ Within (.nodeList n items) v) :
    v.listed = v := by
  induction v using induction_on_items with
  | step v ih =>
    have hitems : listedItems v.items = v.items := by
      rw [listedItems_eq_map]
      exact (List.map_congr_left fun w hw => ih w hw fun n ws hin => h n ws (.item hw hin)).trans
        (List.map_id _)
    cases v with
    | list items => exact congrArg Value.list hitems
    | tuple items => exact congrArg Value.tuple hitems
    | nodeList n items => exact absurd .self (h n items)
    | _ => rw [listed] <;> nofun

variable [Host ν]

def numeral : Value ν → Option Text
  | .int n => intText? n
  | .float x => some (floatToText x)
  | _ => none

/-- The text that the kind of a value asks for. An absent item is empty. -/
def textByKind (v : Value ν) : Option Text :=
  match v.kind with
  | .absent => some "null"
  | .boolean => some (if v.truthy then "true" else "false")
  | .number => v.numeral
  | .text => v.plain
  | .array =>
    (v.items.attach.mapM fun w => if w.1.kind = .absent then some [] else textByKind w.1).map
      (Text.join [','])
  | .node | .other => v.written
termination_by sizeOf v
decreasing_by exact sizeOf_lt_of_mem_items w.2

def itemByKind (v : Value ν) : Option Text :=
  if v.kind = .absent then some [] else v.textByKind

theorem textByKind_of_array {v : Value ν} (h : v.kind = .array) :
    v.textByKind = (v.items.mapM itemByKind).map (Text.join [',']) := by
  have hmapM : v.items.attach.mapM (fun w => itemByKind w.1) = v.items.mapM itemByKind := by
    rw [List.mapM_subtype fun _ _ => rfl, List.unattach_attach]
  rw [← hmapM, textByKind, h]
  rfl

theorem textByKind_of_items?_eq_none {v : Value ν} (h : v.items? = none) :
    v.textByKind = v.toText := by
  cases v with
  | list | tuple | nodeList => cases h
  | _ =>
    rw [textByKind]
    rfl

theorem itemByKind_listed {v : Value ν} (h : v.listed.textByKind = v.toText) :
    itemByKind v.listed = v.leafText := by
  by_cases habsent : v = .absent
  · subst habsent
    rfl
  · have hkind : v.listed.kind ≠ .absent := by
      cases v with
      | absent => exact absurd rfl habsent
      | _ => nofun
    rw [itemByKind, if_neg hkind, h, leafText_of_ne_absent habsent]

/-- Coercion to text follows the kinds when every node that is a list of its children is taken for
that list. -/
theorem textByKind_listed (v : Value ν) : v.listed.textByKind = v.toText := by
  induction v using induction_on_items with
  | step v ih =>
    -- each sequence is listed as an array with the same items listed, so kinds do not stop at it
    have hjoined : ∀ u : Value ν, u.kind = .array → u.items = listedItems v.items →
        u.textByKind = joined v.items := by
      intro u hu hitems
      have hmapM : v.items.mapM (itemByKind ∘ listed) = v.items.mapM leafText :=
        mapM_congr fun w hw => itemByKind_listed (ih w hw)
      rw [textByKind_of_array hu, hitems, listedItems_eq_map, List.mapM_map, hmapM, joined,
        itemTexts_eq_mapM]
    cases v with
    | list items | nodeList n items =>
      rw [toText, listed]
      exact hjoined _ rfl rfl
    | tuple items =>
      rw [toText, listed]
      exact hjoined _ rfl rfl
    | _ => exact textByKind_of_items?_eq_none rfl

theorem exists_leafText_of_mem {vs : List (Value ν)} {ps : List Text} {w : Value ν}
    (h : itemTexts vs = some ps) (hw : w ∈ vs) : ∃ p ∈ ps, w.leafText = some p := by
  induction vs generalizing ps with
  | nil => exact absurd hw List.not_mem_nil
  | cons v vs ih =>
    rw [itemTexts_cons, Option.bind_eq_some_iff] at h
    obtain ⟨p, hp, h⟩ := h
    obtain ⟨qs, hqs, rfl⟩ := Option.map_eq_some_iff.1 h
    rcases List.mem_cons.1 hw with rfl | hw
    · exact ⟨p, List.mem_cons_self, hp⟩
    · obtain ⟨q, hq, hwq⟩ := ih hqs hw
      exact ⟨q, List.mem_cons_of_mem p hq, hwq⟩

theorem toText_of_mem_items {v w : Value ν} (hw : w ∈ v.items) : v.toText = joined v.items := by
  cases v with
  | list | tuple | nodeList => exact toText_of_items?_eq_some rfl
  | _ => exact absurd hw List.not_mem_nil

/-- A node at any depth shows its markup in the text of the whole. -/
theorem Within.markup_infix {v : Value ν} {n : ν} {t : Text} (h : Within (.node n) v)
    (ht : v.toText = some t) : Host.markup n <:+: t := by
  induction h generalizing t with
  | self =>
    cases ht
    exact List.infix_rfl
  | @item v w hw hin ih =>
    have hpresent : w ≠ .absent := by
      rintro rfl
      cases hin with
      | item hu _ => exact absurd hu List.not_mem_nil
    rw [toText_of_mem_items hw, joined] at ht
    obtain ⟨ps, hps, rfl⟩ := Option.map_eq_some_iff.1 ht
    obtain ⟨p, hp, hwp⟩ := exists_leafText_of_mem hps hw
    rw [leafText_of_ne_absent hpresent] at hwp
    exact (ih hwp).trans (Text.infix_join hp [','])

/-- Every value has the text that its kind asks for, but for nodes that are lists of their children:
these are nodes by kind, and read as the lists. -/
theorem toText_by_kind (v : Value ν) :
    v.toText = v.listed.textByKind ∧
      ((∀ n items, ¬ Within (.nodeList n items) v) → v.toText = v.textByKind) ∧
      (∀ n t, Within (.node n) v → v.toText = some t → Host.markup n <:+: t) ∧
      ∀ (n : ν) (items : List (Value ν)), (Value.nodeList n items).kind = .node ∧
        (Value.nodeList n items).toText = (Value.list items).toText := by
  refine ⟨(textByKind_listed v).symm, fun h => ?_, fun n t => Within.markup_infix,
    fun n items => ⟨rfl, ?_⟩⟩
  · rw [← textByKind_listed, listed_eq_self h]
  · rw [toText, toText]

/-- Nodes of which only a label is known. -/
structure Labelled where
  label : Text

instance : Host Labelled :=
  ⟨fun n => '<' :: n.label ++ ['>'], fun _ => "Labelled", fun _ => .keyed, .empty⟩

/-- Nodes in a list and in a tuple within it. -/
theorem textByKind_of_inner_nodes :
    (Value.list [.node ⟨"a"⟩, .tuple [.absent, .node ⟨"b"⟩]] : Value Labelled).textByKind =
      some "<a>,,<b>".toList := by
  have hleaf : ∀ {n items} {u : Value Labelled}, u.items = [] → Within (.nodeList n items) u →
      u = .nodeList n items := by
    rintro n items u hu (_ | ⟨hw, -⟩)
    · rfl
    · rw [hu] at hw
      exact absurd hw List.not_mem_nil
  have hnone : ∀ n items, ¬ Within (.nodeList n items)
      (Value.list [.node ⟨"a"⟩, .tuple [.absent, .node ⟨"b"⟩]] : Value Labelled) := by
    rintro n items (_ | ⟨hw, h⟩)
    rcases List.mem_pair.1 hw with rfl | rfl
    · cases hleaf rfl h
    · rcases h with _ | ⟨hw, h⟩
      rcases List.mem_pair.1 hw with rfl | rfl
      · cases hleaf rfl h
      · cases hleaf rfl h
  exact ((toText_by_kind _).2.1 hnone).symm.trans rfl

/-- A node that is a list of its children does not read as its markup. -/
theorem toText_of_list_node :
    ¬ ∀ v : Value Labelled, v.kind = .node → v.toText = v.written := by
  intro h
  have hmarkup := h (.nodeList ⟨"L"⟩ [.text "k1".toList, .node ⟨"k2"⟩]) rfl
  revert hmarkup
  decide

end Harvest.Value
