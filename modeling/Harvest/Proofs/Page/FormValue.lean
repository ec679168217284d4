import Harvest.Page
import Harvest.Proofs.Chain.Staging
import Harvest.Proofs.Descriptor.Compound

/-!
# Form values of trees

The value of a form control is found by recursion on the tree alone: a list of options has that of
the first marked option below it in the order of the text, else that of the first option, and both
searches go through the tree once, branch by branch. Reading the value with selectors yields the
same and always ends, because an option is never a list of options itself.
-/

namespace Harvest

namespace Markup

/-! ### The first branch in the order of the text -/

mutual

/-- The first branch in a node, itself included, whose label has the property. -/
def Node.search? (p : Label → Bool) : Node → Option Node
  | .text _ _ => none
  | .branch label children =>
    if p label then some (.branch label children) else searchAll? p children

def searchAll? (p : Label → Bool) : List Node → Option Node
  | [] => none
  | n :: ns => (n.search? p).or (searchAll? p ns)

end

namespace Cursor

variable (p : Label → Bool)

mutual

theorem find?_within (path : List Crumb) (n : Node) :
    ((within path n).find? fun c => p c.label).map Cursor.node = n.search? p := by
  cases n with
  | text kind t => rfl
  | branch label children =>
    rw [within, List.find?_cons, Node.search?]
    cases p label with
    | true => rfl
    | false => exact find?_below label path [] children

theorem find?_below (label : Label) (path : List Crumb) (before ns : List Node) :
    ((below label path before ns).find? fun c => p c.label).map Cursor.node = searchAll? p ns := by
  cases ns with
  | nil => rfl
  | cons n behind =>
    rw [below, List.find?_append, Option.map_or, searchAll?,
      find?_within (⟨label, before, behind⟩ :: path) n, find?_below label path (n :: before) behind]

end

/-- What is found first below a place depends on the tree below it only. -/
theorem find?_descendants (c : Cursor) :
    (c.descendants.find? fun d => p d.label).map Cursor.node = searchAll? p c.children :=
  find?_below p c.label c.path [] c.children

end Cursor

/-! ### Form values by recursion on the tree -/

namespace Label

def isNamed (name : Text) (l : Label) : Bool := l.name? = some name

/-- An option with an attribute that marks it as selected. -/
def isMarkedOption (l : Label) : Bool :=
  l.isNamed "option" && l.attributes.any fun a => Text.lowerAscii a.name = "selected"

end Label

/-- The value of an option: its attribute, an empty one included, or else its text. -/
def Node.optionValue : Node → Text
  | .text _ _ => []
  | .branch label children => (label.valueOf? "value").getD (gatherAll none children)

def Node.formValue : Node → Option Text
  | .text _ _ => none
  | .branch label children =>
    if label.isNamed "input" then some ((label.valueOf? "value").getD [])
    else if label.isNamed "textarea" then some (gatherAll none children)
    else if label.isNamed "option" then some (Node.branch label children).optionValue
    else if label.isNamed "select" then
      match searchAll? Label.isMarkedOption children with
      | some marked => some marked.optionValue
      | none =>
        match searchAll? (·.isNamed "option") children with
        | some first => some first.optionValue
        | none => some []
    else none

end Markup

namespace Page

open Markup Selector

theorem readSelector_selectedOption : readSelector "option[selected]" = .ok selectedOption := by
  with_unfolding_all rfl

theorem readSelector_anyOption : readSelector "option" = .ok anyOption := by
  with_unfolding_all rfl

/-! ### What the searches find -/

theorem someHolds_anyOption (c : Cursor) : someHolds anyOption c = c.label.isNamed "option" := by
  have hname : Text.lowerAscii "option" = "option".toList := rfl
  simp only [anyOption, someHolds, Member.holds, allHold, Simple.holds, hname, Bool.and_true,
    Bool.or_false, Label.isNamed]

theorem someHolds_selectedOption (c : Cursor) :
    someHolds selectedOption c = c.label.isMarkedOption := by
  have hname : Text.lowerAscii "option" = "option".toList := rfl
  have hselected : Text.lowerAscii "selected" = "selected".toList := rfl
  have hfind : ∀ (q : Attribute → Bool) (xs : List Attribute), (xs.find? q).isSome = xs.any q := by
    intro q xs
    rw [Bool.eq_iff_iff, List.find?_isSome, List.any_eq_true]
  simp only [selectedOption, someHolds, Member.holds, allHold, Simple.holds, hname, Bool.and_true,
    Bool.or_false, attributeValue?, hselected, Option.all_none, Option.any_true, Option.isSome_map,
    hfind, Label.isMarkedOption, Label.isNamed]

theorem node_firstBelow?_anyOption (c : Cursor) :
    (firstBelow? anyOption c).map Cursor.node = searchAll? (·.isNamed "option") c.children := by
  rw [firstBelow?, funext someHolds_anyOption]
  exact c.find?_descendants (·.isNamed "option")

theorem node_firstBelow?_selectedOption (c : Cursor) :
    (firstBelow? selectedOption c).map Cursor.node =
      searchAll? Label.isMarkedOption c.children := by
  rw [firstBelow?, funext someHolds_selectedOption]
  exact c.find?_descendants Label.isMarkedOption

variable {c o : Cursor}

theorem isNamed_of_firstBelow?_anyOption (h : firstBelow? anyOption c = some o) :
    o.label.isNamed "option" = true := by
  rw [← someHolds_anyOption]
  exact List.find?_some h

theorem isNamed_of_firstBelow?_selectedOption (h : firstBelow? selectedOption c = some o) :
    o.label.isNamed "option" = true := by
  have hmarked : o.label.isMarkedOption = true := by
    rw [← someHolds_selectedOption]
    exact List.find?_some h
  exact (Bool.and_eq_true_iff.1 hmarked).1

/-! ### The value of a place -/

theorem name?_of_isNamed {l : Label} {name : Text} (h : l.isNamed name = true) :
    l.name? = some name := of_decide_eq_true h

/-- A label has one name at most. -/
theorem isNamed_eq {l : Label} {name : Text} (h : l.isNamed name = true) (other : Text) :
    l.isNamed other = decide (name = other) := by
  simp only [Label.isNamed, name?_of_isNamed h, Option.some.injEq]

/-- Elements without a kind of text of their own have running text as their content. -/
theorem innerText_of_isNamed {name : Text} (h : c.label.isNamed name = true)
    (hkind : textKind? name = none) : c.innerText = gatherAll none c.children := by
  rw [Cursor.innerText, Cursor.node, Node.gather, Label.contentKind?, name?_of_isNamed h,
    Option.bind_some, hkind]

theorem optionValue_eq (h : c.label.isNamed "option" = true) :
    optionValue c = c.node.optionValue := by
  rw [optionValue, innerText_of_isNamed h rfl, Cursor.node, Node.optionValue]

theorem formValue_of_input (h : c.label.isNamed "input" = true) :
    formValue c = some ((c.label.valueOf? "value").getD []) := by
  rw [formValue, name?_of_isNamed h]
  rfl

theorem formValue_of_textarea (h : c.label.isNamed "textarea" = true) :
    formValue c = some c.innerText := by
  rw [formValue, name?_of_isNamed h]
  rfl

theorem formValue_of_option (h : c.label.isNamed "option" = true) :
    formValue c = some (optionValue c) := by
  rw [formValue, name?_of_isNamed h]
  rfl

theorem formValue_of_select (h : c.label.isNamed "select" = true) :
    formValue c = some (selectValue c) := by
  rw [formValue, name?_of_isNamed h]
  rfl

/-- The names of the elements that have a value. -/
def controls : List Text := ["input", "textarea", "option", "select"]

theorem formValue_of_not_controls (h : ∀ name ∈ controls, c.label.isNamed name = false) :
    formValue c = none := by
  have hname : ∀ s : String, s.toList ∈ controls → c.label.name?.map String.ofList ≠ some s := by
    intro s hs hmap
    obtain ⟨name, hname, rfl⟩ := Option.map_eq_some_iff.1 hmap
    rw [String.toList_ofList] at hs
    have hnamed := h name hs
    rw [Label.isNamed, hname, decide_eq_false_iff_not] at hnamed
    exact hnamed rfl
  unfold formValue
  split
  · rename_i hmap
    exact absurd hmap (hname _ (by decide))
  · rename_i hmap
    exact absurd hmap (hname _ (by decide))
  · rename_i hmap
    exact absurd hmap (hname _ (by decide))
  · rename_i hmap
    exact absurd hmap (hname _ (by decide))
  · rfl

theorem control_cases (l : Label) :
    l.isNamed "input" = true ∨ l.isNamed "textarea" = true ∨ l.isNamed "option" = true ∨
      l.isNamed "select" = true ∨ ∀ name ∈ controls, l.isNamed name = false := by
  by_cases h : ∃ name ∈ controls, l.isNamed name = true
  · obtain ⟨name, hmem, hname⟩ := h
    simp only [controls, List.mem_cons, List.not_mem_nil, or_false] at hmem
    rcases hmem with rfl | rfl | rfl | rfl
    · exact .inl hname
    · exact .inr (.inl hname)
    · exact .inr (.inr (.inl hname))
    · exact .inr (.inr (.inr (.inl hname)))
  · refine .inr (.inr (.inr (.inr fun name hmem => ?_)))
    rw [← Bool.not_eq_true]
    exact fun hname => h ⟨name, hmem, hname⟩

theorem selectValue_eq (c : Cursor) : some (selectValue c) =
    match searchAll? Label.isMarkedOption c.children with
    | some marked => some marked.optionValue
    | none =>
      match searchAll? (·.isNamed "option") c.children with
      | some first => some first.optionValue
      | none => some [] := by
  rw [← node_firstBelow?_selectedOption, ← node_firstBelow?_anyOption, selectValue]
  cases hmarked : firstBelow? selectedOption c with
  | some o => exact congrArg some (optionValue_eq (isNamed_of_firstBelow?_selectedOption hmarked))
  | none =>
    cases hfirst : firstBelow? anyOption c with
    | some o => exact congrArg some (optionValue_eq (isNamed_of_firstBelow?_anyOption hfirst))
    | none => rfl

/-- Selectors and the tree alone give the same value. -/
theorem formValue_eq (c : Cursor) : formValue c = c.node.formValue := by
  rw [Cursor.node, Node.formValue]
  rcases control_cases c.label with h | h | h | h | h
  · rw [formValue_of_input h, if_pos h]
  · rw [formValue_of_textarea h, innerText_of_isNamed h rfl]
    simp [isNamed_eq h]
  · rw [formValue_of_option h, optionValue_eq h]
    simp [isNamed_eq h, Cursor.node]
  · rw [formValue_of_select h, selectValue_eq]
    simp [isNamed_eq h]
  · rw [formValue_of_not_controls h]
    simp only [controls, List.forall_mem_cons] at h
    obtain ⟨hinput, htextarea, hoption, hselect, -⟩ := h
    rw [hinput, htextarea, hoption, hselect]
    rfl

/-! ### Reading a value with selectors -/

/-- Reading a value call by call: a list of options has the value that is read from the option it
finds. -/
inductive ReadsTo : Cursor → Option Text → Prop
  | input {c : Cursor} (h : c.label.isNamed "input" = true) :
    ReadsTo c (some ((c.label.valueOf? "value").getD []))
  | textarea {c : Cursor} (h : c.label.isNamed "textarea" = true) : ReadsTo c (some c.innerText)
  | option {c : Cursor} (h : c.label.isNamed "option" = true) :
    ReadsTo c (some ((c.label.valueOf? "value").getD c.innerText))
  | marked {c o : Cursor} {v : Option Text} (h : c.label.isNamed "select" = true)
    (hmarked : document.findOne c "option[selected]" = .ok (.node o)) (hv : ReadsTo o v) :
    ReadsTo c v
  | first {c o : Cursor} {v : Option Text} (h : c.label.isNamed "select" = true)
    (hmarked : document.findOne c "option[selected]" = .ok .absent)
    (hfirst : document.findOne c "option" = .ok (.node o)) (hv : ReadsTo o v) : ReadsTo c v
  | empty {c : Cursor} (h : c.label.isNamed "select" = true)
    (hmarked : document.findOne c "option[selected]" = .ok .absent)
    (hfirst : document.findOne c "option" = .ok .absent) : ReadsTo c (some [])
  | other {c : Cursor} (h : ∀ name ∈ controls, c.label.isNamed name = false) : ReadsTo c none

theorem findOne_of_readSelector {selector : Text} {alternatives : List Member}
    (h : readSelector selector = .ok alternatives) (c : Cursor) :
    document.findOne c selector = .ok ((firstBelow? alternatives c).elim .absent .node) := by
  change (readSelector selector).map _ = _
  rw [h]
  cases hfound : firstBelow? alternatives c with
  | none => simp only [Except.map, hfound, Option.elim_none]
  | some o => simp only [Except.map, hfound, Option.elim_some]

/-- A search yields an absent value or the first match. -/
theorem findOne_eq_ok_node_iff {selector : Text} {alternatives : List Member}
    (h : readSelector selector = .ok alternatives) :
    document.findOne c selector = .ok (.node o) ↔ firstBelow? alternatives c = some o := by
  rw [findOne_of_readSelector h]
  cases firstBelow? alternatives c <;> simp

theorem findOne_eq_ok_absent_iff {selector : Text} {alternatives : List Member}
    (h : readSelector selector = .ok alternatives) :
    document.findOne c selector = .ok .absent ↔ firstBelow? alternatives c = none := by
  rw [findOne_of_readSelector h]
  cases firstBelow? alternatives c <;> simp

theorem readsTo_formValue (c : Cursor) : ReadsTo c (formValue c) := by
  rcases control_cases c.label with h | h | h | h | h
  · rw [formValue_of_input h]
    exact .input h
  · rw [formValue_of_textarea h]
    exact .textarea h
  · rw [formValue_of_option h]
    exact .option h
  · rw [formValue_of_select h, selectValue]
    cases hmarked : firstBelow? selectedOption c with
    | some o =>
      exact .marked h ((findOne_eq_ok_node_iff readSelector_selectedOption).2 hmarked)
        (.option (isNamed_of_firstBelow?_selectedOption hmarked))
    | none =>
      have hnone := (findOne_eq_ok_absent_iff readSelector_selectedOption).2 hmarked
      cases hfirst : firstBelow? anyOption c with
      | some o =>
        exact .first h hnone ((findOne_eq_ok_node_iff readSelector_anyOption).2 hfirst)
          (.option (isNamed_of_firstBelow?_anyOption hfirst))
      | none => exact .empty h hnone ((findOne_eq_ok_absent_iff readSelector_anyOption).2 hfirst)
  · rw [formValue_of_not_controls h]
    exact .other h

theorem eq_formValue_of_readsTo {v : Option Text} (h : ReadsTo c v) : v = formValue c := by
  induction h with
  | input h => exact (formValue_of_input h).symm
  | textarea h => exact (formValue_of_textarea h).symm
  | option h => exact (formValue_of_option h).symm
  | marked h hmarked _ ih =>
    rw [findOne_eq_ok_node_iff readSelector_selectedOption] at hmarked
    have hoption := isNamed_of_firstBelow?_selectedOption hmarked
    rw [ih, formValue_of_option hoption, formValue_of_select h, selectValue, hmarked]
    rfl
  | first h hmarked hfirst _ ih =>
    rw [findOne_eq_ok_absent_iff readSelector_selectedOption] at hmarked
    rw [findOne_eq_ok_node_iff readSelector_anyOption] at hfirst
    have hoption := isNamed_of_firstBelow?_anyOption hfirst
    rw [ih, formValue_of_option hoption, formValue_of_select h, selectValue, hmarked, hfirst]
    rfl
  | empty h hmarked hfirst =>
    rw [findOne_eq_ok_absent_iff readSelector_selectedOption] at hmarked
    rw [findOne_eq_ok_absent_iff readSelector_anyOption] at hfirst
    rw [formValue_of_select h, selectValue, hmarked, hfirst]
    rfl
  | other h => exact (formValue_of_not_controls h).symm

theorem readsTo_iff {v : Option Text} : ReadsTo c v ↔ v = formValue c :=
  ⟨eq_formValue_of_readsTo, fun h => h ▸ readsTo_formValue c⟩

theorem formValue_eq_none_iff (c : Cursor) :
    formValue c = none ↔ ∀ name ∈ controls, c.label.isNamed name = false := by
  refine ⟨fun hnone => ?_, formValue_of_not_controls⟩
  rcases control_cases c.label with h | h | h | h | h
  · exact absurd ((formValue_of_input h).symm.trans hnone) (Option.some_ne_none _)
  · exact absurd ((formValue_of_textarea h).symm.trans hnone) (Option.some_ne_none _)
  · exact absurd ((formValue_of_option h).symm.trans hnone) (Option.some_ne_none _)
  · exact absurd ((formValue_of_select h).symm.trans hnone) (Option.some_ne_none _)
  · exact h

/-- The value of every place of a page is the one that the tree below it gives by recursion. Reading
it with selectors ends on every tree, with this value and no other. There is none exactly for what
is named neither as a control nor as an option, the document itself among them. A chain that asks
for the value yields it. -/
theorem formValue_by_recursion (c : Cursor) :
    formValue c = c.node.formValue ∧
      (∀ v, ReadsTo c v ↔ v = c.node.formValue) ∧
      (c.node.formValue = none ↔ ∀ name ∈ controls, c.label.name? ≠ some name) ∧
      ∃ chain, Chain.resolve (["value".toList].map .text) .standard document = .ok chain ∧
        chain.run (.node c) = pure (.ofText? c.node.formValue) := by
  have hunnamed : (∀ name ∈ controls, c.label.isNamed name = false) ↔
      ∀ name ∈ controls, c.label.name? ≠ some name := by
    simp only [Label.isNamed, decide_eq_false_iff_not, Ne]
  rw [← formValue_eq]
  have hresolve : Chain.resolve (["value".toList].map .text) .standard document =
      .ok ⟨[(.byName "value".toList, guarded (.only .node) (Standard.formValue document))]⟩ :=
    Chain.resolve_eq_ok_iff.2 (.cons (Chain.resolveElement_standard 4 rfl document) .nil)
  refine ⟨rfl, fun v => readsTo_iff, (formValue_eq_none_iff c).trans hunnamed, _, hresolve, ?_⟩
  rw [Chain.run_singleton]
  rfl

/-- A marked option is found in a group, behind one that is not marked. -/
example : (Node.branch (.element "select" []) [
    .branch (.element "option" [⟨"value", "a"⟩]) [],
    .branch (.element "optgroup" []) [
      .branch (.element "option" [⟨"selected", []⟩]) [.text .plain "b"]]]).formValue =
    some "b".toList := rfl

end Page

end Harvest
