import Harvest.Proofs.Text.Pieces
import Harvest.Proofs.Text.Splitting
import Harvest.Signature
import Mathlib.Data.List.Induction

/-!
# Folding pieces back into arguments

The pieces of a text are texts, so that folding them never fails. Pieces of the first argument that
are too many are joined again, and empty pieces at the end are dropped down to the argument that is
not empty or that is required. So there are never more arguments than parameters, and nothing of the
text is lost but colons at its end.
-/

namespace Harvest.Signature

variable {ν : Type}

theorem map_text_injective : Function.Injective (List.map (Value.text : Text → Value ν)) :=
  List.map_injective_iff.2 fun _ _ => Value.text.inj

theorem any_truthy_map_text (ts : List Text) :
    (ts.map (Value.text : Text → Value ν)).any Value.truthy = true ↔ ∃ t ∈ ts, t ≠ [] := by
  simp [Value.truthy]

variable [Host ν]

theorem textsFrom_map_text (i : Nat) (ts : List Text) :
    textsFrom i (ts.map (Value.text : Text → Value ν)) = .ok ts := by
  induction ts generalizing i with
  | nil => rfl
  | cons t ts ih =>
    rw [List.map_cons, textsFrom, ih]
    rfl

theorem joinColons_map_text (ts : List Text) :
    joinColons (ts.map (Value.text : Text → Value ν)) = .ok (.text (Text.join [':'] ts)) := by
  rw [joinColons, textsFrom_map_text]
  rfl

theorem foldSurplus_of_length_le {n : Nat} {args : List (Value ν)} (h : args.length ≤ n) :
    foldSurplus n args = .ok args := by
  rw [foldSurplus, if_neg (Nat.not_lt.2 h)]

/-- The pieces that leave room for the others become the first argument. -/
theorem foldSurplus_append {first : List Text} (hfirst : first ≠ []) (others : List Text) :
    foldSurplus (others.length + 1) ((first ++ others).map (Value.text : Text → Value ν)) =
      .ok ((Text.join [':'] first :: others).map .text) := by
  have hpos : 0 < first.length := List.length_pos_iff.2 hfirst
  by_cases hlong : 1 < first.length
  · have hlength : ((first ++ others).map (Value.text : Text → Value ν)).length =
        first.length + others.length := by rw [List.length_map, List.length_append]
    have hsurplus : first.length + others.length - (others.length + 1) + 1 = first.length := by
      omega
    have htake : ((first ++ others).map (Value.text : Text → Value ν)).take first.length =
        first.map .text := by
      rw [List.map_append, List.take_left' (List.length_map _)]
    have hdrop : ((first ++ others).map (Value.text : Text → Value ν)).drop first.length =
        others.map .text := by
      rw [List.map_append, List.drop_left' (List.length_map _)]
    rw [foldSurplus, hlength, if_pos (by omega), hsurplus]
    simp only [htake, hdrop, joinColons_map_text]
    rfl
  · obtain ⟨a, rfl⟩ : ∃ a, first = [a] := List.length_eq_one_iff.1 (by omega)
    have ha : Text.join [':'] [a] = a := List.intercalate_singleton
    rw [ha, foldSurplus_of_length_le (by simp)]
    rfl

theorem dropEmpty_of_last {required : Nat} {args : List (Value ν)}
    (h : max required 1 < args.length → ∀ v, args.getLast? = some v → v.isEmptyText = false) :
    dropEmpty required args = .ok args := by
  rw [dropEmpty]
  by_cases hlong : max required 1 < args.length
  · rw [dif_pos hlong]
    cases hlast : args.getLast? with
    | none => rfl
    | some v => simp only [h hlong v hlast, Bool.false_eq_true, if_false]
  · rw [dif_neg hlong]

theorem dropEmpty_of_getLast? {required : Nat} {ts : List Text}
    (h : max required 1 < ts.length → ts.getLast? ≠ some []) :
    dropEmpty required (ts.map (Value.text : Text → Value ν)) = .ok (ts.map .text) := by
  refine dropEmpty_of_last fun hlong v hv => ?_
  rw [List.length_map] at hlong
  rw [List.getLast?_map] at hv
  obtain ⟨t, ht, rfl⟩ := Option.map_eq_some_iff.1 hv
  cases t with
  | nil => exact absurd ht (h hlong)
  | cons c t => rfl

/-- An empty piece behind enough others is dropped, unless all are empty and one argument made of
colons may stand for them. -/
theorem dropEmpty_step {required : Nat} {ts : List Text} (hlong : max required 1 ≤ ts.length) :
    dropEmpty required ((ts ++ [[]]).map (Value.text : Text → Value ν)) =
      if required ≤ 1 ∧ ¬ ∃ t ∈ ts, t ≠ [] then .ok [.text (Text.join [':'] (ts ++ [[]]))]
      else dropEmpty required (ts.map .text) := by
  have hmap : (ts ++ [[]]).map (Value.text : Text → Value ν) = ts.map .text ++ [.text []] := by
    rw [List.map_append, List.map_singleton]
  have hempty : (Value.text [] : Value ν).isEmptyText = true := rfl
  have hmore : max required 1 <
      (ts.map (Value.text : Text → Value ν) ++ [Value.text []]).length := by
    rw [List.length_append, List.length_map, List.length_singleton]
    exact Nat.lt_succ_of_le hlong
  have hjoin : (joinColons (ts.map (Value.text : Text → Value ν) ++ [.text []])).map ([·]) =
      .ok [.text (Text.join [':'] (ts ++ [[]]))] := by
    rw [← hmap, joinColons_map_text]
    rfl
  rw [hmap, dropEmpty, dif_pos hmore, List.getLast?_concat]
  simp only [List.dropLast_concat, hempty, if_true, Bool.not_eq_true', ← Bool.not_eq_true,
    any_truthy_map_text, hjoin]

theorem dropEmpty_append_empty {required : Nat} {ts : List Text}
    (hlong : max required 1 ≤ ts.length) (hkept : 2 ≤ required ∨ ∃ t ∈ ts, t ≠ []) :
    dropEmpty required ((ts ++ [[]]).map (Value.text : Text → Value ν)) =
      dropEmpty required (ts.map .text) := by
  rw [dropEmpty_step hlong, if_neg]
  rintro ⟨hone, hempty⟩
  exact hempty (hkept.resolve_left (Nat.not_le.2 (Nat.lt_succ_of_le hone)))

theorem dropEmpty_append_replicate {required : Nat} {ts : List Text} {m : Nat}
    (hlong : max required 1 ≤ ts.length) (hkept : m = 0 ∨ 2 ≤ required ∨ ∃ t ∈ ts, t ≠ []) :
    dropEmpty required ((ts ++ List.replicate m []).map (Value.text : Text → Value ν)) =
      dropEmpty required (ts.map .text) := by
  induction m with
  | zero => rw [List.replicate_zero, List.append_nil]
  | succ m ih =>
    have hkept' : 2 ≤ required ∨ ∃ t ∈ ts, t ≠ [] := hkept.resolve_left (Nat.succ_ne_zero m)
    have hmore : max required 1 ≤ (ts ++ List.replicate m []).length := by
      rw [List.length_append]
      omega
    have hkeptMore : 2 ≤ required ∨ ∃ t ∈ ts ++ List.replicate m [], t ≠ [] :=
      hkept'.imp_right fun ⟨t, ht, hne⟩ => ⟨t, List.mem_append_left _ ht, hne⟩
    rw [List.replicate_succ', ← List.append_assoc, dropEmpty_append_empty hmore hkeptMore,
      ih (Or.inr hkept')]

/-! ### Folding any pieces -/

theorem exists_foldSurplus {n : Nat} (hn : 0 < n) (ts : List Text) :
    ∃ us : List Text, foldSurplus n (ts.map (Value.text : Text → Value ν)) = .ok (us.map .text) ∧
      us.length = min n ts.length ∧ Text.join [':'] us = Text.join [':'] ts := by
  by_cases hmore : n < ts.length
  · obtain ⟨first, others, rfl, hothers⟩ :
        ∃ first others, ts = first ++ others ∧ others.length + 1 = n := by
      refine ⟨ts.take (ts.length - n + 1), ts.drop (ts.length - n + 1),
        (List.take_append_drop _ ts).symm, ?_⟩
      rw [List.length_drop]
      omega
    have hfirst : first ≠ [] := by
      rintro rfl
      rw [List.nil_append] at hmore
      omega
    refine ⟨Text.join [':'] first :: others, ?_, ?_, Text.join_join_cons hfirst others _⟩
    · rw [← hothers]
      exact foldSurplus_append hfirst others
    · rw [List.length_cons, hothers, Nat.min_eq_left hmore.le]
  · have hfits : ts.length ≤ n := Nat.not_lt.1 hmore
    exact ⟨ts, foldSurplus_of_length_le (by rwa [List.length_map]), (Nat.min_eq_right hfits).symm,
      rfl⟩

/-- What is left of pieces when empty ones at the end are dropped while there are more than `least`:
all but colons at the end. -/
structure Curtailed (least : Nat) (ts us : List Text) : Prop where
  lost : ∃ colons ≤ ts.length - least,
    Text.join [':'] ts = Text.join [':'] us ++ List.replicate colons ':'
  length_le : us.length ≤ ts.length
  enough : min least ts.length ≤ us.length
  ended : least < us.length → us.getLast? ≠ some []

namespace Curtailed

variable {least : Nat} {ts us : List Text}

theorem self (h : least < ts.length → ts.getLast? ≠ some []) : Curtailed least ts ts where
  lost := ⟨0, Nat.zero_le _, (List.append_nil _).symm⟩
  length_le := Nat.le_refl _
  enough := Nat.min_le_right _ _
  ended := h

/-- Pieces that are empty are one argument made of colons. -/
theorem joined (hts : ts ≠ []) : Curtailed 1 ts [Text.join [':'] ts] where
  lost := by
    have hjoin : Text.join [':'] [Text.join [':'] ts] = Text.join [':'] ts :=
      List.intercalate_singleton
    exact ⟨0, Nat.zero_le _, by rw [hjoin, List.replicate_zero, List.append_nil]⟩
  length_le := List.length_pos_iff.2 hts
  enough := Nat.min_le_left _ _
  ended h := absurd h (Nat.lt_irrefl 1)

theorem append_empty (h : Curtailed least ts us) (hts : ts ≠ []) (hleast : least ≤ ts.length) :
    Curtailed least (ts ++ [[]]) us where
  lost := by
    obtain ⟨colons, hcolons, htext⟩ := h.lost
    refine ⟨colons + 1, ?_, ?_⟩
    · rw [List.length_append, List.length_singleton]
      omega
    · have hempty : Text.join [':'] [[]] = [] := List.intercalate_singleton
      rw [Text.join_append hts (List.cons_ne_nil _ _), hempty, List.append_nil, htext,
        List.append_assoc, ← List.replicate_succ']
  length_le := by
    rw [List.length_append]
    exact Nat.le_add_right_of_le h.length_le
  enough := by
    have := h.enough
    omega
  ended := h.ended

end Curtailed

/-- Dropping ends, and with nothing lost but colons. The induction takes pieces from the end as the
loop does. -/
theorem exists_dropEmpty (required : Nat) (ts : List Text) :
    ∃ us : List Text,
      dropEmpty required (ts.map (Value.text : Text → Value ν)) = .ok (us.map .text) ∧
      Curtailed (max required 1) ts us := by
  induction ts using List.reverseRecOn with
  | nil => exact ⟨[], dropEmpty_of_getLast? nofun, .self nofun⟩
  | append_singleton ts t ih =>
    by_cases hdrop : max required 1 ≤ ts.length ∧ t = []
    · obtain ⟨hlong, rfl⟩ := hdrop
      rw [dropEmpty_step hlong]
      split_ifs with hcolons
      · rw [Nat.max_eq_right hcolons.1]
        exact ⟨[Text.join [':'] (ts ++ [[]])], rfl, .joined (List.append_ne_nil_of_right_ne_nil ts
          (List.cons_ne_nil _ _))⟩
      · obtain ⟨us, hus, hcurtailed⟩ := ih
        have hts : ts ≠ [] := List.length_pos_iff.1 ((Nat.le_max_right _ _).trans hlong)
        exact ⟨us, hus, hcurtailed.append_empty hts hlong⟩
    · have hended : max required 1 < (ts ++ [t]).length → (ts ++ [t]).getLast? ≠ some [] := by
        intro hmore hlast
        rw [List.length_append, List.length_singleton] at hmore
        rw [List.getLast?_concat, Option.some_inj] at hlast
        exact hdrop ⟨Nat.le_of_lt_succ hmore, hlast⟩
      exact ⟨ts ++ [t], dropEmpty_of_getLast? hended, .self hended⟩

theorem fold_eq_bind {s : Signature} (hrest : s.hasRest = false) (harity : 0 < s.arity)
    (args : List (Value ν)) :
    s.fold args = (foldSurplus s.arity args).bind (dropEmpty s.requiredCount) := by
  have hpositional : s.positional.isEmpty = false := by
    rwa [List.isEmpty_eq_false_iff, ← List.length_pos_iff]
  rw [fold, hrest, hpositional, Bool.or_false, if_neg Bool.false_ne_true]

theorem requiredCount_le_arity (s : Signature) : s.requiredCount ≤ s.arity :=
  List.length_filter_le _ _

/-- Pieces fold to texts that are not too many. Nothing is lost but colons at the end, one at most
for each optional parameter behind the first. -/
theorem exists_fold {s : Signature} (hrest : s.hasRest = false) (harity : 0 < s.arity)
    (ts : List Text) :
    ∃ us : List Text, s.fold (ts.map (Value.text : Text → Value ν)) = .ok (us.map .text) ∧
      us.length ≤ s.arity ∧
      (∃ colons ≤ s.arity - max s.requiredCount 1,
        Text.join [':'] ts = Text.join [':'] us ++ List.replicate colons ':') ∧
      (s.requiredCount ≤ us.length ↔ s.requiredCount ≤ ts.length) ∧
      (max s.requiredCount 1 < us.length → us.getLast? ≠ some []) := by
  obtain ⟨vs, hvs, hlength, htext⟩ := exists_foldSurplus (ν := ν) harity ts
  obtain ⟨us, hus, hcurtailed⟩ := exists_dropEmpty (ν := ν) s.requiredCount vs
  obtain ⟨colons, hcolons, hlost⟩ := hcurtailed.lost
  have hrequired := s.requiredCount_le_arity
  have hshort := hcurtailed.length_le
  have henough := hcurtailed.enough
  refine ⟨us, ?_, ?_, ⟨colons, ?_, ?_⟩, ?_, hcurtailed.ended⟩
  · rw [fold_eq_bind hrest harity, hvs]
    exact hus
  · omega
  · omega
  · rw [← htext, hlost]
  · omega

/-- Pieces fold to texts, whatever the signature. -/
theorem exists_fold_map_text (s : Signature) (ts : List Text) :
    ∃ us : List Text, s.fold (ts.map (Value.text : Text → Value ν)) = .ok (us.map .text) := by
  by_cases hplain : (s.hasRest || s.positional.isEmpty) = true
  · exact ⟨ts, by rw [fold, if_pos hplain]⟩
  · rw [Bool.or_eq_true, not_or, Bool.not_eq_true, Bool.not_eq_true, List.isEmpty_eq_false_iff,
      ← List.length_pos_iff] at hplain
    obtain ⟨us, hus, -⟩ := exists_fold (ν := ν) hplain.1 hplain.2 ts
    exact ⟨us, hus⟩

/-- Arguments that are not too many stay as they are, unless the last is empty and could be left
out. -/
theorem fold_eq_self {s : Signature} {args : List (Value ν)} (hfits : args.length ≤ s.arity)
    (hlast : max s.requiredCount 1 < args.length →
      ∀ v, args.getLast? = some v → v.isEmptyText = false) : s.fold args = .ok args := by
  rw [fold]
  split
  · rfl
  · rw [foldSurplus_of_length_le hfits]
    exact dropEmpty_of_last hlast

/-- Pieces that are not more than the arguments needed stay as they are. -/
theorem fold_of_length_le {s : Signature} {ts : List Text} (h : ts.length ≤ s.requiredCount) :
    s.fold (ts.map (Value.text : Text → Value ν)) = .ok (ts.map .text) := by
  refine fold_eq_self ?_ fun hmore => ?_
  · rw [List.length_map]
    exact Nat.le_trans h s.requiredCount_le_arity
  · rw [List.length_map] at hmore
    omega

theorem fold_nil (s : Signature) : s.fold ([] : List (Value ν)) = .ok [] :=
  @fold_of_length_le ν _ s [] (Nat.zero_le _)

/-- When every parameter needs an argument, none is dropped: the pieces that leave one for each of
the others are the first argument. -/
theorem fold_of_all_required {s : Signature} (hrest : s.hasRest = false) {first : List Text}
    (hfirst : first ≠ []) {others : List Text} (harity : s.arity = others.length + 1)
    (hrequired : s.arity ≤ max s.requiredCount 1) :
    s.fold ((first ++ others).map (Value.text : Text → Value ν)) =
      .ok ((Text.join [':'] first :: others).map .text) := by
  have hpos : 0 < s.arity := harity ▸ Nat.succ_pos _
  rw [fold_eq_bind hrest hpos, harity, foldSurplus_append hfirst]
  refine dropEmpty_of_getLast? fun hmore => ?_
  rw [List.length_cons, ← harity] at hmore
  omega

/-- A single parameter is given all pieces as one argument. -/
theorem fold_of_arity_eq_one {s : Signature} (hrest : s.hasRest = false) (harity : s.arity = 1)
    {ts : List Text} (hts : ts ≠ []) :
    s.fold (ts.map (Value.text : Text → Value ν)) = .ok [.text (Text.join [':'] ts)] := by
  have hfold := @fold_of_all_required ν _ s hrest ts hts [] harity (by omega)
  rwa [List.append_nil] at hfold

/-- Arguments that can be told from their encoding: as many as there may be, and the last of them
not empty unless it is required. -/
structure Spells (s : Signature) (args : List Text) : Prop where
  enough : max s.requiredCount 1 ≤ args.length
  fits : args.length ≤ s.arity
  uncut : ∀ a ∈ args.tail, ':' ∉ a
  ended : max s.requiredCount 1 < args.length → args.getLast? ≠ some []

/-- The pieces of the first argument, the other arguments and empty pieces fold to the arguments. -/
theorem fold_pieces {s : Signature} (hrest : s.hasRest = false) {first : Text} {others : List Text}
    (h : s.Spells (first :: others)) {m : Nat}
    (hm : (first :: others).length + m = s.arity ∨
      ':' ∉ first ∧ (first :: others).length + m ≤ s.arity)
    (hkept : m = 0 ∨ 2 ≤ s.requiredCount ∨ ∃ a ∈ first :: others, a ≠ []) :
    s.fold ((first.splitOn ':' ++ (others ++ List.replicate m [])).map
      (Value.text : Text → Value ν)) = .ok ((first :: others).map .text) := by
  have harity : 0 < s.arity := Nat.lt_of_lt_of_le (Nat.succ_pos _) h.fits
  have hsurplus : foldSurplus s.arity ((first.splitOn ':' ++ (others ++ List.replicate m [])).map
      (Value.text : Text → Value ν)) =
        .ok (((first :: others) ++ List.replicate m []).map .text) := by
    rcases hm with hfull | ⟨huncut, hroom⟩
    · have harity : s.arity = (others ++ List.replicate m []).length + 1 := by
        rw [List.length_append, List.length_replicate, ← hfull, List.length_cons]
        omega
      rw [harity, foldSurplus_append (List.splitOn_ne_nil ':' first), Text.join_splitOn,
        List.cons_append]
    · rw [List.splitOn_eq_singleton huncut]
      refine foldSurplus_of_length_le ?_
      rw [List.length_map, List.length_append, List.length_append, List.length_replicate,
        List.length_singleton]
      rw [List.length_cons] at hroom
      omega
  rw [fold_eq_bind hrest harity, hsurplus]
  change dropEmpty _ _ = _
  rw [dropEmpty_append_replicate h.enough hkept, dropEmpty_of_getLast? h.ended]

end Harvest.Signature
