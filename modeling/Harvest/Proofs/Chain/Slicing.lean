import Harvest.Page
import Harvest.Proofs.Descriptor.Calling

/-!
# Slices and items of sequences

Slicing a sequence yields the block between two places, which can be counted from its end and are
clamped to the sequence. So every place parts a sequence into two slices. An item is read at a place
counted from the start only; it is the whole of the slice of length one there.
-/

namespace Harvest.Standard

variable {ν : Type} {α : Type}

/-! ### Blocks of a list -/

/-- The place that an index means: from the end when it is negative, and not outside. -/
def clamped (length : Nat) (index : Int) : Int :=
  max 0 (min length (if index < 0 then length + index else index))

/-- The items of a list from one place up to another, none when that is not further on. -/
structure IsBlock (items : List α) (start stop : Int) (block : List α) : Prop where
  parts : ∃ before after, before ++ block ++ after = items ∧ (before.length : Int) = start
  length : (block.length : Int) = max 0 (stop - start)

theorem position_eq_clamped (length : Nat) (index : Int) :
    (position length index : Int) = clamped length index := by
  rw [position, clamped]
  split <;> omega

theorem position_of_nonneg {index : Int} (h : 0 ≤ index) (length : Nat) :
    position length index = min index.toNat length := if_neg (Int.not_lt.2 h)

theorem position_le (length : Nat) (index : Int) : position length index ≤ length := by
  have hclamped := position_eq_clamped length index
  rw [clamped] at hclamped
  omega

theorem isBlock_drop_take {items : List α} {a b : Nat} (ha : a ≤ items.length)
    (hb : b ≤ items.length) : IsBlock items a b ((items.take b).drop a) where
  parts := by
    rcases Nat.le_total a b with hab | hba
    · refine ⟨items.take a, items.drop b, ?_, by rw [List.length_take_of_le ha]⟩
      have hfront : items.take a = (items.take b).take a := by
        rw [List.take_take, Nat.min_eq_left hab]
      rw [hfront, List.take_append_drop, List.take_append_drop]
    · refine ⟨items.take a, items.drop a, ?_, by rw [List.length_take_of_le ha]⟩
      have hnone : (items.take b).drop a = [] :=
        List.drop_eq_nil_of_le (Nat.le_trans (List.length_take_le b items) hba)
      rw [hnone, List.append_nil, List.take_append_drop]
  length := by
    rw [List.length_drop, List.length_take_of_le hb]
    omega

theorem isBlock_sliceList (start : Int) (stop : Option Int) (items : List α) :
    IsBlock items (clamped items.length start) (stop.elim items.length (clamped items.length))
      (sliceList start stop items) := by
  have hstart := position_le items.length start
  cases stop with
  | none =>
    rw [← position_eq_clamped]
    exact isBlock_drop_take hstart (Nat.le_refl _)
  | some stop =>
    have hblock := isBlock_drop_take hstart (position_le items.length stop)
    rw [position_eq_clamped, position_eq_clamped] at hblock
    exact hblock

theorem sliceList_append_sliceList (place : Int) (items : List α) :
    sliceList 0 (some place) items ++ sliceList place none items = items := by
  have hfront : sliceList 0 (some place) items = items.take (position items.length place) := by
    rw [sliceList, position_of_nonneg (Int.le_refl 0), Int.toNat_zero, Nat.zero_min, List.drop_zero,
      Option.elim_some]
  have hback : sliceList place none items = items.drop (position items.length place) := by
    rw [sliceList, Option.elim_none, List.take_length]
  rw [hfront, hback, List.take_append_drop]

/-- The slice of length one at a place has the item there, if there is one. -/
theorem sliceList_succ {index : Int} (h : 0 ≤ index) (items : List α) :
    sliceList index (some (index + 1)) items = (items[index.toNat]?).toList := by
  have hsucc : (index + 1).toNat = index.toNat + 1 := by omega
  rw [sliceList, Option.elim_some, position_of_nonneg h, position_of_nonneg (by omega), hsucc]
  generalize index.toNat = n
  by_cases hn : n < items.length
  · have hone : n.succ - n = 1 := Nat.add_sub_cancel_left n 1
    rw [Nat.min_eq_left (Nat.le_of_lt hn), Nat.min_eq_left hn, List.getElem?_eq_getElem hn,
      List.drop_take, hone, List.drop_eq_getElem_cons hn, List.take_succ_cons, List.take_zero,
      Option.toList_some]
  · have hlength : items.length ≤ n := Nat.le_of_not_lt hn
    rw [Nat.min_eq_right hlength, List.drop_eq_nil_of_le (List.length_take_le' _ _),
      List.getElem?_eq_none hlength, Option.toList_none]

/-! ### Sequences and their steps -/

/-- The values that are sliced into values of their own sort. -/
inductive Sequence : {α : Type} → (List α → Value ν) → Prop
  | list : Sequence .list
  | tuple : Sequence .tuple
  | text : Sequence .text
  | bytes : Sequence .bytes

/-- The sequences of values. -/
inductive Items : (List (Value ν) → Value ν) → Prop
  | list : Items .list
  | tuple : Items .tuple

theorem Items.sequence {wrap : List (Value ν) → Value ν} (h : Items wrap) : Sequence wrap := by
  cases h
  · exact .list
  · exact .tuple

def getIndexStep (index : Int) : Step ν := guarded (.only .array) (getIndex index)

theorem getIndexStep_items {wrap : List (Value ν) → Value ν} (h : Items wrap) (index : Int)
    (items : List (Value ν)) : getIndexStep index (wrap items) =
      pure (if 0 ≤ index then (items[index.toNat]?).getD .inapplicable else .inapplicable) := by
  cases h <;> rfl

/-- Where a slice stops. The argument for it can be left out. -/
inductive StopsAt : Option Int → List (Value ν) → Prop
  | leftOut : StopsAt none []
  | absent : StopsAt none [.absent]
  | index {n : Int} {v : Value ν} (h : Denotes n v) : StopsAt (some n) [v]

variable {start : Int} {stop : Option Int} {v : Value ν} {vs : List (Value ν)}

theorem StopsAt.writable (hvs : StopsAt stop vs) (hv : Denotes start v) :
    Signature.Writable [required "start", optional "stop"] (v :: vs) where
  enough := Nat.le_add_left 1 _
  fits := by
    have hone : vs.length ≤ 1 := by
      cases hvs with
      | leftOut => exact Nat.zero_le 1
      | absent => exact Nat.le_refl 1
      | index => exact Nat.le_refl 1
    exact Nat.succ_le_succ hone
  texts t ht := by
    rcases List.mem_cons.1 ht with rfl | ht
    · exact hv.of_text
    · cases hvs with
      | leftOut => cases ht
      | absent => cases List.mem_singleton.1 ht
      | index h =>
        obtain rfl := List.mem_singleton.1 ht
        exact h.of_text

variable [Host ν]

theorem optionalInt_of_stopsAt (h : StopsAt stop vs) (parameter : Text) :
    optionalInt parameter vs = .ok stop := by
  cases h with
  | leftOut => rfl
  | absent => rfl
  | @index n v h =>
    have hcall : optionalInt parameter [v] = (intArgument parameter v).map some := by
      cases h <;> rfl
    rw [hcall, intArgument_of_denotes h]
    rfl

theorem makes_slice (hv : Denotes start v) (hvs : StopsAt stop vs) (doc : Document ν) :
    Makes doc "slice".toList (v :: vs) (slice start stop) := by
  refine makes_of_writable 17 rfl (positional ["start"] ["stop"]) rfl (hvs.writable hv)
    (fun _ => slice start stop) ?_ doc
  simp only [intArgument_of_denotes hv, optionalInt_of_stopsAt hvs]
  rfl

theorem makes_getIndexStep {index : Int} (h : Denotes index v) (doc : Document ν) :
    Makes doc "get-index".toList [v] (getIndexStep index) := by
  refine makes_of_writable 16 rfl (positional ["index"] []) rfl (h.writable _)
    (fun _ => getIndex index) ?_ doc
  simp only [intArgument_of_denotes h]
  rfl

theorem slice_sequence {wrap : List α → Value ν} (h : Sequence wrap) (start : Int)
    (stop : Option Int) (items : List α) :
    slice start stop (wrap items) = pure (wrap (sliceList start stop items)) := by
  cases h <;> rfl

/-- Slicing and reading an item are given integers as themselves or by numerals, and a slice may be
given no stop. A slice of a sequence is its block between the two places that the integers mean,
and goes to the end without a stop. The slices up to a place and from it on make up the whole
sequence. No item is read at a place counted from the end; at any other place the item is all of the
slice from there to the next place, and there is none when this slice is empty. -/
theorem slices_coherent (doc : Document ν) :
    (∀ start stop (v : Value ν) vs, Denotes start v → StopsAt stop vs →
      Makes doc "slice".toList (v :: vs) (slice start stop)) ∧
    (∀ index (v : Value ν), Denotes index v →
      Makes doc "get-index".toList [v] (getIndexStep index)) ∧
    (∀ {α : Type} {wrap : List α → Value ν}, Sequence wrap → ∀ items,
      (∀ start stop, ∃ block, slice start stop (wrap items) = pure (wrap block) ∧
        IsBlock items (clamped items.length start)
          (stop.elim items.length (clamped items.length)) block) ∧
      ∀ place, ∃ front back, slice 0 (some place) (wrap items) = pure (wrap front) ∧
        slice place none (wrap items) = pure (wrap back) ∧ front ++ back = items) ∧
    ∀ {wrap : List (Value ν) → Value ν}, Items wrap → ∀ items index,
      (index < 0 → getIndexStep index (wrap items) = pure Value.inapplicable) ∧
      (0 ≤ index →
        (slice index (some (index + 1)) (wrap items) = pure (wrap []) ∧
          getIndexStep index (wrap items) = pure Value.inapplicable) ∨
        ∃ item, slice index (some (index + 1)) (wrap items) = pure (wrap [item]) ∧
          getIndexStep index (wrap items) = pure item) := by
  refine ⟨fun _ _ _ _ hv hvs => makes_slice hv hvs doc, fun _ _ h => makes_getIndexStep h doc,
    fun hwrap items => ⟨fun start stop => ?_, fun place => ?_⟩, fun hwrap items index => ⟨?_, ?_⟩⟩
  · exact ⟨_, slice_sequence hwrap start stop items, isBlock_sliceList start stop items⟩
  · exact ⟨_, _, slice_sequence hwrap 0 (some place) items, slice_sequence hwrap place none items,
      sliceList_append_sliceList place items⟩
  · intro h
    rw [getIndexStep_items hwrap, if_neg (Int.not_le.2 h)]
  · intro h
    rw [slice_sequence hwrap.sequence, sliceList_succ h, getIndexStep_items hwrap, if_pos h]
    cases items[index.toNat]? with
    | none => exact .inl ⟨rfl, rfl⟩
    | some item => exact .inr ⟨item, rfl, rfl⟩

/-- A slice from the third letter from the end on that reaches further than the text does. -/
theorem slices_of_letters :
    (∃ d, Chain.resolveElement (.text "slice:-3:9".toList) .standard Page.document =
      .ok (d, slice (-3) (some 9))) ∧
    (∃ block, slice (-3) (some 9) (.text "abcde".toList : Value Markup.Cursor) =
      pure (.text block) ∧ IsBlock "abcde".toList 2 5 block) ∧
    getIndexStep (-1) (.tuple [.int 7] : Value Markup.Cursor) = pure Value.inapplicable ∧
    ∃ item, slice 0 (some 1) (.tuple [.int 7] : Value Markup.Cursor) = pure (.tuple [item]) ∧
      getIndexStep 0 (.tuple [.int 7]) = pure item := by
  obtain ⟨hslice, -, hblock, hitem⟩ := slices_coherent Page.document
  have hthree : Number.Numeral (-3) "-3".toList :=
    .signed (.inr (.inr rfl)) (Number.decimalDigits_mem_someDigits 3) (by decide)
  have hnine : Number.Numeral 9 "9".toList :=
    .signed (.inl rfl) (Number.decimalDigits_mem_someDigits 9) (by decide)
  obtain ⟨e, -, -, hwritten⟩ := hslice (-3) (some 9) _ _ (.text hthree.spaced)
    (.index (.text hnine.spaced))
  obtain ⟨hnegative, -⟩ := hitem .tuple [.int 7] (-1)
  obtain ⟨-, hfirst⟩ := hitem .tuple [.int 7] 0
  refine ⟨hwritten ["-3".toList, "9".toList] 0 rfl (.inl rfl), (hblock .text _).1 (-3) (some 9),
    hnegative (by decide), (hfirst (Int.le_refl 0)).resolve_left ?_⟩
  rintro ⟨hempty, -⟩
  cases hempty

end Harvest.Standard
