import Harvest.Page
import Harvest.Proofs.Chain.Staging
import Harvest.Proofs.Descriptor.Decoding
import Harvest.Proofs.Text.Splitting

/-!
# Splitting and joining by chains

The transformation that splits a text keeps all pieces between the occurrences of its delimiter, or
as many of them as its limit says. Coercion to text joins texts by commas, so it is undone by a
split at commas, and undoes it.
-/

namespace Harvest

namespace Standard

variable {ν : Type} [Host ν]

theorem limitTo_of_nonneg {α : Type} {k : Int} (hk : 0 ≤ k) (items : List α) :
    limitTo (some k) items = items.take k.toNat := if_pos hk

theorem limitTo_of_forall_neg {α : Type} {limit : Option Int} (h : ∀ k, limit = some k → k < 0)
    (items : List α) : limitTo limit items = items := by
  cases limit with
  | none => rfl
  | some k => exact if_neg (Int.not_le.2 (h k rfl))

/-- An empty text is no limit. -/
theorem isEmptyText_of_optionalInt {parameter : Text} {v : Value ν} {limit : Option Int}
    (h : optionalInt parameter [v] = .ok limit) : v.isEmptyText = false := by
  cases v with
  | text t =>
    cases t with
    | nil => cases h
    | cons c t => rfl
  | _ => rfl

/-- The entry that splits, as it stands in the standard set. -/
def splitEntry : Entry ν :=
  entry "split" (.only .text) false "Split on a literal delimiter, keeping at most limit pieces."
    splitForm

theorem splitEntry_mem : (splitEntry : Entry ν) ∈ entries :=
  List.mem_of_getElem? (show entries[13]? = some _ from rfl)

theorem get?_splitEntry : (Registry.standard : Registry ν).get? "split".toList = some splitEntry :=
  Registry.get?_standard (e := splitEntry) splitEntry_mem

/-- A limit is given as one argument, or not at all. -/
theorem bind_splitEntry {limits : List (Value ν)} {limit : Option Int} (hone : limits.length ≤ 1)
    (h : optionalInt "limit" limits = .ok limit) (d : Text) (doc : Document ν) :
    splitEntry.bind (.text d :: limits) doc =
      .ok (guarded (.only .text) (split (.text d) limit)) := by
  have hlast : 1 < (Value.text d :: limits).length →
      ∀ v, (Value.text d :: limits).getLast? = some v → v.isEmptyText = false := by
    intro hmore v hv
    obtain ⟨w, rfl⟩ : ∃ w, limits = [w] := by
      rw [List.length_cons] at hmore
      exact List.length_eq_one_iff.1 (by omega)
    cases hv
    exact isEmptyText_of_optionalInt h
  have hform : (splitEntry : Entry ν).form =
      .factory [required "delimiter", optional "limit"] _ := rfl
  refine Entry.bind_of_fits hform (positional ["delimiter"] ["limit"]) ?_ ?_ hlast
    (fun _ => split (.text d) limit) ?_ doc
  · exact Nat.le_add_left 1 _
  · exact Nat.succ_le_succ hone
  · simp only [h]
    rfl

end Standard

theorem Value.toText_list_texts {ν : Type} [Host ν] (ts : List Text) :
    (Value.list (ts.map .text) : Value ν).toText = some (Text.join [','] ts) := by
  have hitems : itemTexts (ts.map .text : List (Value ν)) = some ts := by
    induction ts with
    | nil => rfl
    | cons t ts ih =>
      rw [List.map_cons, itemTexts, toText, Option.bind_some, ih, Option.map_some]
      nofun
  rw [toText, hitems, Option.map_some]

namespace Chain

open Text

variable {ν : Type} [Host ν]

def commaStep : Step ν := guarded (.only .text) (Standard.split (.text [',']) none)

def stringStep : Step ν := guarded .any Standard.toString

/-- The chain that splits a text at its commas and joins the pieces again. -/
def splitJoined : Chain ν := ⟨[
  (.byNameWithArgs "split".toList [[',']], commaStep), (.byName "to-string".toList, stringStep)]⟩

/-- The chain that joins texts by commas and splits the result at them. -/
def joinedSplit : Chain ν := ⟨[
  (.byName "to-string".toList, stringStep), (.byNameWithArgs "split".toList [[',']], commaStep)]⟩

theorem resolveElement_commaStep (doc : Document ν) :
    resolveElement (.text "split:,".toList) .standard doc =
      .ok (.byNameWithArgs "split".toList [[',']], commaStep) := by
  have hseparator : ':' ∈ "split:,".toList := by decide
  have hsplit : Descriptor.split "split:,".toList = ("split".toList, [[',']]) := by
    rw [Descriptor.split, show "split:,".toList = "split".toList ++ ':' :: [','] from rfl,
      partition_append_cons (by decide), split_singleton,
      List.splitOn_eq_singleton (by decide)]
  have hnone := Registry.get?_standard_of_separator (ν := ν) hseparator
  have hget : (Registry.standard : Registry ν).get? (Descriptor.split "split:,".toList).1 =
      some Standard.splitEntry := by rw [hsplit, Standard.get?_splitEntry]
  have hbind : Standard.splitEntry.bind [.text [',']] doc = .ok commaStep :=
    Standard.bind_splitEntry (by exact Nat.zero_le 1) rfl [','] doc
  rw [Descriptor.resolveElement_eq_bind doc hseparator hnone hget, hsplit, List.map_singleton,
    hbind]
  rfl

theorem commaStep_text (t : Text) :
    commaStep (.text t : Value ν) = pure (.list ((split [','] t).map .text)) := rfl

theorem stringStep_list_texts (ts : List Text) :
    stringStep (.list (ts.map .text) : Value ν) = pure (.text (join [','] ts)) := by
  change Standard.toString _ = _
  rw [Standard.toString, Value.toText_list_texts]
  rfl

theorem run_splitJoined (t : Text) : splitJoined.run (.text t : Value ν) = pure (.text t) := by
  change (commaStep (.text t) >>= fun v => stringStep v >>= pure : Outcome ν (Value ν)) = _
  rw [commaStep_text, pure_bind, stringStep_list_texts, pure_bind,
    join_split (List.cons_ne_nil _ _)]

theorem run_joinedSplit {ts : List Text} (hne : ts ≠ []) (hts : ∀ p ∈ ts, ',' ∉ p) :
    joinedSplit.run (.list (ts.map .text) : Value ν) = pure (.list (ts.map .text)) := by
  change (stringStep (.list (ts.map .text)) >>= fun v => commaStep v >>= pure :
    Outcome ν (Value ν)) = _
  rw [stringStep_list_texts, pure_bind, commaStep_text, pure_bind, split_singleton, join,
    List.splitOn_intercalate _ hts hne]

/-- A text is split without loss: its pieces joined by the delimiter are the text, none has the
delimiter in it, and there is one more than places where the delimiter is met from left to right. At
the empty delimiter the pieces are the code points. A limit keeps as many pieces of all as it says,
and a negative one keeps them all. So splitting at commas and coercion to text undo each other, on
every text and on every list of texts without commas that is not empty. -/
theorem split_without_loss (doc : Document ν) (d t : Text) :
    (d ≠ [] → join d (split d t) = t ∧ (∀ p ∈ split d t, ¬ d <:+: p) ∧
      ∃ is, (∀ js, Met d t js ↔ js = is) ∧ (split d t).length = is.length + 1) ∧
    (d = [] → split d t = t.map fun c => [c]) ∧
    (∃ e, (Registry.standard : Registry ν).get? "split".toList = some e ∧
      ∀ limits limit, limits.length ≤ 1 → Standard.optionalInt "limit" limits = .ok limit →
        ∃ step pieces, e.bind (.text d :: limits) doc = .ok step ∧
          step (.text t) = pure (.list (pieces.map .text)) ∧
          (∀ k, limit = some k → 0 ≤ k → pieces = (split d t).take k.toNat) ∧
          ((∀ k, limit = some k → k < 0) → pieces = split d t)) ∧
    (∃ c : Chain ν, resolve (["split:,".toList, "to-string".toList].map .text) .standard doc =
      .ok c ∧ c.run (.text t) = pure (.text t)) ∧
    ∃ c : Chain ν, resolve (["to-string".toList, "split:,".toList].map .text) .standard doc =
      .ok c ∧ ∀ ts ≠ [], (∀ p ∈ ts, ',' ∉ p) →
        c.run (.list (ts.map .text)) = pure (.list (ts.map .text)) := by
  have hsplit := resolveElement_commaStep (ν := ν) doc
  have hjoin : resolveElement (.text "to-string".toList) .standard doc =
      .ok (.byName "to-string".toList, (stringStep : Step ν)) := resolveElement_standard 11 rfl doc
  refine ⟨fun hd => ⟨join_split hd t, fun p => not_infix_of_mem_split hd, ?_⟩, ?_,
    ⟨Standard.splitEntry, Standard.get?_splitEntry, fun limits limit hone hlimit => ?_⟩,
    ⟨splitJoined, resolve_eq_ok_iff.2 (.cons hsplit (.cons hjoin .nil)), run_splitJoined t⟩,
    ⟨joinedSplit, resolve_eq_ok_iff.2 (.cons hjoin (.cons hsplit .nil)),
      fun ts => run_joinedSplit⟩⟩
  · obtain ⟨is, his, hlength⟩ := exists_met hd t
    exact ⟨is, fun js => ⟨fun hjs => his.unique hjs hd, fun h => h ▸ his⟩, hlength⟩
  · rintro rfl
    rfl
  · refine ⟨_, Standard.limitTo limit (split d t), Standard.bind_splitEntry hone hlimit d doc, rfl,
      fun k hk hnonneg => ?_, fun hneg => Standard.limitTo_of_forall_neg hneg _⟩
    rw [hk, Standard.limitTo_of_nonneg hnonneg]

/-- A delimiter that overlaps itself is met twice in five letters, and texts that are empty or stand
at an end come back. -/
theorem split_of_overlapping :
    (split "aa" "aaaaa").length = 3 ∧ join "aa" (split "aa" "aaaaa") = "aaaaa".toList ∧
      ∃ c : Chain Markup.Cursor,
        resolve (["to-string".toList, "split:,".toList].map .text) .standard Page.document = .ok c ∧
        c.run (.list ([[], "b".toList, []].map .text)) =
          pure (.list ([[], "b".toList, []].map .text)) := by
  obtain ⟨hcut, -, -, -, c, hc, hrun⟩ := split_without_loss Page.document "aa" "aaaaa"
  obtain ⟨hjoin, -, is, his, hlength⟩ := hcut (by decide)
  have hmet : Met "aa" "aaaaa" [0, 2] := by
    refine ⟨by decide, by decide, fun j hj => ?_⟩
    have hshort : 2 ≤ 5 - j := List.length_drop (i := j) (l := "aaaaa".toList) ▸ hj.length_le
    by_cases hj : j < 2
    · exact ⟨0, by decide, Nat.zero_le j, hj⟩
    · exact ⟨2, by decide, by omega, show j < 4 by omega⟩
  rw [← (his _).1 hmet] at hlength
  exact ⟨hlength, hjoin, c, hc, hrun _ (by decide) (by decide)⟩

end Chain

end Harvest
