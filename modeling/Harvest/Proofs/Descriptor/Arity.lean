import Harvest.Proofs.Descriptor.Decoding
import Harvest.Proofs.Value.Overlong

/-!
# How many pieces a factory needs

A factory can be given any number of pieces. Those that are too many for its parameters are part of
its first argument, and empty ones at the end count as left out, so that the arguments are never too
many and nothing of the text is lost but colons at its end. They are too few exactly when there were
too few pieces, and then the first parameter is named that needs an argument and has none.
-/

namespace Harvest.Entry

variable {ν : Type} [Host ν]

/-- Pieces fold to at most as many arguments as the factory takes. Nothing is lost but colons at the
end, one at most for each optional parameter behind the first, and what is left ends with an
argument that is needed or not empty. When there are as many pieces as arguments needed, the factory
is called with what they fold to. Otherwise they stay as they are and are refused, because the first
parameter behind them that needs an argument is missing. -/
theorem bind_folded_pieces {s : Signature} (hrest : s.hasRest = false) (harity : 1 ≤ s.arity)
    (pieces : List Text) :
    ∃ args : List Text, s.fold (pieces.map (Value.text : Text → Value ν)) = .ok (args.map .text) ∧
      args.length ≤ s.arity ∧
      (∃ colons ≤ s.arity - max s.requiredCount 1,
        Text.join [':'] pieces = Text.join [':'] args ++ List.replicate colons ':') ∧
      (s.requiredCount ≤ args.length ↔ s.requiredCount ≤ pieces.length) ∧
      (max s.requiredCount 1 < args.length → args.getLast? ≠ some []) ∧
      (s.Positional →
        (s.requiredCount ≤ pieces.length →
          s.mismatch? args.length = none ∧
          ∀ (e : Entry ν) make (doc : Document ν), e.form = .factory s make →
            e.bind (pieces.map .text) doc =
              (e.made make (args.map .text)).map fun run => guarded e.accepts (run doc)) ∧
        (pieces.length < s.requiredCount →
          args = pieces ∧
          ∃ p, (s.positional.filter (·.required))[pieces.length]? = some p ∧
            s.mismatch? args.length = some (.missing p.name) ∧
            ∀ (e : Entry ν) make (doc : Document ν), e.form = .factory s make →
              e.bind (pieces.map .text) doc =
                .error (.config
                  (.rejected (.text e.name) (pieces.map .text) (.missing p.name))))) := by
  obtain ⟨args, hfold, hfits, hlost, henough, hended⟩ :=
    Signature.exists_fold (ν := ν) hrest harity pieces
  refine ⟨args, hfold, hfits, hlost, henough, hended, fun hs => ⟨fun hpieces => ?_,
    fun hpieces => ?_⟩⟩
  · have hnone := Signature.mismatch?_eq_none hs (henough.2 hpieces) hfits
    refine ⟨hnone, fun e make doc he => ?_⟩
    rw [bind, instantiate_of_fold he hfold (by rwa [List.length_map])]
  · have hself := hfold.symm.trans (Signature.fold_of_length_le hpieces.le)
    obtain rfl : args = pieces := Signature.map_text_injective (Except.ok.inj hself)
    obtain ⟨p, hp⟩ : ∃ p, (s.positional.filter (·.required))[args.length]? = some p :=
      ⟨_, List.getElem?_eq_getElem hpieces⟩
    have hmissing : s.mismatch? args.length = some (.missing p.name) := by
      rw [Signature.mismatch?_eq_getElem? hs hfits, hp]
      rfl
    refine ⟨rfl, p, hp, hmissing, fun e make doc he => ?_⟩
    rw [bind, instantiate_of_mismatch he hfold (by rwa [List.length_map]),
      Failure.rejected_texts]
    rfl

/-- Of five pieces three are the first argument of a listing, and the others are left out. Without
any piece the first argument is missing. -/
theorem bind_listing_pieces :
    (Descriptor.listing.bind (["a".toList, "b".toList, [], [], []].map .text) Page.document).map
        (fun step => (step .absent).result) = .ok (.ok (.list [.text "a:b:".toList])) ∧
      (∃ colons ≤ 2, "a:b:::".toList = "a:b:".toList ++ List.replicate colons ':') ∧
      Descriptor.listing.bind [] Page.document =
        .error (.config (.rejected (.text "listing".toList) [] (.missing "first".toList))) := by
  have hs : Descriptor.listingSignature.Positional := ⟨by decide, rfl, by decide⟩
  obtain ⟨args, hargs, -, hlost, -, -, hbind⟩ := bind_folded_pieces (ν := Markup.Cursor)
    hs.noRest (by decide) ["a".toList, "b".toList, [], [], []]
  obtain ⟨_, -, -, -, -, -, hempty⟩ := bind_folded_pieces (ν := Markup.Cursor)
    hs.noRest (by decide) []
  have hfold : Descriptor.listingSignature.fold (["a".toList, "b".toList, [], [], []].map
      (Value.text : Text → Value Markup.Cursor)) = .ok (["a:b:".toList].map .text) := by cbv
  obtain rfl : args = ["a:b:".toList] :=
    Signature.map_text_injective (Except.ok.inj (hargs.symm.trans hfold))
  refine ⟨?_, hlost, ?_⟩
  · rw [((hbind hs).1 (by decide)).2 Descriptor.listing _ Page.document rfl]
    rfl
  · obtain ⟨-, p, hp, -, hmissing⟩ := (hempty hs).2 (by decide)
    obtain rfl : Standard.required "first" = p := Option.some.inj hp
    exact hmissing Descriptor.listing _ Page.document rfl

end Harvest.Entry
