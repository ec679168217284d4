import Harvest.Page
import Harvest.Proofs.Descriptor.Binding
import Harvest.Proofs.Signature.Fitting

/-!
# Descriptors decode to what was encoded

A name and arguments are written one after the other with colons between them. Read in a registry
where the name stands for a factory, the text calls this factory with the same arguments again, as
long as colons stand only in the first of them, and the last is not empty where it could be left
out. Colons for the parameters without an argument are only needed when the first argument has
colons of its own.
-/

namespace Harvest.Descriptor

variable {ν : Type}

/-- A name with arguments, and colons behind them. -/
def encode (name : Text) (args : List Text) (colons : Nat) : Text :=
  name ++ ':' :: (Text.join [':'] args ++ List.replicate colons ':')

theorem separator_mem_encode (name : Text) (args : List Text) (colons : Nat) :
    ':' ∈ encode name args colons := List.mem_append_right _ List.mem_cons_self

theorem split_encode {name first : Text} {others : List Text} (hname : ':' ∉ name)
    (hothers : ∀ a ∈ others, ':' ∉ a) (colons : Nat) :
    split (encode name (first :: others) colons) =
      (name, first.splitOn ':' ++ (others ++ List.replicate colons [])) := by
  have hpieces : ∀ a ∈ others ++ List.replicate colons [], ':' ∉ a := by
    intro a ha
    rcases List.mem_append.1 ha with ha | ha
    · exact hothers a ha
    · rw [List.eq_of_mem_replicate ha]
      exact List.not_mem_nil
  rw [split, encode, Text.partition_append_cons hname, Text.split_singleton,
    Text.join_append_replicate, Text.splitOn_join_cons first hpieces]

variable [Host ν]

/-- What a text resolves to when it calls a factory with these arguments. -/
def called (e : Entry ν) (make : List (Value ν) → Except (Objection ν) (Document ν → Step ν))
    (args : List Text) (t : Text) (doc : Document ν) :
    Except (Failure ν) (Descriptor ν × Step ν) :=
  (e.made make (args.map .text)).map fun run =>
    (.byNameWithArgs e.name (split t).2, guarded e.accepts (run doc))

theorem resolveElement_eq_bind {r : Registry ν} (doc : Document ν) {t : Text} {e : Entry ν}
    (ht : ':' ∈ t) (hnone : r.get? t = none) (he : r.get? (split t).1 = some e) :
    Chain.resolveElement (.text t) r doc =
      (e.bind ((split t).2.map .text) doc).map fun run =>
        (.byNameWithArgs e.name (split t).2, run) := by
  rw [Chain.resolveElement_of_separator hnone ht, bindText, bindEntry, he,
    Registry.name_of_get? he]

theorem resolveElement_encode (includesStandard : Bool) (ops : List (Registry.Operation ν))
    (doc : Document ν) {e : Entry ν} {s : Signature}
    {make : List (Value ν) → Except (Objection ν) (Document ν → Step ν)}
    (hget : ((Registry.make includesStandard).run ops).get? e.name = some e)
    (hform : e.form = .factory s make) (hs : s.Positional) {first : Text} {others : List Text}
    (hargs : s.Spells (first :: others)) {colons : Nat}
    (hcolons : (first :: others).length + colons = s.arity ∨
      ':' ∉ first ∧ (first :: others).length + colons ≤ s.arity)
    (hkept : colons = 0 ∨ 2 ≤ s.requiredCount ∨ ∃ a ∈ first :: others, a ≠ []) :
    Chain.resolveElement (.text (encode e.name (first :: others) colons))
        ((Registry.make includesStandard).run ops) doc =
      called e make (first :: others) (encode e.name (first :: others) colons) doc := by
  have hname : ':' ∉ e.name := by
    intro hseparator
    rw [Registry.get?_run_of_separator includesStandard ops hseparator] at hget
    cases hget
  have hseparator := separator_mem_encode e.name (first :: others) colons
  have hnone := Registry.get?_run_of_separator includesStandard ops hseparator
  have hsplit : split (encode e.name (first :: others) colons) =
      (e.name, first.splitOn ':' ++ (others ++ List.replicate colons [])) :=
    split_encode hname hargs.uncut colons
  have hentry : ((Registry.make includesStandard).run ops).get?
      (split (encode e.name (first :: others) colons)).1 = some e := by rw [hsplit, hget]
  have hfits : s.mismatch? ((first :: others).map (Value.text : Text → Value ν)).length = none := by
    rw [List.length_map]
    exact Signature.mismatch?_eq_none hs (Nat.le_trans (Nat.le_max_left _ _) hargs.enough)
      hargs.fits
  have hfold := Signature.fold_pieces (ν := ν) hs.noRest hargs hcolons hkept
  rw [resolveElement_eq_bind doc hseparator hnone hentry, Entry.bind, called, hsplit,
    Entry.instantiate_of_fold hform hfold hfits]
  cases e.made make ((first :: others).map .text) <;> rfl

/-! ### Standard transformations -/

theorem step_standard (doc : Document ν) {name description : Text} {accepts : Accepts}
    {usesDocument : Bool} {s : Signature}
    {make : List (Value ν) → Except (Objection ν) (Document ν → Step ν)}
    (he : Standard.entry name accepts usesDocument description (.factory s make) ∈ Standard.entries)
    (hs : s.Positional) {first : Text} {others : List Text} (hargs : s.Spells (first :: others))
    (colons : Nat) (hcolons : (first :: others).length + colons = s.arity)
    (hkept : colons = 0 ∨ 2 ≤ s.requiredCount ∨ ∃ a ∈ first :: others, a ≠ []) :
    (Chain.resolveElement (.text (encode name (first :: others) colons)) .standard doc).map (·.2) =
      ((Standard.entry name accepts usesDocument description (.factory s make)).made make
        ((first :: others).map .text)).map fun run => guarded accepts (run doc) := by
  have hcalled := resolveElement_encode true [.load] doc (Registry.get?_standard he) rfl hs hargs
    (.inl hcolons) hkept
  have hstandard : ((Registry.make true).run [.load] : Registry ν) = .standard := rfl
  rw [hstandard] at hcalled
  change Except.map _ (Chain.resolveElement (.text (encode (Standard.entry name accepts usesDocument
    description (.factory s make)).name _ _)) _ _) = _
  rw [hcalled, called]
  cases (Standard.entry name accepts usesDocument description (.factory s make)).made make
    ((first :: others).map .text) <;> rfl

/-- A single argument can be told from its encoding, whatever text it is. -/
theorem spells_single (parameter t : Text) : Signature.Spells [Standard.required parameter] [t] :=
  ⟨Nat.le_refl 1, Nat.le_refl 1, List.forall_mem_nil _, fun h => absurd h (Nat.lt_irrefl 1)⟩

theorem step_selectOne (doc : Document ν) (selector : Text) :
    (Chain.resolveElement (.text ("select-one:".toList ++ selector)) .standard doc).map (·.2) =
      .ok (guarded (.only .node) (Standard.selectOne selector doc)) := by
  have hs : Signature.Positional [Standard.required "selector"] :=
    Standard.positional ["selector"] []
  have hargs := spells_single "selector" selector
  have ht : "select-one:".toList ++ selector = encode "select-one".toList [selector] 0 := by
    simp [encode, Text.join]
  rw [ht, step_standard doc List.mem_cons_self hs hargs 0 rfl (.inl rfl)]
  rfl

theorem step_replace (doc : Document ν) (pattern : Text) {replacement : Text}
    (hreplacement : ':' ∉ replacement) :
    (Chain.resolveElement (.text ("replace:".toList ++ pattern ++ ':' :: replacement)) .standard
      doc).map (·.2) =
      match Standard.patternArgument (.text pattern : Value ν) with
      | .ok p => .ok (guarded (.only .text) (Standard.replace p (.text replacement)))
      | .error (.refuse reason) =>
        .error (.rejected "replace".toList [.text pattern, .text replacement] reason)
      | .error (.fail f) => .error f := by
  have hs : Signature.Positional [Standard.required "pattern", Standard.required "replacement"] :=
    Standard.positional ["pattern", "replacement"] []
  have hargs : Signature.Spells [Standard.required "pattern", Standard.required "replacement"]
      [pattern, replacement] :=
    ⟨Nat.le_refl 2, Nat.le_refl 2, List.forall_mem_singleton.2 hreplacement,
      fun h => absurd h (Nat.lt_irrefl 2)⟩
  have ht : "replace:".toList ++ pattern ++ ':' :: replacement =
      encode "replace".toList [pattern, replacement] 0 := by
    simp [encode, Text.join]
  have he : Standard.entry "replace".toList (.only .text) false
      "Replace a literal substring or /regex/flags match.".toList Standard.replaceForm ∈
        (Standard.entries : List (Entry ν)) :=
    List.mem_of_getElem? (show Standard.entries[14]? = some _ from rfl)
  rw [ht, step_standard doc he hs hargs 0 rfl (.inl rfl)]
  simp only [Entry.made, List.map_cons, List.map_nil]
  rcases Standard.patternArgument (.text pattern : Value ν) with (_ | _) | p <;> rfl

theorem step_split (doc : Document ν) {delimiter : Text} (hdelimiter : delimiter ≠ []) :
    (Chain.resolveElement (.text ("split:".toList ++ delimiter ++ [':'])) .standard doc).map (·.2) =
      .ok (guarded (.only .text) (Standard.split (.text delimiter) none)) := by
  have hs : Signature.Positional [Standard.required "delimiter", Standard.optional "limit"] :=
    Standard.positional ["delimiter"] ["limit"]
  have hargs : Signature.Spells [Standard.required "delimiter", Standard.optional "limit"]
      [delimiter] :=
    ⟨Nat.le_refl 1, Nat.le_succ 1, List.forall_mem_nil _, fun h => absurd h (Nat.lt_irrefl 1)⟩
  have ht : "split:".toList ++ delimiter ++ [':'] = encode "split".toList [delimiter] 1 := by
    simp [encode, Text.join]
  have he : Standard.entry "split".toList (.only .text) false
      "Split on a literal delimiter, keeping at most limit pieces.".toList Standard.splitForm ∈
        (Standard.entries : List (Entry ν)) :=
    List.mem_of_getElem? (show Standard.entries[13]? = some _ from rfl)
  rw [ht, step_standard doc he hs hargs 1 rfl
    (.inr (.inr ⟨delimiter, List.mem_singleton_self _, hdelimiter⟩))]
  rfl

/-- Every registry that can be reached calls a factory with the arguments that were written behind
its name, with a colon for each parameter without an argument or, when the first argument has none
itself, without these. So do the standard transformations that take any text. -/
theorem resolve_encode (doc : Document ν) :
    (∀ (includesStandard : Bool) (ops : List (Registry.Operation ν)) (e : Entry ν) (s : Signature)
      (make : List (Value ν) → Except (Objection ν) (Document ν → Step ν)) (first : Text)
      (others : List Text),
      ((Registry.make includesStandard).run ops).get? e.name = some e → e.form = .factory s make →
      s.Positional → s.Spells (first :: others) →
      ((2 ≤ s.requiredCount ∨ s.arity = 1 ∨ ∃ a ∈ first :: others, a ≠ []) →
        Chain.resolveElement (.text (encode e.name (first :: others)
          (s.arity - (first :: others).length))) ((Registry.make includesStandard).run ops) doc =
        called e make (first :: others) (encode e.name (first :: others)
          (s.arity - (first :: others).length)) doc) ∧
      (':' ∉ first →
        Chain.resolveElement (.text (encode e.name (first :: others) 0))
          ((Registry.make includesStandard).run ops) doc =
        called e make (first :: others) (encode e.name (first :: others) 0) doc)) ∧
    (∀ selector : Text,
      (Chain.resolveElement (.text ("select-one:".toList ++ selector)) .standard doc).map (·.2) =
        .ok (guarded (.only .node) (Standard.selectOne selector doc))) ∧
    (∀ pattern replacement : Text, ':' ∉ replacement →
      (Chain.resolveElement (.text ("replace:".toList ++ pattern ++ ':' :: replacement)) .standard
        doc).map (·.2) =
        match Standard.patternArgument (.text pattern : Value ν) with
        | .ok p => .ok (guarded (.only .text) (Standard.replace p (.text replacement)))
        | .error (.refuse reason) =>
          .error (.rejected "replace".toList [.text pattern, .text replacement] reason)
        | .error (.fail f) => .error f) ∧
    ∀ delimiter : Text, delimiter ≠ [] →
      (Chain.resolveElement (.text ("split:".toList ++ delimiter ++ [':'])) .standard doc).map
        (·.2) = .ok (guarded (.only .text) (Standard.split (.text delimiter) none)) := by
  refine ⟨?_, step_selectOne doc, fun pattern _ => step_replace doc pattern,
    fun _ => step_split doc⟩
  intro includesStandard ops e s make first others hget hform hs hargs
  have hroom : (first :: others).length + (s.arity - (first :: others).length) = s.arity :=
    Nat.add_sub_of_le hargs.fits
  constructor
  · intro hkept
    refine resolveElement_encode includesStandard ops doc hget hform hs hargs (.inl hroom) ?_
    rcases hkept with htwo | hone | hne
    · exact .inr (.inl htwo)
    · left
      rw [hone, List.length_cons]
      omega
    · exact .inr (.inr hne)
  · intro huncut
    exact resolveElement_encode includesStandard ops doc hget hform hs hargs
      (.inr ⟨huncut, hargs.fits⟩) (.inl rfl)

def listingSignature : Signature :=
  [Standard.required "first", Standard.optional "second", Standard.optional "third"]

/-- A factory whose transformations yield its arguments. -/
def listing : Entry Markup.Cursor :=
  ⟨"listing".toList, .factory listingSignature fun args => .ok fun _ _ => pure (.list args), .any,
    false, [], false, .host "listing".toList⟩

theorem resolve_listing :
    (Chain.resolveElement (.text "listing:::x:".toList) ((Registry.make false).run
      [.register listing]) Page.document).map (fun p => (p.2 .absent).result) =
        .ok (.ok (.list [.text [':'], .text ['x']])) := by
  have hget : ((Registry.make false).run [.register listing]).get? listing.name = some listing :=
    rfl
  have hs : listingSignature.Positional := ⟨by decide, rfl, by decide⟩
  have hargs : listingSignature.Spells [[':'], ['x']] :=
    ⟨by decide, by decide, by decide, by decide⟩
  have hkept : ∃ a ∈ [[':'], ['x']], a ≠ [] := ⟨[':'], by decide, by decide⟩
  have hresolve := ((resolve_encode Page.document).1 false [.register listing] listing _ _ _ _
    hget rfl hs hargs).1 (.inr (.inr hkept))
  have ht : "listing:::x:".toList =
      encode listing.name [[':'], ['x']] (listingSignature.arity - [[':'], ['x']].length) := rfl
  rw [ht, hresolve]
  rfl

end Harvest.Descriptor
