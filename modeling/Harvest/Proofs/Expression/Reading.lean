import Harvest.Proofs.Expression.Parts

/-!
# The groups of an expression that was read

The parts of an expression open their groups one after the other. So the groups of an expression are
numbered from one in the order of their parentheses, each once, and their number is the number of
groups of the whole.
-/

namespace Harvest

namespace Expression

/-- The numbers of the groups, in the order of their parentheses. -/
def numbers : Expression → List Nat
  | .empty | .set _ | .backreference _ _ | .anchor _ => []
  | .sequence a b | .choice a b | .conditional _ a b => numbers a ++ numbers b
  | .group n e => n :: numbers e
  | .look _ _ e | .repeated _ _ _ e | .atomic e => numbers e

/-- Groups of these numbers are opened one after the other between two scopes. -/
def Opens (s : Scope) (ns : List Nat) (s' : Scope) : Prop :=
  s'.opened = s.opened + ns.length ∧ ns = List.range' (s.opened + 1) ns.length

theorem opens_nil {s s' : Scope} (h : s'.opened = s.opened) : Opens s [] s' := ⟨h, rfl⟩

theorem opens_singleton {s s' : Scope} (h : s'.opened = s.opened + 1) : Opens s [s'.opened] s' :=
  ⟨h, by rw [h]; rfl⟩

/-- Only the number of groups opened matters. -/
theorem Opens.of_opened {s₁ s₁' s₂ s₂' : Scope} {ns : List Nat} (h : Opens s₁ ns s₂)
    (h₁ : s₁.opened = s₁'.opened) (h₂ : s₂'.opened = s₂.opened) : Opens s₁' ns s₂' := by
  rw [Opens, h₂, ← h₁]
  exact h

theorem Opens.append {s s' s'' : Scope} {ns ms : List Nat} (h : Opens s ns s')
    (h' : Opens s' ms s'') : Opens s (ns ++ ms) s'' := by
  obtain ⟨hopened, hns⟩ := h
  obtain ⟨hopened', hms⟩ := h'
  constructor
  · rw [hopened', hopened, List.length_append, Nat.add_assoc]
  · have hnext : s.opened + 1 + ns.length = s'.opened + 1 := by omega
    rw [List.length_append, ← List.range'_append_1, ← hns, hnext, ← hms]

theorem reads_readReference (o : Options) (s : Scope) (c : Char) (r : Text) :
    Yields (Excess r) (fun p => p.2 <:+ r ∧ p.1.numbers = []) (readReference o s c r) := by
  have hrefer : ∀ n r', r' <:+ r →
      Yields (Excess r) (fun p => p.2 <:+ r ∧ p.1.numbers = []) (readReference.refer o s n r') := by
    intro n r' hr'
    rw [readReference.refer]
    split
    · exact ⟨hr', rfl⟩
    · exact nofun
  rw [readReference]
  split
  · exact ⟨List.drop_suffix _ r, rfl⟩
  · extract_lets ds r'
    have hr' : r' <:+ r := List.drop_suffix _ r
    clear_value r' ds
    split
    · rename_i a b d rest
      split
      · extract_lets n
        split
        · exact ⟨(List.suffix_cons d rest).trans hr', rfl⟩
        · exact nofun
      · exact hrefer _ _ hr'
    · exact hrefer _ _ hr'

variable {names : CharacterNames}

theorem reads_readEscape (o : Options) (s : Scope) (c : Char) (r : Text) :
    Yields (Excess r) (fun p => p.2 <:+ r ∧ p.1.1.numbers = []) (readEscape names o s c r) := by
  have hhex : ∀ width, Yields (Excess r) (fun p => p.2 <:+ r ∧ p.1.1.numbers = [])
      ((hexEscape width r).map fun p => ((o.codePoint p.1, Repeatable.yes), p.2)) :=
    fun width => (reads_hexEscape width r).map fun _ hp => ⟨hp, rfl⟩
  rw [readEscape]
  split
  · exact ⟨List.suffix_refl r, rfl⟩
  · exact ⟨List.suffix_refl r, rfl⟩
  · repeat' split
    · exact ⟨List.suffix_refl r, rfl⟩
    · exact ⟨List.suffix_refl r, rfl⟩
    · exact ⟨List.suffix_refl r, rfl⟩
    · exact ⟨List.suffix_refl r, rfl⟩
    · exact hhex 2
    · exact hhex 4
    · exact hhex 8
    · exact (reads_nameEscape r).map fun _ hp => ⟨hp, rfl⟩
    · exact (reads_readReference o s c r).map fun _ hp => hp
    · exact nofun
    · exact ⟨List.suffix_refl r, rfl⟩

theorem opened_readCondition (s : Scope) (name t : Text) :
    Yields (Excess t) (fun p => p.2.opened = s.opened) (readCondition s name) := by
  have hvisible : ∀ (n : Nat) (s' : Scope), s'.opened = s.opened →
      Yields (Excess t) (fun p => p.2.opened = s.opened)
        (if s'.visible n then pure (n, s') else throw ReadError.malformed) := by
    intro n s' hs'
    split
    · exact hs'
    · exact nofun
  rw [readCondition]
  split
  · split
    · exact hvisible _ _ rfl
    · exact nofun
  · split
    · exact hvisible _ _ rfl
    · exact nofun

theorem opened_openGroup (s : Scope) (name : Option Text) (t : Text) :
    Yields (Excess t) (fun s' => s'.opened = s.opened + 1) (openGroup s name) := by
  rw [openGroup.eq_def]
  split
  · exact rfl
  · split
    · exact nofun
    · exact rfl

theorem lookAt_keeps (s : Scope) (behind negative : Bool) (e : Expression) :
    (lookAt s behind negative e).1.numbers = e.numbers ∧
      (lookAt s behind negative e).2.opened = s.opened := by
  rw [lookAt]
  split
  · extract_lets w
    split
    · exact ⟨rfl, rfl⟩
    · exact ⟨rfl, rfl⟩
  · exact ⟨rfl, rfl⟩

/-- The numbers of the groups in a sequence that is still being read. -/
def Items.numbers (items : Items) : List Nat := items.reverse.flatMap fun p => p.1.numbers

theorem Items.numbers_cons (p : Expression × Repeatable) (items : Items) :
    Items.numbers (p :: items) = items.numbers ++ p.1.numbers := by
  rw [Items.numbers, List.reverse_cons, List.flatMap_append, List.flatMap_singleton]
  rfl

/-- Putting each item before what was put together puts its groups before the others. -/
theorem Items.numbers_foldl {f : Expression → Expression × Repeatable → Expression}
    (hf : ∀ e p, (f e p).numbers = p.1.numbers ++ e.numbers) (items : Items) (e : Expression) :
    (items.foldl f e).numbers = items.numbers ++ e.numbers := by
  induction items generalizing e with
  | nil => rfl
  | cons p items ih => rw [List.foldl_cons, ih, hf, Items.numbers_cons, List.append_assoc]

theorem Items.numbers_toExpression (items : Items) :
    items.toExpression.numbers = items.numbers := by
  rw [Items.toExpression, Items.numbers_foldl]
  · exact List.append_nil _
  · intro e p
    cases e <;> simp [Expression.numbers]

theorem reads_quantify (items : Items) (least : Nat) (most : Option Nat) (r : Text) :
    Yields (Excess r) (fun p => p.2 <:+ r ∧ p.1.numbers = items.numbers)
      (quantify items least most r) := by
  rw [quantify.eq_def]
  split
  · rename_i e items
    split
    · rename_i r
      exact ⟨List.suffix_cons '?' r, by simp [Items.numbers_cons, Expression.numbers]⟩
    · rename_i r
      exact ⟨List.suffix_cons '+' r, by simp [Items.numbers_cons, Expression.numbers]⟩
    · exact ⟨List.suffix_refl r, by simp [Items.numbers_cons, Expression.numbers]⟩
  · exact nofun

/-! ### Sequences and choices -/

/-- A part is read that opens its groups from a scope on, behind groups of given numbers. -/
def ReadsGroups (s : Scope) (before : List Nat) (t : Text) : Reading → Prop :=
  Yields (Excess t) fun q =>
    q.2.2.2 <:+ t ∧ ∃ ns, Opens s ns q.2.2.1 ∧ q.1.numbers = before ++ ns

theorem ReadsGroups.bind {β : Type} {B : β → Prop} {f : Expression × Options × Scope × Text →
    Except ReadError β} {s : Scope} {before : List Nat} {r t : Text} {x : Reading}
    (h : ReadsGroups s before r x) (hr : r <:+ t)
    (hf : ∀ e o s' r' ns, r' <:+ t → Opens s ns s' → e.numbers = before ++ ns →
      Yields (Excess t) B (f (e, o, s', r'))) : Yields (Excess t) B (x >>= f) := by
  have hexcess : Yields (Excess t) (fun q => q.2.2.2 <:+ r ∧ ∃ ns, Opens s ns q.2.2.1 ∧
      q.1.numbers = before ++ ns) x := h.mono fun _ he => he.mono hr.isInfix
  refine hexcess.bind ?_
  rintro ⟨e, o, s', r'⟩ ⟨hr', ns, hopens, hnumbers⟩
  exact hf e o s' r' ns (hr'.trans hr) hopens hnumbers

variable {fuel : Nat}

def ChoicesRead (names : CharacterNames) (fuel : Nat) : Prop :=
  ∀ o whole s t, ReadsGroups s [] t (readChoices names fuel o whole s t)

def SequenceRead (names : CharacterNames) (fuel : Nat) : Prop :=
  ∀ o first s items t,
    ReadsGroups s (Items.numbers items) t (readSequence names fuel o first s items t)

/-- A sequence goes on behind what was read, with the groups that were opened meanwhile. -/
theorem SequenceRead.goOn (h : SequenceRead names fuel) (o : Options) (first : Bool) {s s' : Scope}
    {items items' : Items} {r t : Text} {ns : List Nat} (hr : r <:+ t) (hopens : Opens s ns s')
    (hitems : Items.numbers items' = Items.numbers items ++ ns) :
    ReadsGroups s (Items.numbers items) t (readSequence names fuel o first s' items' r) := by
  rw [← bind_pure (readSequence names fuel o first s' items' r)]
  refine (h o first s' items' r).bind hr fun e o' s'' r' ms hr' hopens' hnumbers => ?_
  refine ⟨hr', ns ++ ms, hopens.append hopens', ?_⟩
  rw [hnumbers, hitems, List.append_assoc]

theorem SequenceRead.item (h : SequenceRead names fuel) (o : Options) (first : Bool) {s s' : Scope}
    {items : Items} {e : Expression} (k : Repeatable) {r t : Text} (hr : r <:+ t)
    (hopens : Opens s e.numbers s') :
    ReadsGroups s (Items.numbers items) t
      (readSequence names fuel o first s' ((e, k) :: items) r) :=
  h.goOn o first hr hopens (Items.numbers_cons (e, k) items)

theorem SequenceRead.plain (h : SequenceRead names fuel) (o : Options) (first : Bool) {s : Scope}
    {items : Items} {e : Expression} (he : e.numbers = []) (k : Repeatable) {r t : Text}
    (hr : r <:+ t) :
    ReadsGroups s (Items.numbers items) t
      (readSequence names fuel o first s ((e, k) :: items) r) := by
  refine h.item o first k hr ?_
  rw [he]
  exact opens_nil rfl

theorem SequenceRead.skip (h : SequenceRead names fuel) (o : Options) (first : Bool) {s s' : Scope}
    (hs : s'.opened = s.opened) {items items' : Items}
    (hitems : Items.numbers items' = Items.numbers items) {r t : Text} (hr : r <:+ t) :
    ReadsGroups s (Items.numbers items) t (readSequence names fuel o first s' items' r) := by
  refine h.goOn o first hr (opens_nil hs) ?_
  rw [hitems, List.append_nil]

theorem SequenceRead.escaped (h : SequenceRead names fuel) (o : Options) (first : Bool) (s : Scope)
    (items : Items) (c : Char) {r t : Text} (hr : r <:+ t) :
    ReadsGroups s (Items.numbers items) t (do
      let (item, r) ← readEscape names o s c r
      readSequence names fuel o first s (item :: items) r) := by
  refine Yields.bind ((reads_readEscape o s c r).mono fun _ he => he.mono hr.isInfix) ?_
  rintro ⟨⟨e, k⟩, r'⟩ ⟨hr', he⟩
  exact h.plain o first he k (hr'.trans hr)

theorem SequenceRead.quantified (h : SequenceRead names fuel) (o : Options) (first : Bool)
    (s : Scope) (items : Items) (c : Char) {r t : Text} (hr : r <:+ t) :
    ReadsGroups s (Items.numbers items) t (do
      match ← readQuantifier c r with
      | none => readSequence names fuel o first s ((o.codePoint c.toNat, .yes) :: items) r
      | some (least, most, r) =>
        let (items, r) ← quantify items least most r
        readSequence names fuel o first s items r) := by
  refine Yields.bind ((reads_readQuantifier c r).mono fun _ he => he.mono hr.isInfix) ?_
  rintro (_ | ⟨least, most, r'⟩) hcount
  · exact h.plain o first rfl .yes hr
  · have hr' : r' <:+ t := (hcount least most r' rfl).trans hr
    refine Yields.bind ((reads_quantify items least most r').mono
      fun _ he => he.mono hr'.isInfix) ?_
    rintro ⟨items', r''⟩ ⟨hr'', hitems⟩
    exact h.skip o first rfl hitems (hr''.trans hr')

/-- The groups of the condition's two branches come one after the other; the second may be left
out. -/
theorem SequenceRead.conditional (h : SequenceRead names fuel) (o : Options) (first : Bool)
    (s : Scope) (items : Items) (name : Text) {r t : Text} (hr : r <:+ t) :
    ReadsGroups s (Items.numbers items) t (do
      let (n, s) ← readCondition s name
      let (a, _, s, r) ← readSequence names fuel o false s [] r
      let (b, s, r) ← match r with
        | '|' :: r => do
          let (b, _, s, r) ← readSequence names fuel o false s [] r
          pure (b, s, r)
        | r => pure (.empty, s, r)
      let r ← closeParenthesis r
      readSequence names fuel o first s ((.conditional n a b, .yes) :: items) r) := by
  refine (opened_readCondition s name t).bind ?_
  rintro ⟨n, s'⟩ hs'
  change s'.opened = s.opened at hs'
  refine (h o false s' [] r).bind hr fun a o' s'' r' ns hr' hopens hnumbers => ?_
  have hclose : ∀ b s₂ r₂, r₂ <:+ t → Opens s'' b.numbers s₂ →
      ReadsGroups s (Items.numbers items) t (do
        let r ← closeParenthesis r₂
        readSequence names fuel o first s₂ ((.conditional n a b, .yes) :: items) r) := by
    intro b s₂ r₂ hr₂ hopens₂
    refine (reads_closeParenthesis r₂).bind hr₂ fun r₃ hr₃ => ?_
    refine h.item o first .yes hr₃ ?_
    rw [Expression.numbers, hnumbers]
    exact (hopens.of_opened hs' rfl).append hopens₂
  dsimp only
  split
  · rename_i r₁
    refine (h o false s'' [] r₁).bind ((List.suffix_cons '|' r₁).trans hr')
      fun b o₂ s₂ r₂ ms hr₂ hopens₂ hnumbers₂ => ?_
    exact hclose b s₂ r₂ hr₂ (by rw [hnumbers₂]; exact hopens₂)
  · exact hclose .empty s'' r' hr' (opens_nil rfl)

/-- What stands in parentheses is read, and then what stands behind them. -/
theorem ChoicesRead.bind_close {β : Type} {B : β → Prop}
    {k : Expression × Options × Scope × Text → Text → Except ReadError β}
    (h : ChoicesRead names fuel) (o : Options) (s : Scope) {r t : Text} (hr : r <:+ t)
    (hk : ∀ q r', r' <:+ t → Opens s q.1.numbers q.2.2.1 → Yields (Excess t) B (k q r')) :
    Yields (Excess t) B (do
      let q ← readChoices names fuel o false s r
      let r ← closeParenthesis q.2.2.2
      k q r) := by
  refine (h o false s r).bind hr fun e o' s' r' ns hr' hopens hnumbers => ?_
  refine (reads_closeParenthesis r').bind hr' fun r'' hr'' => ?_
  refine hk (e, o', s', r') r'' hr'' ?_
  rw [hnumbers]
  exact hopens

theorem choicesRead_succ (hsequence : SequenceRead names fuel) (hchoices : ChoicesRead names fuel) :
    ChoicesRead names (fuel + 1) := by
  intro o whole s t
  rw [readChoices]
  refine (hsequence o whole s [] t).bind (List.suffix_refl t)
    fun a o' s' r ns hr hopens hnumbers => ?_
  dsimp only
  split
  · rename_i r'
    refine (hchoices o' false s' r').bind ((List.suffix_cons '|' r').trans hr)
      fun b o'' s'' r'' ms hr'' hopens' hnumbers' => ?_
    refine ⟨hr'', ns ++ ms, hopens.append hopens', ?_⟩
    rw [Expression.numbers, hnumbers, hnumbers']
    rfl
  · exact ⟨hr, ns, hopens, hnumbers⟩

theorem sequenceRead_succ (hsequence : SequenceRead names fuel)
    (hchoices : ChoicesRead names fuel) : SequenceRead names (fuel + 1) := by
  intro o first s items t
  -- The cases are those of the reader, in the order in which it tries them.
  unfold readSequence
  split
  · exact ⟨List.suffix_refl [], [], opens_nil rfl, by
      rw [Items.numbers_toExpression, List.append_nil]⟩
  · exact nofun
  · rename_i c r
    exact hsequence.escaped o first s items c (List.suffix_append ['\\', c] r)
  · rename_i c r _ _
    have hr : r <:+ c :: r := List.suffix_cons c r
    refine .ite (fun _ => ?_) fun _ => ?_
    · exact ⟨List.suffix_refl (c :: r), [], opens_nil rfl, by
        rw [Items.numbers_toExpression, List.append_nil]⟩
    refine .ite (fun _ => hsequence.skip o first rfl rfl hr) fun _ => ?_
    refine .ite (fun _ => ?_) fun _ => ?_
    · refine (reads_skipLine r).bind hr fun r' hr' => ?_
      exact hsequence.skip o first rfl rfl hr'
    refine .ite (fun _ => ?_) fun _ => ?_
    · extract_lets negated body
      have hbody : body <:+ r := by
        simp only [body]
        split
        · exact List.drop_suffix 1 r
        · exact List.suffix_refl r
      clear_value body
      refine (reads_readClass body.length [] body).bind (hbody.trans hr) fun ⟨members, r'⟩ hr' => ?_
      exact hsequence.plain o first rfl .yes hr'
    refine .ite (fun _ => hsequence.quantified o first s items c hr) fun _ => ?_
    refine .ite (fun _ => hsequence.plain o first rfl .yes hr) fun _ => ?_
    refine .ite (fun _ => hsequence.plain o first rfl .anchor hr) fun _ => ?_
    refine .ite (fun _ => hsequence.plain o first rfl .anchor hr) fun _ => ?_
    refine .ite (fun _ => ?_) fun _ => hsequence.plain o first rfl .yes hr
    refine (reads_readOpening o r).bind hr ?_
    rintro ⟨opening, r'⟩ hr'
    change r' <:+ c :: r at hr'
    cases opening with
    | comment => exact hsequence.skip o first rfl rfl hr'
    | options on =>
      refine Yields.check nofun fun _ => ?_
      exact hsequence.skip _ first rfl rfl hr'
    | backreference name =>
      dsimp only
      split
      · exact nofun
      · exact .ite (fun _ => hsequence.plain o first rfl .yes hr') fun _ => nofun
    | look behind negative =>
      dsimp only
      refine hchoices.bind_close o _ hr' fun q r'' hr'' hopens => ?_
      refine hsequence.item o first .yes hr'' ?_
      rw [(lookAt_keeps _ behind negative q.1).1]
      refine hopens.of_opened ?_ ?_
      · split <;> rfl
      · rw [(lookAt_keeps _ behind negative q.1).2]
        split <;> rfl
    | conditional name => exact hsequence.conditional o first s items name hr'
    | atomic =>
      refine hchoices.bind_close o s hr' fun q r'' hr'' hopens => ?_
      exact hsequence.item o first .yes hr'' hopens
    | plain inner =>
      refine hchoices.bind_close inner s hr' fun q r'' hr'' hopens => ?_
      exact hsequence.item o first .yes hr'' hopens
    | group name =>
      refine (opened_openGroup s name (c :: r)).bind fun s' hs' => ?_
      refine hchoices.bind_close o s' hr' fun q r'' hr'' hopens => ?_
      exact hsequence.item o first .yes hr'' ((opens_singleton hs').append hopens)

theorem read_groups (fuel : Nat) : SequenceRead names fuel ∧ ChoicesRead names fuel := by
  induction fuel with
  | zero => exact ⟨fun _ _ _ _ _ => nofun, fun _ _ _ _ => nofun⟩
  | succ fuel ih => exact ⟨sequenceRead_succ ih.1 ih.2, choicesRead_succ ih.1 ih.2⟩

theorem reads_readWhole (names : CharacterNames) (o : Options) (t : Text) :
    Yields (Excess t) (fun q => q.1.expression.numbers = List.range' 1 q.1.groupCount)
      (readWhole names o t) := by
  rw [readWhole]
  refine ((read_groups _).2 o true Scope.start t).bind (List.suffix_refl t)
    fun e o' s r ns _ hopens hnumbers => ?_
  refine Yields.check nofun fun _ => ?_
  refine Yields.check nofun fun _ => ?_
  refine Yields.check nofun fun _ => ?_
  refine Yields.check nofun fun _ => ?_
  obtain ⟨hopened, hns⟩ := hopens
  change s.opened = 0 + ns.length at hopened
  change e.numbers = List.range' 1 s.opened
  rw [hnumbers, hopened, Nat.zero_add]
  exact hns

/-- The groups of an expression are numbered from one, in the order of their parentheses. -/
theorem numbers_of_readWhole {o o' : Options} {t : Text} {r : Compiled}
    (h : readWhole names o t = .ok (r, o')) :
    r.expression.numbers = List.range' 1 r.groupCount := by
  have hreads := reads_readWhole names o t
  rw [h] at hreads
  exact hreads

end Expression

end Harvest
