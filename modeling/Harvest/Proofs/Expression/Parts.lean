import Harvest.Expression.Reader
import Harvest.Proofs.Traversal

/-!
# Reading the parts of an expression

What is read of an expression is its beginning, and what is left is its end. So whatever is read
later was in the expression from the start. In particular a count that is too large for any
repetition is a number that stands in the expression.
-/

namespace Harvest

namespace Expression

/-- A count that is too large for a repetition is a number that stands in the text. -/
def Excess (t : Text) (e : ReadError) : Prop :=
  e = .tooManyRepeats → ∃ digits, digits <:+: t ∧ (∀ c ∈ digits, c.isDigit = true) ∧
    4294967295 ≤ Text.ofDigits digits

theorem Excess.mono {t t' : Text} {e : ReadError} (h : Excess t e) (ht : t <:+: t') :
    Excess t' e := by
  intro he
  obtain ⟨digits, hdigits, hall, hlarge⟩ := h he
  exact ⟨digits, hdigits.trans ht, hall, hlarge⟩

/-- Reading leaves a part of the text at its end. -/
def Reads {α : Type} (t : Text) (rest : α → Text) : Except ReadError α → Prop :=
  Yields (Excess t) fun a => rest a <:+ t

namespace Reads

variable {α β : Type} {r t : Text} {rest : α → Text} {x : Except ReadError α}

theorem of_suffix (h : Reads r rest x) (hr : r <:+ t) : Reads t rest x := by
  cases x with
  | error e => exact Excess.mono h hr.isInfix
  | ok a => exact List.IsSuffix.trans h hr

/-- What is read next is read from what is left. -/
theorem bind {B : β → Prop} {f : α → Except ReadError β} (h : Reads r rest x) (hr : r <:+ t)
    (hf : ∀ a, rest a <:+ t → Yields (Excess t) B (f a)) : Yields (Excess t) B (x >>= f) :=
  Yields.bind (h.of_suffix hr) hf

end Reads

theorem reads_hexEscape (width : Nat) (r : Text) : Reads r Prod.snd (hexEscape width r) := by
  rw [hexEscape]
  split
  · exact List.drop_suffix width r
  · exact nofun

theorem reads_readUntil (stop : Char) (t : Text) : Reads t Prod.snd (readUntil stop t) := by
  fun_induction readUntil stop t with
  | case1 => exact nofun
  | case2 => exact nofun
  | case3 c r ih => exact (ih.of_suffix (List.suffix_append ['\\', c] r)).map fun _ hp => hp
  | case4 r _ _ => exact List.suffix_cons stop r
  | case5 c r _ _ _ ih => exact (ih.of_suffix (List.suffix_cons c r)).map fun _ hp => hp

theorem reads_readName (stop : Char) (t : Text) : Reads t Prod.snd (readName stop t) := by
  refine (reads_readUntil stop t).bind (List.suffix_refl t) fun p hp => ?_
  split
  · exact nofun
  · exact hp

section

variable {names : CharacterNames}

theorem reads_nameEscape (t : Text) : Reads t Prod.snd (nameEscape names t) := by
  rw [nameEscape.eq_def]
  split
  · rename_i r
    refine (reads_readName '\x7d' r).bind (List.suffix_cons '\x7b' r) fun p hp => ?_
    split
    · exact hp
    · exact nofun
  · exact nofun

theorem reads_readClassEscape (c : Char) (r : Text) :
    Reads r Prod.snd (readClassEscape names c r) := by
  have hhex : ∀ width, Reads r Prod.snd
      ((hexEscape width r).map fun p => (Item.range p.1 p.1, p.2)) :=
    fun width => (reads_hexEscape width r).map fun _ hp => hp
  have hoctal : ∀ ds : Text, Reads r Prod.snd
      (if ofOctal ds ≤ 0o377 then
        .ok (Item.range (ofOctal ds) (ofOctal ds), r.drop (ds.length - 1))
      else .error .malformed) := by
    intro ds
    split
    · exact List.drop_suffix _ r
    · exact nofun
  rw [readClassEscape]
  split
  · exact List.suffix_refl r
  · exact List.suffix_refl r
  · repeat' split
    · exact List.suffix_refl r
    · exact hhex 2
    · exact hhex 4
    · exact hhex 8
    · exact (reads_nameEscape r).map fun _ hp => hp
    · exact hoctal _
    · exact nofun
    · exact List.suffix_refl r

theorem reads_readClassMember (t : Text) : Reads t Prod.snd (readClassMember names t) := by
  rw [readClassMember.eq_def]
  split
  · rename_i c r
    exact (reads_readClassEscape c r).of_suffix (List.suffix_append ['\\', c] r)
  · exact nofun
  · exact nofun
  · rename_i c r _ _
    exact List.suffix_cons c r

theorem excess_rangeOf (t : Text) (a b : Item) :
    Yields (Excess t) (fun _ => True) (rangeOf a b) := by
  rw [rangeOf.eq_def]
  split
  · split
    · exact nofun
    · exact trivial
  · exact nofun

theorem reads_readClass (fuel : Nat) (items : List Item) (t : Text) :
    Reads t Prod.snd (readClass names fuel items t) := by
  induction fuel generalizing items t with
  | zero => exact nofun
  | succ fuel ih =>
    rw [readClass]
    split
    · exact List.drop_suffix 1 t
    · refine (reads_readClassMember t).bind (List.suffix_refl t) fun ⟨a, r⟩ hr => ?_
      dsimp only at hr ⊢
      split
      · rename_i r'
        exact (List.suffix_append ['-', ']'] r').trans hr
      · rename_i r' _
        refine (reads_readClassMember r').bind ((List.suffix_cons '-' r').trans hr)
          fun ⟨b, r''⟩ hr'' => ?_
        refine (excess_rangeOf t a b).bind fun range _ => ?_
        exact (ih _ r'').of_suffix hr''
      · exact (ih _ r).of_suffix hr

end

/-- Only a number that stands in the text can be too large. -/
theorem excess_readNumber {u t : Text} (hu : u <:+ t) :
    Yields (Excess t) (fun _ => True) (readNumber (u.takeWhile Char.isDigit)) := by
  rw [readNumber]
  split
  · exact nofun
  · split
    · rename_i hlarge
      have hinfix : u.takeWhile Char.isDigit <:+: t :=
        (List.takeWhile_prefix _).isInfix.trans hu.isInfix
      exact fun _ => ⟨_, hinfix, List.all_eq_true.1 List.all_takeWhile, hlarge⟩
    · exact trivial

theorem reads_readQuantifier (c : Char) (r : Text) :
    Yields (Excess r) (fun q => ∀ least most rest, q = some (least, most, rest) → rest <:+ r)
      (readQuantifier c r) := by
  have hfixed : ∀ (least : Nat) (most : Option Nat), Yields (Excess r)
      (fun q => ∀ least most rest, q = some (least, most, rest) → rest <:+ r)
      (.ok (some (least, most, r))) := by
    intro least most _ _ _ h
    cases h
    exact List.suffix_refl r
  rw [readQuantifier.eq_def]
  split
  · exact hfixed 0 none
  · exact hfixed 1 none
  · exact hfixed 0 (some 1)
  · extract_lets low afterLow high rest
    have hafter : afterLow <:+ r := List.dropWhile_suffix _
    have hlow : Yields (Excess r) (fun _ => True) (readNumber low) :=
      excess_readNumber (List.suffix_refl r)
    clear_value low afterLow
    have hhigh : Yields (Excess r) (fun _ => True) (readNumber high) := by
      simp only [high]
      split
      · rename_i u
        exact excess_readNumber ((List.suffix_cons ',' u).trans hafter)
      · exact hlow
    have hrest : rest <:+ r := by
      simp only [rest]
      split
      · rename_i u
        exact (List.dropWhile_suffix _).trans ((List.suffix_cons ',' u).trans hafter)
      · exact hafter
    clear_value high rest
    split
    · exact nofun
    · exact nofun
    · rename_i rest' _ _
      have hrest' : rest' <:+ r := (List.suffix_cons _ rest').trans hrest
      have hbounds : ∀ least : Nat, Yields (Excess r)
          (fun q => ∀ least most rest, q = some (least, most, rest) → rest <:+ r)
          (if high.isEmpty = true then pure (some (least, none, rest'))
          else do
            let most ← readNumber high
            if most < least then throw .malformed
            return some (least, some most, rest')) := by
        intro least
        split
        · rintro _ _ _ ⟨⟩
          exact hrest'
        · refine hhigh.bind fun most _ => ?_
          refine Yields.check nofun fun _ => ?_
          rintro _ _ _ ⟨⟩
          exact hrest'
      extract_lets bounds
      split
      · exact hbounds 0
      · exact hlow.bind fun least _ => hbounds least
    · exact nofun

theorem reads_skipComment (t : Text) : Reads t id (skipComment t) := by
  fun_induction skipComment t with
  | case1 => exact nofun
  | case2 => exact nofun
  | case3 r => exact List.suffix_cons ')' r
  | case4 c r ih => exact ih.of_suffix (List.suffix_append ['\\', c] r)
  | case5 c r _ _ _ ih => exact ih.of_suffix (List.suffix_cons c r)

theorem reads_skipLine (t : Text) : Reads t id (skipLine t) := by
  fun_induction skipLine t with
  | case1 => exact List.suffix_refl []
  | case2 => exact nofun
  | case3 r => exact List.suffix_cons '\n' r
  | case4 c r ih => exact ih.of_suffix (List.suffix_append ['\\', c] r)
  | case5 c r _ _ _ ih => exact ih.of_suffix (List.suffix_cons c r)

theorem reads_closeParenthesis (t : Text) : Reads t id (closeParenthesis t) := by
  rw [closeParenthesis.eq_def]
  split
  · rename_i r
    exact List.suffix_cons ')' r
  · exact nofun

theorem reads_readOptions (t : Text) : Reads t (fun p => p.2.2.2) (readOptions t) := by
  rw [readOptions]
  have hrest : t.dropWhile isOptionLetter <:+ t := List.dropWhile_suffix _
  refine Yields.check nofun fun _ => ?_
  split
  · rename_i r hr
    rw [hr] at hrest
    split
    · exact nofun
    · exact (List.suffix_cons ')' r).trans hrest
  · rename_i r hr
    rw [hr] at hrest
    split
    · exact nofun
    · exact (List.suffix_cons ':' r).trans hrest
  · rename_i r hr
    rw [hr] at hrest
    refine Yields.check nofun fun _ => ?_
    have hoff : r.dropWhile isOptionLetter <:+ t :=
      (List.dropWhile_suffix _).trans ((List.suffix_cons '-' r).trans hrest)
    split
    · rename_i r' hr'
      rw [hr'] at hoff
      exact (List.suffix_cons ':' r').trans hoff
    · exact nofun
  · exact nofun

theorem reads_readOpening (o : Options) (t : Text) : Reads t Prod.snd (readOpening o t) := by
  rw [readOpening.eq_def]
  split
  · rename_i r
    refine (reads_readName '>' r).bind (List.suffix_append ['?', 'P', '<'] r) fun p hp => ?_
    split
    · exact hp
    · exact nofun
  · rename_i r
    refine (reads_readName ')' r).bind (List.suffix_append ['?', 'P', '='] r) fun p hp => ?_
    split
    · exact hp
    · exact nofun
  · rename_i r
    exact List.suffix_append ['?', ':'] r
  · rename_i r
    exact ((reads_skipComment r).of_suffix (List.suffix_append ['?', '#'] r)).map fun _ hr => hr
  · rename_i r
    exact List.suffix_append ['?', '='] r
  · rename_i r
    exact List.suffix_append ['?', '!'] r
  · rename_i r
    exact List.suffix_append ['?', '<', '='] r
  · rename_i r
    exact List.suffix_append ['?', '<', '!'] r
  · rename_i r
    exact List.suffix_append ['?', '>'] r
  · rename_i r
    exact ((reads_readName ')' r).of_suffix (List.suffix_append ['?', '('] r)).map fun _ hp => hp
  · rename_i r _ _ _ _ _ _ _ _ _ _
    refine ((reads_readOptions r).of_suffix (List.suffix_cons '?' r)).map fun p hp => ?_
    dsimp only
    split
    · exact hp
    · exact hp
  · exact List.suffix_refl t

end Expression

end Harvest
