import Harvest.Text.Blank
import Harvest.Text.Case
import Harvest.Text.Digit
import Harvest.Text.Word

/-!
# Sets of code points

A set is a list of ranges and classes, possibly complemented. When case is ignored, a code point
belongs to the set if one of its case variants does: the code points that share its lower form or a
sibling of that.
-/

namespace Harvest.Expression

inductive CharClass where
  | digit
  | blank
  | word
  deriving DecidableEq, Repr

inductive Item where
  | range (first last : Nat)
  | category (c : CharClass) (negated : Bool)
  deriving DecidableEq, Repr

inductive Folding where
  | none
  | ascii
  | full
  deriving DecidableEq, Repr

structure CharSet where
  items : List Item
  negated : Bool
  folding : Folding
  ascii : Bool
  deriving DecidableEq, Repr

def CharClass.contains (k : CharClass) (ascii : Bool) (c : Char) : Bool :=
  if ascii then
    match k with
    | .digit => c.isDigit
    | .blank => c == ' ' || (9 ≤ c.toNat && c.toNat ≤ 13)
    | .word => c.isAlphanum || c == '_'
  else
    match k with
    | .digit => Text.isDigit c
    | .blank => Text.isBlank c
    | .word => Text.isWord c

/-- The code point that stands for all case variants of `c`. -/
def Folding.representative : Folding → Char → Nat
  | .none, c => c.toNat
  | .ascii, c => c.toLower.toNat
  | .full, c => Text.lowerCode c.toNat

/-- All code points that count as `c`. -/
def Folding.variants (f : Folding) (c : Char) : List Nat :=
  let n := f.representative c
  match f with
  | .none => [n]
  | .ascii => if 97 ≤ n ∧ n ≤ 122 then [n, n - 32] else [n]
  | .full => (n :: Text.siblingCodes n).flatMap fun x => x :: Text.raisedCodes x

namespace CharSet

def contains (s : CharSet) (c : Char) : Bool :=
  let variants := s.folding.variants c
  let lowered := Char.ofNat (s.folding.representative c)
  let found := s.items.any fun
    | .range first last => variants.any fun n => decide (first ≤ n) && decide (n ≤ last)
    | .category k negated => k.contains s.ascii lowered != negated
  found != s.negated

/-- The set of one code point, compared as it stands. -/
def exactly (c : Char) : CharSet := ⟨[.range c.toNat c.toNat], false, .none, false⟩

theorem contains_exactly (c d : Char) : (exactly c).contains d = decide (d = c) := by
  have h : (c.toNat ≤ d.toNat ∧ d.toNat ≤ c.toNat) ↔ d = c := by
    constructor
    · intro h
      exact Char.ext (UInt32.toNat_inj.1 (Nat.le_antisymm h.2 h.1))
    · rintro rfl
      exact ⟨Nat.le_refl _, Nat.le_refl _⟩
  simp only [contains, exactly, Folding.variants, Folding.representative, List.any_cons,
    List.any_nil, Bool.or_false, Bool.bne_false]
  rw [← Bool.decide_and]
  exact decide_eq_decide.2 h

end CharSet

end Harvest.Expression
