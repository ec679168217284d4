import Harvest.Expression.CharSet

/-!
# Regular expressions

The tree of an expression, and the least and greatest length of what it can match. The greatest
length is missing when it is unbounded. A look-behind needs an expression of one length.
-/

namespace Harvest

namespace Expression

inductive Anchor where
  | textStart
  | lineStart
  | textEnd
  | lastLineEnd
  | lineEnd
  | boundary (ascii : Bool)
  | noBoundary (ascii : Bool)
  deriving DecidableEq, Repr

end Expression

/-- Groups are numbered from one. A look at the text before a position knows the length of what it
looks at. -/
inductive Expression where
  | empty
  | set (s : Expression.CharSet)
  | sequence (a b : Expression)
  | choice (a b : Expression)
  | group (number : Nat) (e : Expression)
  | backreference (number : Nat) (folding : Expression.Folding)
  | anchor (a : Expression.Anchor)
  | look (behind : Option Nat) (negative : Bool) (e : Expression)
  | repeated (least : Nat) (most : Option Nat) (greedy : Bool) (e : Expression)
  | atomic (e : Expression)
  | conditional (number : Nat) (present missing : Expression)
  deriving DecidableEq, Repr

namespace Expression

structure Width where
  least : Nat
  most : Option Nat
  deriving DecidableEq, Repr

namespace Width

def zero : Width := ⟨0, some 0⟩

def one : Width := ⟨1, some 1⟩

def add (a b : Width) : Width :=
  ⟨a.least + b.least, a.most.bind fun m => b.most.map (m + ·)⟩

def join (a b : Width) : Width :=
  ⟨min a.least b.least, a.most.bind fun m => b.most.map (max m ·)⟩

def times (a : Width) (least : Nat) (most : Option Nat) : Width :=
  ⟨a.least * least,
    if a.most = some 0 ∨ most = some 0 then some 0 else a.most.bind fun m => most.map (m * ·)⟩

end Width

/-- The width of an expression, given the widths of the groups it refers back to. -/
def width (groups : List (Nat × Width)) : Expression → Width
  | .empty | .anchor _ | .look _ _ _ => .zero
  | .set _ => .one
  | .sequence a b => (width groups a).add (width groups b)
  | .choice a b => (width groups a).join (width groups b)
  | .group _ e | .atomic e => width groups e
  | .backreference number _ => (groups.lookup number).getD .zero
  | .repeated least most _ e => (width groups e).times least most
  | .conditional _ a b => (width groups a).join (width groups b)

/-- Whether some part is repeated, however often. -/
def repeats : Expression → Bool
  | .empty | .set _ | .backreference _ _ | .anchor _ => false
  | .repeated _ _ _ _ => true
  | .sequence a b | .choice a b | .conditional _ a b => repeats a || repeats b
  | .group _ e | .look _ _ e | .atomic e => repeats e

/-- The expression that matches exactly the given text. -/
def literal : Text → Expression
  | [] => .empty
  | c :: r => .sequence (.set (.exactly c)) (literal r)

end Expression

end Harvest
