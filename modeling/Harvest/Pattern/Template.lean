import Harvest.Pattern.Basic

/-!
# Replacement templates

In a template `$&` stands for the match, `$1` to `$99` for its groups and `$$` for a dollar sign;
all else stands for itself. A template is read once, from left to right, and inserted text is not
read again. Two digits are one number when they follow a dollar sign, unless only the first alone
names a group.
-/

namespace Harvest

namespace Template

inductive Piece where
  | char (c : Char)
  | dollar
  | whole
  | group (first : Char) (second : Option Char)
  deriving DecidableEq, Repr

def pieces : Text → List Piece
  | '$' :: '$' :: r => .dollar :: pieces r
  | '$' :: '&' :: r => .whole :: pieces r
  | '$' :: c :: d :: r =>
    if Text.isDigit c then
      if Text.isDigit d then .group c (some d) :: pieces r else .group c none :: pieces (d :: r)
    else .char '$' :: pieces (c :: d :: r)
  | ['$', c] => if Text.isDigit c then [.group c none] else [.char '$', .char c]
  | c :: r => .char c :: pieces r
  | [] => []

/-- The text of group `n`, empty when the group took no part; none when there is no such group. -/
def groupText? (s : Array Char) (m : Match) (n : Nat) : Option Text :=
  if 0 < n then (m.groups[n - 1]?).map fun g => g.elim [] (Pattern.textOf s) else none

def Piece.expand (s : Array Char) (m : Match) : Piece → Text
  | .char c => [c]
  | .dollar => ['$']
  | .whole => Pattern.textOf s m.span
  | .group a none => (groupText? s m (Text.ofDigits [a])).getD ['$', a]
  | .group a (some b) =>
    match groupText? s m (Text.ofDigits [a, b]), groupText? s m (Text.ofDigits [a]) with
    | some t, _ => t
    | none, some t => t ++ [b]
    | none, none => ['$', a, b]

def expand (s : Array Char) (m : Match) (t : Text) : Text := (pieces t).flatMap (Piece.expand s m)

end Template

namespace Pattern

/-- The text from position `i` on, with each match replaced. -/
def stitch (s : Array Char) (template : Text) : Nat → List Match → Text
  | i, [] => slice s i s.size
  | i, m :: ms =>
    slice s i m.span.start ++ (Template.expand s m template ++ stitch s template m.span.stop ms)

def replace (p : Pattern) (t template : Text) : Text :=
  let s := t.toArray
  stitch s template 0 (p.occurrences s)

end Pattern

end Harvest
