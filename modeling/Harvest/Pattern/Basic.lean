import Harvest.Expression.Reader

/-!
# Patterns

A pattern argument is an expression between slashes with flags behind it, or else a plain text that
matches itself. The last slash ends the expression. Four flags exist: `g` asks for every match and
not only the first, `y` for matches that start exactly where the scan stands, `i` ignores case, and
`m` lets anchors match at line ends.
-/

namespace Harvest

structure Pattern where
  compiled : Compiled
  everywhere : Bool
  sticky : Bool
  ignoresCase : Bool
  multiline : Bool
  deriving DecidableEq, Repr

namespace Pattern

def isFlag (c : Char) : Bool := c == 'g' || c == 'i' || c == 'm' || c == 'y'

/-- Body and flags of an expression between slashes. -/
def splitSlashes? : Text → Option (Text × Text)
  | '/' :: r =>
    let flags := (r.reverse.takeWhile (· != '/')).reverse
    match r.reverse.dropWhile (· != '/') with
    | _ :: body =>
      if flags.length ≤ 4 ∧ flags.all isFlag then some (body.reverse, flags) else none
    | [] => none
  | _ => none

def isSlashed (t : Text) : Bool := (splitSlashes? t).isSome

def optionsOf (flags : Text) : Expression.Options :=
  { Expression.Options.plain with
    ignoreCase := flags.contains 'i'
    multiline := flags.contains 'm' }

/-- The pattern that matches a text as it stands. -/
def plain (t : Text) : Pattern := ⟨⟨Expression.literal t, 0⟩, false, false, false, false⟩

def read (names : CharacterNames) (t : Text) : Except Expression.ReadError Pattern :=
  match splitSlashes? t with
  | none => .ok (plain t)
  | some (body, flags) => (Expression.readWhole names (optionsOf flags) body).map fun (r, o) =>
      ⟨r, flags.contains 'g', flags.contains 'y', o.ignoreCase, o.multiline⟩

/-- The next match from position `i` on. -/
def next? (p : Pattern) (s : Array Char) (i : Nat) : Option Match :=
  if p.sticky then p.compiled.matchAt s i else p.compiled.search s i

/-- Where the scan goes on after a match: behind it, and one further when it is empty. -/
def resume (m : Match) : Nat := if m.span.start < m.span.stop then m.span.stop else m.span.stop + 1

/-- The matches from position `i` on. The scan moves on by at least one position each time, so
`fuel` need not exceed the number of positions left. -/
def scan (p : Pattern) (s : Array Char) : Nat → Nat → List Match
  | 0, _ => []
  | fuel + 1, i =>
    if i ≤ s.size then
      match p.next? s i with
      | none => []
      | some m => m :: if p.everywhere then scan p s fuel (resume m) else []
    else []

def occurrences (p : Pattern) (s : Array Char) : List Match := p.scan s (s.size + 1) 0

def slice (s : Array Char) (start stop : Nat) : Text := (s.extract start stop).toList

def textOf (s : Array Char) (a : Span) : Text := slice s a.start a.stop

/-- The first match and its groups, or all matches of a pattern that asks for every one. -/
def match? (p : Pattern) (t : Text) : Option (List (Option Text)) :=
  let s := t.toArray
  match p.occurrences s with
  | [] => none
  | m :: ms =>
    if p.everywhere then some ((m :: ms).map fun m => some (textOf s m.span))
    else some (some (textOf s m.span) :: m.groups.map (·.map (textOf s)))

end Pattern

end Harvest
