import Harvest.Expression.Basic

/-!
# Matching by backtracking

An expression is matched at a position of a text in order of preference: alternatives from left to
right, greedy repetitions with as many rounds as possible first. What follows the expression is a
continuation, so an alternative is given up only when the rest of the whole expression fails. A
repetition that has made no progress in a round ends there.

What an abandoned alternative has captured is always undone, also within a repetition that keeps its
rounds, and a condition inside the group that it asks about sees what an earlier round has captured.
-/

namespace Harvest

structure Span where
  start : Nat
  stop : Nat
  deriving DecidableEq, Repr

namespace Expression

/-- Spans of the groups matched so far, the latest first. -/
abbrev Captures := List (Nat × Span)

abbrev Continuation := Nat → Captures → Option (Nat × Captures)

def isWordAt (s : Array Char) (ascii : Bool) (i : Nat) : Bool :=
  match s[i]? with
  | none => false
  | some c => CharClass.word.contains ascii c

def changesAt (s : Array Char) (ascii : Bool) (i : Nat) : Bool :=
  (decide (0 < i) && isWordAt s ascii (i - 1)) != isWordAt s ascii i

/-- In an empty text there is neither a boundary nor a position that is none. -/
def Anchor.holds (s : Array Char) (i : Nat) : Anchor → Bool
  | .textStart => i == 0
  | .lineStart => i == 0 || s[i - 1]? == some '\n'
  | .textEnd => i == s.size
  | .lastLineEnd => i == s.size || (i + 1 == s.size && s[i]? == some '\n')
  | .lineEnd => i == s.size || s[i]? == some '\n'
  | .boundary ascii => s.size != 0 && changesAt s ascii i
  | .noBoundary ascii => s.size != 0 && !changesAt s ascii i

/-- Whether the text at `i` repeats the `n` code points from `j` on. -/
def repeatsAt (s : Array Char) (f : Folding) : Nat → Nat → Nat → Bool
  | _, _, 0 => true
  | i, j, n + 1 =>
    match s[i]?, s[j]? with
    | some c, some d => f.representative c == f.representative d && repeatsAt s f (i + 1) (j + 1) n
    | _, _ => false

/-- The number of code points from `i` on that lie in the set, at most `fuel`. -/
def runLength (s : Array Char) (cs : CharSet) : Nat → Nat → Nat
  | 0, _ => 0
  | fuel + 1, i =>
    match s[i]? with
    | none => 0
    | some c => if cs.contains c then runLength s cs fuel (i + 1) + 1 else 0

/-- Tries the continuation at the positions `i + n`, `i + n - 1`, down to `i + least`. -/
def fromLongest (i least : Nat) (c : Captures) (k : Continuation) : Nat → Option (Nat × Captures)
  | 0 => if least = 0 then k i c else none
  | n + 1 =>
    if n + 1 < least then none
    else match k (i + (n + 1)) c with
      | some r => some r
      | none => fromLongest i least c k n

/-- Tries the continuation at the positions `i`, `i + 1`, and so on, `n` of them. -/
def fromShortest (c : Captures) (k : Continuation) : Nat → Nat → Option (Nat × Captures)
  | 0, i => k i c
  | n + 1, i =>
    match k i c with
    | some r => some r
    | none => fromShortest c k n (i + 1)

/-- Rounds of a repetition. `done` counts them, and `last` is the position where the latest optional
round began. -/
def rounds (body : Nat → Captures → Continuation → Option (Nat × Captures)) (least : Nat)
    (most : Option Nat) (greedy : Bool) (k : Continuation) :
    Nat → Nat → Option Nat → Nat → Captures → Option (Nat × Captures)
  | 0, _, _, _, _ => none
  | fuel + 1, done, last, i, c =>
    if done < least then body i c (rounds body least most greedy k fuel (done + 1) last)
    else if most.all (done < ·) && last != some i then
      if greedy then
        match body i c (rounds body least most greedy k fuel (done + 1) (some i)) with
        | some r => some r
        | none => k i c
      else
        match k i c with
        | some r => some r
        | none => body i c (rounds body least most greedy k fuel (done + 1) (some i))
    else k i c

def run (s : Array Char) : Expression → Nat → Captures → Continuation → Option (Nat × Captures)
  | .empty, i, c, k => k i c
  | .set cs, i, c, k =>
    match s[i]? with
    | some ch => if cs.contains ch then k (i + 1) c else none
    | none => none
  | .sequence a b, i, c, k => run s a i c fun j d => run s b j d k
  | .choice a b, i, c, k =>
    match run s a i c k with
    | some r => some r
    | none => run s b i c k
  | .group n e, i, c, k => run s e i c fun j d => k j ((n, ⟨i, j⟩) :: d)
  | .backreference n f, i, c, k =>
    match c.lookup n with
    | some g =>
      if repeatsAt s f i g.start (g.stop - g.start) then k (i + (g.stop - g.start)) c else none
    | none => none
  | .anchor a, i, c, k => if a.holds s i then k i c else none
  | .look none negative e, i, c, k =>
    match run s e i c fun j d => some (j, d) with
    | some r => if negative then none else k i r.2
    | none => if negative then k i c else none
  | .look (some width) negative e, i, c, k =>
    if i < width then (if negative then k i c else none)
    else
      match run s e (i - width) c fun j d => some (j, d) with
      | some r => if negative then none else k i r.2
      | none => if negative then k i c else none
  | .repeated least most greedy (.set cs), i, c, k =>
    let room := s.size - i
    if greedy then fromLongest i least c k (runLength s cs (most.elim room (min room)) i)
    else
      let n := runLength s cs (most.elim room (min room)) i
      if n < least then none else fromShortest c k (n - least) (i + least)
  | .repeated least most greedy e, i, c, k =>
    rounds (run s e) least most greedy k (least + (s.size - i) + 2) 0 none i c
  | .atomic e, i, c, k =>
    match run s e i c fun j d => some (j, d) with
    | some r => k r.1 r.2
    | none => none
  | .conditional n present missing, i, c, k =>
    if (c.lookup n).isSome then run s present i c k else run s missing i c k

end Expression

/-- A match of an expression: where it is, and where each of its groups is when it took part. -/
structure Match where
  span : Span
  groups : List (Option Span)
  deriving DecidableEq, Repr

/-- An expression with the number of its groups. -/
structure Compiled where
  expression : Expression
  groupCount : Nat
  deriving DecidableEq, Repr

namespace Compiled

/-- The match that starts exactly at `i`. -/
def matchAt (r : Compiled) (s : Array Char) (i : Nat) : Option Match :=
  (r.expression.run s i [] fun j c => some (j, c)).map fun p =>
    ⟨⟨i, p.1⟩, (List.range r.groupCount).map fun n => p.2.lookup (n + 1)⟩

/-- The match with the least start from `i` on, trying `n + 1` positions. -/
def searchFrom (r : Compiled) (s : Array Char) : Nat → Nat → Option Match
  | 0, i => r.matchAt s i
  | n + 1, i =>
    match r.matchAt s i with
    | some m => some m
    | none => searchFrom r s n (i + 1)

def search (r : Compiled) (s : Array Char) (i : Nat) : Option Match :=
  if i ≤ s.size then searchFrom r s (s.size - i) i else none

end Compiled

end Harvest
