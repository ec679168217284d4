import Harvest.Markup.Reference
import Harvest.Selector.Basic
import Harvest.Text.Blank
import Harvest.Text.Case

/-!
# Reading selectors

A selector text is read from left to right, one test or combinator at a time; space and comments
around it do not count. A combinator needs a selector on both sides. Only the lists that match
anything their members match may have empty places. Two constructs are known and refused in words of
their own; every other text that is no selector is malformed.
-/

namespace Harvest.Selector

open Text (isMarkupSpace)
open Markup (isAsciiDigit isAsciiLetter isHexDigit hexDigitValue replacementChar dropSemicolon)

inductive ReadError where
  | malformed
  | unsupported (construct : Text) (position : Nat)
  deriving DecidableEq, Repr

def ReadError.message : ReadError → Text
  | .malformed => "malformed selector"
  | .unsupported construct position =>
    construct ++ " found at position ".toList ++ Nat.toDigits 10 position

/-! ### Space, names and values -/

/-- Skips space and complete comments. -/
def skipSpace (t : Text) : Text :=
  match t with
  | [] => []
  | '/' :: '*' :: r =>
    match h : Text.cut? ['*', '/'] r with
    | none => t
    | some p =>
      have : p.2.length < r.length + 2 := by
        have := Text.length_of_cut? h
        omega
      skipSpace p.2
  | c :: r => if isMarkupSpace c then skipSpace r else c :: r
termination_by t.length

def dropSpace : Text → Text
  | '\r' :: '\n' :: r => r
  | c :: r => if isMarkupSpace c then r else c :: r
  | [] => []

/-- What a backslash escapes: a number of up to six digits with a space behind it, or any code point
but a line end; at the end of the text it stands for what is missing. -/
def readEscape? (r : Text) : Option (Char × Text) :=
  match (r.take 6).takeWhile isHexDigit with
  | [] =>
    match r with
    | [] => some (replacementChar, [])
    | c :: s => if c = '\n' ∨ c = '\r' ∨ c = '\x0c' then none else some (c, s)
  | digits =>
    let n := digits.foldl (fun n c => 16 * n + hexDigitValue c) 0
    some (if n ≠ 0 ∧ n.isValidChar then Char.ofNat n else replacementChar,
      dropSpace (r.drop digits.length))

def startsName (c : Char) : Bool := isAsciiLetter c || c == '_' || 0xA0 ≤ c.toNat

def continuesName (c : Char) : Bool := startsName c || isAsciiDigit c || c == '-'

/-- One code point of a name. -/
def readNameChar? (allowed : Char → Bool) : Text → Option (Char × Text)
  | [] => none
  | '\\' :: r => readEscape? r
  | c :: r => if allowed c then some (c, r) else none

/-- The rest of a name. The fuel is the length of the text. -/
def readNameTail : Nat → Text → Text × Text
  | 0, t => ([], t)
  | fuel + 1, t =>
    match readNameChar? continuesName t with
    | none => ([], t)
    | some (c, r) => (c :: (readNameTail fuel r).1, (readNameTail fuel r).2)

def readName? (t : Text) : Option (Text × Text) :=
  match t with
  | '-' :: '-' :: r => some ('-' :: '-' :: (readNameTail r.length r).1, (readNameTail r.length r).2)
  | '-' :: r => (start r).map fun p => ('-' :: p.1, p.2)
  | r => start r
where
  start (r : Text) : Option (Text × Text) :=
    (readNameChar? startsName r).map fun (c, s) =>
      (c :: (readNameTail s.length s).1, (readNameTail s.length s).2)

/-- The text up to the quote; a line end in it has to be escaped. The fuel is the length of the
text. -/
def readQuoted? (quote : Char) : Nat → Text → Option (Text × Text)
  | 0, _ | _, [] => none
  | fuel + 1, '\\' :: r =>
    match readEscape? r with
    | some (c, s) => (readQuoted? quote fuel s).map fun p => (c :: p.1, p.2)
    | none => readQuoted? quote fuel (dropSpace r)
  | fuel + 1, c :: r =>
    if c = quote then some ([], r)
    else if c = '\n' ∨ c = '\r' ∨ c = '\x0c' then none
    else (readQuoted? quote fuel r).map fun p => (c :: p.1, p.2)

def readValue? (t : Text) : Option (Text × Text) :=
  match t with
  | '"' :: r => readQuoted? '"' (r.length + 1) r
  | '\'' :: r => readQuoted? '\'' (r.length + 1) r
  | _ => readName? t

/-- A name with a namespace ahead of it, which counts for nothing, or without one. -/
def readPlainOrSpaced? (name? : Text → Option (Text × Text)) (t : Text) : Option (Text × Text) :=
  let ahead := match t with
    | '*' :: r => r
    | _ => ((readName? t).map (·.2)).getD t
  match ahead with
  | '|' :: r => (name? r).or (name? t)
  | _ => name? t

/-! ### Attributes -/

def comparison? : Text → Option (Comparison × Bool × Text)
  | '=' :: r => some (.equal, false, r)
  | '!' :: '=' :: r => some (.equal, true, r)
  | '^' :: '=' :: r => some (.initial, false, r)
  | '$' :: '=' :: r => some (.final, false, r)
  | '*' :: '=' :: r => some (.part, false, r)
  | '~' :: '=' :: r => some (.word, false, r)
  | '|' :: '=' :: r => some (.dashed, false, r)
  | _ => none

def closeBracket? (t : Text) : Option Text :=
  match skipSpace t with
  | ']' :: r => some r
  | _ => none

/-- The letter that tells whether case counts, and the closing bracket. -/
def readCase? (t : Text) : Option (Option Bool × Text) :=
  match skipSpace t with
  | ']' :: r => some (none, r)
  | c :: r =>
    if c = 'i' ∨ c = 'I' then (closeBracket? r).map fun s => (some true, s)
    else if c = 's' ∨ c = 'S' then (closeBracket? r).map fun s => (some false, s)
    else none
  | [] => none

/-- A test of an attribute; the text starts behind the bracket. Unless told otherwise, only the
attribute that says a type ignores case. -/
def readAttributed? (t : Text) : Option (Simple × Text) :=
  (readPlainOrSpaced? readName? (skipSpace t)).bind fun (name, r) =>
    match comparison? (skipSpace r) with
    | none => (closeBracket? r).map fun rest => (.attributed name none, rest)
    | some (comparison, negated, r) =>
      (readValue? (skipSpace r)).bind fun (value, r) =>
        (readCase? r).map fun (ignoreCase, rest) =>
          let ignoreCase := ignoreCase.getD (Text.lowerAscii name = "type".toList)
          let test := Simple.attributed name (some ⟨comparison, value, ignoreCase⟩)
          (if negated then .noneOf [.single [test]] else test, rest)

/-! ### Positions -/

def natOf (digits : Text) : Nat := digits.foldl (fun n c => 10 * n + (c.toNat - 48)) 0

/-- The term behind the variable of a progression, if there is one. -/
def readOffset (t : Text) : Int × Text :=
  match skipSpace t with
  | c :: r =>
    let s := skipSpace r
    let digits := s.takeWhile isAsciiDigit
    if (c = '+' ∨ c = '-') ∧ digits ≠ [] then
      (if c = '-' then -(natOf digits : Int) else natOf digits, s.dropWhile isAsciiDigit)
    else (0, t)
  | [] => (0, t)

def readProgression? (t : Text) : Option (Progression × Text) :=
  let (negative, r) := match t with
    | '-' :: r => (true, r)
    | '+' :: r => (false, r)
    | r => (false, r)
  let digits := r.takeWhile isAsciiDigit
  let size : Int := if digits = [] then 1 else natOf digits
  let n := if negative then -size else size
  match r.dropWhile isAsciiDigit with
  | 'n' :: s | 'N' :: s => some (⟨n, (readOffset s).1⟩, (readOffset s).2)
  | s =>
    if digits ≠ [] then some (⟨0, n⟩, s)
    else if Text.lowerAscii (t.take 4) = "even".toList then some (⟨2, 0⟩, t.drop 4)
    else if Text.lowerAscii (t.take 3) = "odd".toList then some (⟨2, 1⟩, t.drop 3)
    else none

def closeParenthesis? (t : Text) : Option Text :=
  match skipSpace t with
  | ')' :: r => some r
  | _ => none

/-- The progression in parentheses that a position test has; the text starts behind the opening
one. -/
def readNth? (sameName fromEnd : Bool) (t : Text) : Option (Simple × Text) :=
  (readProgression? (skipSpace t)).bind fun (positions, r) =>
    (closeParenthesis? r).map fun rest => (.nth positions sameName fromEnd, rest)

/-! ### Tests by name -/

def first (sameName fromEnd : Bool) : Simple := .nth ⟨0, 1⟩ sameName fromEnd

def never : Simple := .anyOf []

def plainTests? (name : Text) : Option (List Simple) :=
  match String.ofList name with
  | "empty" => some [.empty]
  | "root" => some [.root]
  | "first-child" => some [first false false]
  | "last-child" => some [first false true]
  | "only-child" => some [first false false, first false true]
  | "first-of-type" => some [first true false]
  | "last-of-type" => some [first true true]
  | "only-of-type" => some [first true false, first true true]
  | "active" | "current" | "focus" | "focus-visible" | "focus-within" | "future" | "host" | "hover"
  | "local-link" | "past" | "paused" | "playing" | "target" | "target-within" | "user-invalid"
  | "visited" => some [never]
  | _ => none

/-- Tests with parentheses around something other than a list of selectors. -/
def nthTest? (name t : Text) : Option (Simple × Text) :=
  match String.ofList name with
  | "nth-child" => readNth? false false t
  | "nth-last-child" => readNth? false true t
  | "nth-of-type" => readNth? true false t
  | "nth-last-of-type" => readNth? true true t
  | _ => none

/-- Tests with a list of selectors: whether the list may have empty places, and the test. -/
def listTest? (name : Text) : Option (Bool × (List Member → Simple)) :=
  match String.ofList name with
  | "not" => some (false, .noneOf)
  | "is" | "where" => some (true, .anyOf)
  | "matches" => some (false, .anyOf)
  | _ => none

/-! ### Combinators -/

inductive Joint where
  | comma
  | combinator (how : Combinator)

def joint? : Char → Option Joint
  | ',' => some .comma
  | '>' => some (.combinator .child)
  | '+' => some (.combinator .adjacent)
  | '~' => some (.combinator .sibling)
  | _ => none

/-- A joint with the space around it. A space is a joint itself unless a sign follows right behind
it. The fuel is the length of the text. -/
def readJoint? : Nat → Text → Option (Joint × Text)
  | 0, _ | _, [] => none
  | fuel + 1, c :: r =>
    match joint? c with
    | some j => some (j, skipSpace r)
    | none =>
      if isMarkupSpace c then
        let s := dropSpace (c :: r)
        if (s.head?.bind joint?).isSome then readJoint? fuel s
        else some (.combinator .descendant, skipSpace s)
      else
        match c :: r with
        | '/' :: '*' :: s =>
          match Text.cut? ['*', '/'] s with
          | some p => readJoint? fuel p.2
          | none => none
        | _ => none

/-! ### Lists of selectors -/

/-- The alternatives read so far, last first; what the selector being read is joined to; its tests,
last first; and whether it has begun. -/
structure Progress where
  alternatives : List Member
  left : Option (Member × Combinator)
  tests : List Simple
  begun : Bool

namespace Progress

def start : Progress := ⟨[], none, [], false⟩

def test (s : Simple) (p : Progress) : Progress := { p with tests := s :: p.tests, begun := true }

def member (p : Progress) : Member :=
  match p.left with
  | none => .single p.tests.reverse
  | some (left, how) => .after left how p.tests.reverse

def join (forgiving : Bool) (j : Joint) (p : Progress) : Except ReadError Progress :=
  match j with
  | .comma =>
    if p.begun then .ok ⟨p.member :: p.alternatives, none, [], false⟩
    else if forgiving then .ok ⟨.single [never] :: p.alternatives, none, [], false⟩
    else .error .malformed
  | .combinator how =>
    if p.begun then .ok ⟨p.alternatives, some (p.member, how), [], false⟩ else .error .malformed

def finish (forgiving : Bool) (p : Progress) : Except ReadError (List Member) :=
  if p.begun then .ok (p.member :: p.alternatives).reverse
  else if forgiving && (p.alternatives.isEmpty || p.left.isNone) then .ok p.alternatives.reverse
  else .error .malformed

end Progress

/-- A reading that starts at an at sign or a double colon, of what is known but refused. -/
def refused? (size : Nat) (t : Text) : Option ReadError :=
  let position := size - t.length
  match t with
  | ':' :: ':' :: r => (readName? r).map fun _ => .unsupported "Pseudo-element" position
  | '@' :: c :: r =>
    if c = 'p' ∨ c = 'P' then (readName? r).map fun _ => .unsupported "At-rules" position else none
  | _ => none

/-- One test that begins with a sign or a name, other than one with a list of selectors. -/
def readSimple? (t : Text) : Option (Simple × Text) :=
  match t with
  | '#' :: r => (readName? r).map fun p => (.identified p.1, p.2)
  | '.' :: r => (readName? r).map fun p => (.classed p.1, p.2)
  | '[' :: r => readAttributed? r
  | _ => none

/-- The name of an element, or nothing for all of them. -/
def readElement? (t : Text) : Option (List Simple × Text) :=
  readPlainOrSpaced? element? t |>.map fun (name, rest) =>
    (if name = ['*'] then [] else [.named name], rest)
where
  element? : Text → Option (Text × Text)
    | '*' :: r => some (['*'], r)
    | t => readName? t

/-- Reads alternatives to the end of the text, or to a closing parenthesis if they stand in
parentheses. Each step consumes text, so the length of it is fuel enough. `size` is the length of
the whole text. -/
def readList (size : Nat) :
    Nat → Bool → Bool → Progress → Text → Except ReadError (List Member × Text)
  | 0, _, _, _, _ => .error .malformed
  | fuel + 1, nested, forgiving, p, t =>
    match closeParenthesis? t with
    | some rest =>
      if nested && (p.begun || forgiving) then (p.finish forgiving).map fun xs => (xs, rest)
      else .error .malformed
    | none =>
      if skipSpace t = [] then
        if nested then .error .malformed else (p.finish forgiving).map fun xs => (xs, [])
      else
        match refused? size t with
        | some e => .error e
        | none =>
          match t with
          | ':' :: r =>
            match readName? r with
            | none => .error .malformed
            | some (name, rest) =>
              let name := Text.lowerAscii name
              match rest with
              | '(' :: inner =>
                match nthTest? name inner, listTest? name with
                | some (test, rest), _ => readList size fuel nested forgiving (p.test test) rest
                | none, some (inForgiving, make) => do
                  let (xs, rest) ← readList size fuel true inForgiving .start (skipSpace inner)
                  readList size fuel nested forgiving (p.test (make xs)) rest
                | none, none => .error .malformed
              | _ =>
                match plainTests? name with
                | some tests =>
                  readList size fuel nested forgiving (tests.foldl (fun p s => p.test s) p) rest
                | none => .error .malformed
          | t =>
            match readSimple? t with
            | some (test, rest) => readList size fuel nested forgiving (p.test test) rest
            | none =>
              match readElement? t with
              | some (tests, rest) =>
                if p.begun then .error .malformed
                else
                  readList size fuel nested forgiving { p with tests := tests, begun := true } rest
              | none =>
                match readJoint? t.length t with
                | some (j, rest) => do
                  readList size fuel nested forgiving (← p.join forgiving j) rest
                | none => .error .malformed

/-- The alternatives that a selector text denotes. A null character is read as what is missing. -/
def read (t : Text) : Except ReadError (List Member) :=
  let t := t.map fun c => if c = '\x00' then replacementChar else c
  (readList t.length (t.length + 1) false false .start (skipSpace t)).map (·.1)

end Harvest.Selector
