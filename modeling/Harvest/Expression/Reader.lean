import Harvest.Expression.Basic
import Harvest.Expression.Matching
import Harvest.Number.Decimal
import Harvest.Text.Identifier

/-!
# Reading expressions

The grammar of regular expressions: choices of sequences, quantifiers, classes, groups with and
without names, references back, looks ahead and behind, atomic groups, conditionals and options in
line. Options that hold for the whole expression stand at its start, so each part is read with its
options already known. What the names of characters stand for is given from outside.

Text is taken in units of one code point, or of a backslash and the code point behind it, and the
unit behind the one in hand has always been seen: a lone backslash at the end is malformed even
where a count before it is too large. Limits of memory are left out: the depth to which parentheses
nest, and the number of groups and the size of the whole beyond what can be held.
-/

namespace Harvest.Expression

inductive ReadError where
  | malformed
  | tooManyRepeats
  | tooManyDigits (digits : Nat)
  | clashingOptions
  deriving DecidableEq, Repr

structure Options where
  ignoreCase : Bool
  multiline : Bool
  dotAll : Bool
  ascii : Bool
  verbose : Bool
  deriving DecidableEq, Repr

namespace Options

def plain : Options := ⟨false, false, false, false, false⟩

def folding (o : Options) : Folding :=
  if o.ignoreCase then (if o.ascii then .ascii else .full) else .none

def charSet (o : Options) (items : List Item) (negated : Bool) : CharSet :=
  ⟨items, negated, o.folding, o.ascii⟩

def codePoint (o : Options) (n : Nat) : Expression := .set (o.charSet [.range n n] false)

end Options

/-- What has been read so far: groups opened, their names, the widths of those closed, numbers that
conditionals refer to, the number of the first group inside the outermost look-behind, whether some
look-behind has no width that it can go back by, and whether the options ask for the rules of
Unicode and for an expression without repetitions. -/
structure Scope where
  opened : Nat
  names : List (Text × Nat)
  widths : List (Nat × Width)
  conditions : List Nat
  behind : Option Nat
  unfixedBehind : Bool
  unicode : Bool
  unrepeated : Bool

def Scope.start : Scope := ⟨0, [], [], [], none, false, false, false⟩

def Scope.isClosed (s : Scope) (n : Nat) : Bool := (s.widths.lookup n).isSome

/-- Inside a look-behind only groups closed before it can be referred to. -/
def Scope.visible (s : Scope) (n : Nat) : Bool :=
  match s.behind with
  | none => true
  | some first => s.isClosed n && decide (n < first)

/-- How the item before a quantifier takes it. -/
inductive Repeatable where
  | yes
  | anchor
  | quantified
  deriving DecidableEq

abbrev Items := List (Expression × Repeatable)

def Items.toExpression (items : Items) : Expression :=
  items.foldl (fun e p => match e with
    | .empty => p.1
    | e => .sequence p.1 e) .empty

def isHex (c : Char) : Bool :=
  c.isDigit || ('a' ≤ c && c ≤ 'f') || ('A' ≤ c && c ≤ 'F')

def isOctal (c : Char) : Bool := '0' ≤ c && c ≤ '7'

def hexValue (c : Char) : Nat :=
  if c.isDigit then c.toNat - 48 else c.toLower.toNat - 87

def ofHex (t : Text) : Nat := t.foldl (fun n c => 16 * n + hexValue c) 0

def ofOctal (t : Text) : Nat := t.foldl (fun n c => 8 * n + hexValue c) 0

def hexEscape (width : Nat) (r : Text) : Except ReadError (Nat × Text) :=
  let ds := (r.take width).takeWhile isHex
  if ds.length = width ∧ ofHex ds < 0x110000 then .ok (ofHex ds, r.drop width)
  else .error .malformed

/-- A name up to the given code point, which does not count behind a backslash. -/
def readUntil (stop : Char) : Text → Except ReadError (Text × Text)
  | [] | ['\\'] => .error .malformed
  | '\\' :: c :: r => (readUntil stop r).map fun p => ('\\' :: c :: p.1, p.2)
  | c :: r =>
    if c = stop then .ok ([], r) else (readUntil stop r).map fun p => (c :: p.1, p.2)

def readName (stop : Char) (t : Text) : Except ReadError (Text × Text) :=
  (readUntil stop t).bind fun p => if p.1.isEmpty then .error .malformed else .ok p

/-- The code point whose name stands in braces. -/
def nameEscape (names : CharacterNames) : Text → Except ReadError (Nat × Text)
  | '\x7b' :: r => (readName '\x7d' r).bind fun p =>
      match names p.1 with
      | some c => .ok (c.toNat, p.2)
      | none => .error .malformed
  | _ => .error .malformed

/-- The code point that a letter after a backslash stands for, in a class or out of it. -/
def namedEscape (c : Char) : Option Nat :=
  match c with
  | 'a' => some 7
  | 'f' => some 12
  | 'n' => some 10
  | 'r' => some 13
  | 't' => some 9
  | 'v' => some 11
  | '\\' => some 92
  | _ => none

def categoryEscape (c : Char) : Option Item :=
  match c with
  | 'd' => some (.category .digit false)
  | 'D' => some (.category .digit true)
  | 's' => some (.category .blank false)
  | 'S' => some (.category .blank true)
  | 'w' => some (.category .word false)
  | 'W' => some (.category .word true)
  | _ => none

section

variable (names : CharacterNames)

/-- A backslash and `c` inside a class, with the text after them. -/
def readClassEscape (c : Char) (r : Text) : Except ReadError (Item × Text) :=
  match namedEscape c, categoryEscape c with
  | some n, _ => .ok (.range n n, r)
  | none, some item => .ok (item, r)
  | none, none =>
    if c = 'b' then .ok (.range 8 8, r)
    else if c = 'x' then (hexEscape 2 r).map fun p => (.range p.1 p.1, p.2)
    else if c = 'u' then (hexEscape 4 r).map fun p => (.range p.1 p.1, p.2)
    else if c = 'U' then (hexEscape 8 r).map fun p => (.range p.1 p.1, p.2)
    else if c = 'N' then (nameEscape names r).map fun p => (.range p.1 p.1, p.2)
    else if isOctal c then
      let ds := c :: (r.take 2).takeWhile isOctal
      if ofOctal ds ≤ 0o377 then .ok (.range (ofOctal ds) (ofOctal ds), r.drop (ds.length - 1))
      else .error .malformed
    else if c.isDigit || c.isAlpha then .error .malformed
    else .ok (.range c.toNat c.toNat, r)

/-- One member of a class or one end of a range in it. -/
def readClassMember : Text → Except ReadError (Item × Text)
  | '\\' :: c :: r => readClassEscape names c r
  | ['\\'] | [] => .error .malformed
  | c :: r => .ok (.range c.toNat c.toNat, r)

def rangeOf : Item → Item → Except ReadError Item
  | .range a _, .range b _ => if b < a then .error .malformed else .ok (.range a b)
  | _, _ => .error .malformed

/-- The rest of a class up to its bracket, which is a member when it comes first. -/
def readClass : Nat → List Item → Text → Except ReadError (List Item × Text)
  | 0, _, _ => .error .malformed
  | fuel + 1, items, t =>
    if !items.isEmpty && t.head? = some ']' then .ok (items, t.drop 1)
    else do
      let (a, r) ← readClassMember names t
      match r with
      | '-' :: ']' :: r => .ok (items ++ [a, .range 45 45], r)
      | '-' :: r => do
        let (b, r) ← readClassMember names r
        let range ← rangeOf a b
        readClass fuel (items ++ [range]) r
      | r => readClass fuel (items ++ [a]) r

end

def readNumber (ds : Text) : Except ReadError Nat :=
  if Number.digitLimit < ds.length then .error (.tooManyDigits ds.length)
  else if 4294967295 ≤ Text.ofDigits ds then .error .tooManyRepeats
  else .ok (Text.ofDigits ds)

/-- Least and greatest count of the quantifier that a text starts with; none when an opening brace
starts no counter and so stands for itself. -/
def readQuantifier (c : Char) (r : Text) : Except ReadError (Option (Nat × Option Nat × Text)) :=
  match c with
  | '*' => .ok (some (0, none, r))
  | '+' => .ok (some (1, none, r))
  | '?' => .ok (some (0, some 1, r))
  | _ =>
    let low := r.takeWhile Char.isDigit
    let afterLow := r.dropWhile Char.isDigit
    let high := match afterLow with
      | ',' :: s => s.takeWhile Char.isDigit
      | _ => low
    let rest := match afterLow with
      | ',' :: s => s.dropWhile Char.isDigit
      | s => s
    match r, rest with
    | '\x7d' :: _, _ => .ok none
    | _, ['\x7d', '\\'] => .error .malformed
    | _, '\x7d' :: rest => do
      let least ← if low.isEmpty then pure 0 else readNumber low
      if high.isEmpty then return some (least, none, rest)
      let most ← readNumber high
      if most < least then throw .malformed
      return some (least, some most, rest)
    | _, _ => .ok none

/-- Applies a quantifier to the latest item. A following question mark makes it reluctant, a plus
sign makes it keep each round it has made. -/
def quantify (items : Items) (least : Nat) (most : Option Nat) (r : Text) :
    Except ReadError (Items × Text) :=
  match items with
  | (e, .yes) :: items =>
    match r with
    | '?' :: r => .ok ((.repeated least most false e, .quantified) :: items, r)
    | '+' :: r =>
      .ok ((.atomic (.repeated least most true (.atomic e)), .quantified) :: items, r)
    | r => .ok ((.repeated least most true e, .quantified) :: items, r)
  | _ => .error .malformed

/-- A number after a backslash is an octal code when it starts with zero or has three octal digits,
else it refers to a group. -/
def readReference (o : Options) (s : Scope) (c : Char) (r : Text) :
    Except ReadError (Expression × Text) :=
  if c = '0' then
    let ds := c :: (r.take 2).takeWhile isOctal
    .ok (o.codePoint (ofOctal ds), r.drop (ds.length - 1))
  else
    let ds := c :: (r.take 1).takeWhile Char.isDigit
    let r := r.drop (ds.length - 1)
    match ds, r with
    | [a, b], d :: rest =>
      if isOctal a && isOctal b && isOctal d then
        let n := ofOctal [a, b, d]
        if n ≤ 0o377 then .ok (o.codePoint n, rest) else .error .malformed
      else refer (Text.ofDigits ds) r
    | _, _ => refer (Text.ofDigits ds) r
where
  refer (n : Nat) (r : Text) : Except ReadError (Expression × Text) :=
    if s.isClosed n && s.visible n then .ok (.backreference n o.folding, r) else .error .malformed

/-- A backslash and `c` outside a class, with the text after them. -/
def readEscape (names : CharacterNames) (o : Options) (s : Scope) (c : Char) (r : Text) :
    Except ReadError ((Expression × Repeatable) × Text) :=
  match categoryEscape c, namedEscape c with
  | some item, _ => .ok ((.set (o.charSet [item] false), .yes), r)
  | none, some n => .ok ((o.codePoint n, .yes), r)
  | none, none =>
    if c = 'A' then .ok ((.anchor .textStart, .anchor), r)
    else if c = 'Z' then .ok ((.anchor .textEnd, .anchor), r)
    else if c = 'b' then .ok ((.anchor (.boundary o.ascii), .anchor), r)
    else if c = 'B' then .ok ((.anchor (.noBoundary o.ascii), .anchor), r)
    else if c = 'x' then (hexEscape 2 r).map fun p => ((o.codePoint p.1, .yes), p.2)
    else if c = 'u' then (hexEscape 4 r).map fun p => ((o.codePoint p.1, .yes), p.2)
    else if c = 'U' then (hexEscape 8 r).map fun p => ((o.codePoint p.1, .yes), p.2)
    else if c = 'N' then (nameEscape names r).map fun p => ((o.codePoint p.1, .yes), p.2)
    else if c.isDigit then (readReference o s c r).map fun p => ((p.1, .yes), p.2)
    else if c.isAlpha then .error .malformed
    else .ok ((o.codePoint c.toNat, .yes), r)

/-- Skips a comment, up to a parenthesis that is not escaped. -/
def skipComment : Text → Except ReadError Text
  | [] | ['\\'] => .error .malformed
  | ')' :: r => .ok r
  | '\\' :: _ :: r => skipComment r
  | _ :: r => skipComment r

/-- Skips to the end of a line, in an expression with free layout. -/
def skipLine : Text → Except ReadError Text
  | [] => .ok []
  | ['\\'] => .error .malformed
  | '\n' :: r => .ok r
  | '\\' :: _ :: r => skipLine r
  | _ :: r => skipLine r

def isLayout (c : Char) : Bool := c == ' ' || (9 ≤ c.toNat && c.toNat ≤ 13)

def isOptionLetter (c : Char) : Bool := "imsxaut".toList.contains c

/-- Options that cannot be turned off. -/
def isFixedOption (c : Char) : Bool := "aut".toList.contains c

def Options.turn (o : Options) (on : Bool) (letters : Text) : Options :=
  let set (c : Char) (b : Bool) := if letters.contains c then on else b
  { ignoreCase := set 'i' o.ignoreCase
    multiline := set 'm' o.multiline
    dotAll := set 's' o.dotAll
    verbose := set 'x' o.verbose
    ascii :=
      if letters.contains 'a' then true else if letters.contains 'u' then false else o.ascii }

/-- Options in line, from the letter or the minus sign on: those turned on and off, and whether they
hold for the whole expression. Only there can repetitions be ruled out. -/
def readOptions (t : Text) : Except ReadError (Text × Text × Bool × Text) := do
  let on := t.takeWhile isOptionLetter
  if on.contains 'a' && on.contains 'u' then throw .malformed
  match t.dropWhile isOptionLetter with
  | ')' :: r => if on.isEmpty then throw .malformed else return (on, [], true, r)
  | ':' :: r =>
    if on.isEmpty || on.contains 't' then throw .malformed else return (on, [], false, r)
  | '-' :: r =>
    let off := r.takeWhile isOptionLetter
    if off.isEmpty || on.contains 't' || off.any fun c => isFixedOption c || on.contains c then
      throw .malformed
    match r.dropWhile isOptionLetter with
    | ':' :: r => return (on, off, false, r)
    | _ => throw .malformed
  | _ => throw .malformed

/-- The number of a group. Code points 28 to 31 are no blanks here. -/
def groupNumber? (name : Text) : Option Nat :=
  if name.any fun c => decide (28 ≤ c.toNat) && decide (c.toNat ≤ 31) then none
  else
    match Number.integer? name with
    | some (.ofNat (n + 1)) => if n + 1 < 1073741823 then some (n + 1) else none
    | _ => none

/-- The group that a conditional asks about, by name or by number. -/
def readCondition (s : Scope) (name : Text) : Except ReadError (Nat × Scope) := do
  let (n, s) ← if Text.isIdentifier name then
      match s.names.lookup name with
      | some n => pure (n, s)
      | none => throw ReadError.malformed
    else
      match groupNumber? name with
      | some n => pure (n, { s with conditions := n :: s.conditions })
      | none => throw ReadError.malformed
  if s.visible n then return (n, s) else throw .malformed

/-- What opens after a parenthesis. -/
inductive Opening where
  | group (name : Option Text)
  | plain (o : Options)
  | atomic
  | look (behind negative : Bool)
  | conditional (name : Text)
  | backreference (name : Text)
  | comment
  | options (on : Text)

def readOpening (o : Options) : Text → Except ReadError (Opening × Text)
  | '?' :: 'P' :: '<' :: r => (readName '>' r).bind fun p =>
      if Text.isIdentifier p.1 then .ok (.group (some p.1), p.2) else .error .malformed
  | '?' :: 'P' :: '=' :: r => (readName ')' r).bind fun p =>
      if Text.isIdentifier p.1 then .ok (.backreference p.1, p.2) else .error .malformed
  | '?' :: ':' :: r => .ok (.plain o, r)
  | '?' :: '#' :: r => (skipComment r).map fun r => (.comment, r)
  | '?' :: '=' :: r => .ok (.look false false, r)
  | '?' :: '!' :: r => .ok (.look false true, r)
  | '?' :: '<' :: '=' :: r => .ok (.look true false, r)
  | '?' :: '<' :: '!' :: r => .ok (.look true true, r)
  | '?' :: '>' :: r => .ok (.atomic, r)
  | '?' :: '(' :: r => (readName ')' r).map fun p => (.conditional p.1, p.2)
  | '?' :: r => (readOptions r).map fun (on, off, whole, r) =>
      if whole then (.options on, r) else (.plain ((o.turn true on).turn false off), r)
  | r => .ok (.group none, r)

def closeParenthesis : Text → Except ReadError Text
  | ')' :: r => .ok r
  | _ => .error .malformed

/-- The greatest width of a look-behind. -/
def farthestBehind : Nat := 4294967295

/-- A look at what stands before or after a position; before it, the expression must have one
width, and not too great a one. -/
def lookAt (s : Scope) (behind negative : Bool) (e : Expression) : Expression × Scope :=
  if behind then
    let w := e.width s.widths
    if w.most = some w.least ∧ w.least ≤ farthestBehind then (.look (some w.least) negative e, s)
    else (.look (some w.least) negative e, { s with unfixedBehind := true })
  else (.look none negative e, s)

def openGroup (s : Scope) (name : Option Text) : Except ReadError Scope :=
  match name with
  | none => .ok { s with opened := s.opened + 1 }
  | some t =>
    if (s.names.lookup t).isSome then .error .malformed
    else .ok { s with opened := s.opened + 1, names := (t, s.opened + 1) :: s.names }

/-- The result of reading a part: the expression, the options in force after it, what has been read
of groups, and the rest of the text. -/
abbrev Reading := Except ReadError (Expression × Options × Scope × Text)

section

variable (names : CharacterNames)

mutual

/-- Choices between sequences. `whole` holds outside all parentheses, where options may change for
the rest of the expression at the very start. -/
def readChoices : Nat → Options → Bool → Scope → Text → Reading
  | 0, _, _, _, _ => .error .malformed
  | fuel + 1, o, whole, s, t => do
    let (a, o, s, r) ← readSequence fuel o whole s [] t
    match r with
    | '|' :: r =>
      let (b, _, s, r) ← readChoices fuel o false s r
      return (.choice a b, o, s, r)
    | r => return (a, o, s, r)

/-- A sequence of quantified items, the latest first in `items`. -/
def readSequence : Nat → Options → Bool → Scope → Items → Text → Reading
  | 0, _, _, _, _, _ => .error .malformed
  | fuel + 1, o, first, s, items, t =>
    match t with
    | [] => .ok (items.toExpression, o, s, [])
    | ['\\'] => .error .malformed
    | '\\' :: c :: r => do
      let (item, r) ← readEscape names o s c r
      readSequence fuel o first s (item :: items) r
    | c :: r =>
      if c = '|' || c = ')' then .ok (items.toExpression, o, s, c :: r)
      else if o.verbose && isLayout c then readSequence fuel o first s items r
      else if o.verbose && c = '#' then do
        let r ← skipLine r
        readSequence fuel o first s items r
      else if c = '[' then do
        let negated := r.head? = some '^'
        let body := if negated then r.drop 1 else r
        let (members, r) ← readClass names body.length [] body
        readSequence fuel o first s ((.set (o.charSet members negated), .yes) :: items) r
      else if c = '*' || c = '+' || c = '?' || c = '\x7b' then do
        match ← readQuantifier c r with
        | none => readSequence fuel o first s ((o.codePoint c.toNat, .yes) :: items) r
        | some (least, most, r) =>
          let (items, r) ← quantify items least most r
          readSequence fuel o first s items r
      else if c = '.' then
        let cs := if o.dotAll then o.charSet [] true else o.charSet [.range 10 10] true
        readSequence fuel o first s ((.set cs, .yes) :: items) r
      else if c = '^' then
        let a := if o.multiline then .lineStart else .textStart
        readSequence fuel o first s ((.anchor a, .anchor) :: items) r
      else if c = '$' then
        let a := if o.multiline then .lineEnd else .lastLineEnd
        readSequence fuel o first s ((.anchor a, .anchor) :: items) r
      else if c = '(' then do
        let (opening, r) ← readOpening o r
        match opening with
        | .comment => readSequence fuel o first s items r
        | .options on =>
          if !first || !items.isEmpty then throw .malformed
          let s := { s with
            unicode := s.unicode || on.contains 'u'
            unrepeated := s.unrepeated || on.contains 't' }
          let o := { o.turn true on with ascii := o.ascii || on.contains 'a' }
          readSequence fuel o first s items r
        | .backreference name =>
          match s.names.lookup name with
          | none => throw .malformed
          | some n =>
            if s.isClosed n && s.visible n then
              readSequence fuel o first s ((.backreference n o.folding, .yes) :: items) r
            else throw .malformed
        | .look behind negative =>
          let outer := s.behind
          let s := if behind && outer.isNone then { s with behind := some (s.opened + 1) } else s
          let (e, _, s, r) ← readChoices fuel o false s r
          let s := if behind && outer.isNone then { s with behind := none } else s
          let r ← closeParenthesis r
          let (e, s) := lookAt s behind negative e
          readSequence fuel o first s ((e, .yes) :: items) r
        | .conditional name =>
          let (n, s) ← readCondition s name
          let (a, _, s, r) ← readSequence fuel o false s [] r
          let (b, s, r) ← match r with
            | '|' :: r => do
              let (b, _, s, r) ← readSequence fuel o false s [] r
              pure (b, s, r)
            | r => pure (.empty, s, r)
          let r ← closeParenthesis r
          readSequence fuel o first s ((.conditional n a b, .yes) :: items) r
        | .atomic =>
          let (e, _, s, r) ← readChoices fuel o false s r
          let r ← closeParenthesis r
          readSequence fuel o first s ((.atomic e, .yes) :: items) r
        | .plain inner =>
          let (e, _, s, r) ← readChoices fuel inner false s r
          let r ← closeParenthesis r
          readSequence fuel o first s ((e, .yes) :: items) r
        | .group name =>
          let s ← openGroup s name
          let number := s.opened
          let (e, _, s, r) ← readChoices fuel o false s r
          let r ← closeParenthesis r
          let s := { s with widths := (number, e.width s.widths) :: s.widths }
          readSequence fuel o first s ((.group number e, .yes) :: items) r
      else readSequence fuel o first s ((o.codePoint c.toNat, .yes) :: items) r

end

/-- Reads a whole expression, with the options that hold for all of it. Each step consumes a code
point or opens a part, so the bound is never reached. -/
def readWhole (o : Options) (t : Text) : Except ReadError (Compiled × Options) := do
  let (e, o, s, r) ← readChoices names (4 * t.length + 8) o true Scope.start t
  if o.ascii && s.unicode then throw .clashingOptions
  if !r.isEmpty then throw .malformed
  if s.conditions.any fun n => decide (s.opened < n) then throw .malformed
  if s.unfixedBehind || s.unrepeated && repeats e then throw .malformed
  return (⟨e, s.opened⟩, o)

def read (o : Options) (t : Text) : Except ReadError Compiled := (readWhole names o t).map (·.1)

end

end Harvest.Expression
