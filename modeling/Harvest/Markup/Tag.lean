import Harvest.Markup.Reference
import Harvest.Text.Case

/-!
# Tags

Reading one start tag. Names may hold almost anything. An attribute begins behind a quote, a blank
or a slash; its value may be quoted or bare, and a quote that is never closed belongs to the next
name. Slashes between attributes mean nothing, and one right before the end closes the element.
-/

namespace Harvest.Markup

inductive TagReading where
  | incomplete
  | junk (content rest : Text)
  | tag (name : Text) (attributes : List (Text × Option Text)) (closed : Bool) (rest : Text)

/-- What may follow the letter that a tag name starts with. -/
def isTagChar (c : Char) : Bool :=
  !Text.isMarkupSpace c && c != '/' && c != '>' && c != '\x00'

def startsAttribute (before : Char) : Bool :=
  before == '"' || before == '\'' || before == '/' || Text.isBlank before

/-- Skips blanks, and slashes that do not end the tag. The code point right before the rest comes
with it. -/
def skipGap (before : Char) : Text → Char × Text
  | [] => (before, [])
  | '/' :: '>' :: r => (before, '/' :: '>' :: r)
  | c :: r => if c = '/' || Text.isBlank c then skipGap c r else (before, c :: r)

/-- The value behind equals signs, the code point that it ends with, and the rest. -/
def readValue? (t : Text) : Option (Text × Char × Text) :=
  match t.dropWhile Text.isBlank with
  | '=' :: r =>
    let afterSigns := r.dropWhile (· == '=')
    match afterSigns.dropWhile Text.isBlank with
    | [] => some ([], '=', [])
    | c :: body =>
      if c = '"' ∨ c = '\'' then
        match Text.cut? [c] body with
        | some (value, rest) => some (value, c, rest)
        | none =>
          if afterSigns.head?.any Text.isBlank then some ([], ' ', c :: body)
          else if r.head? = some '=' then some (bare ('=' :: c :: body))
          else none
      else some (bare (c :: body))
  | _ => none
where
  bare (t : Text) : Text × Char × Text :=
    let p := t.span fun c => c != '>' && !Text.isBlank c
    (p.1, (p.1.getLast?).getD '=', p.2)

/-- An attribute at the start of a text: name, value, the code point that it ends with and the
rest. -/
def readAttribute? (before : Char) (t : Text) : Option (Text × Option Text × Char × Text) :=
  match t with
  | [] => none
  | c :: r =>
    if startsAttribute before && !Text.isBlank c && c != '/' && c != '>' then
      let p := r.span fun c => !Text.isBlank c && c != '/' && c != '=' && c != '>'
      match readValue? p.2 with
      | some (value, last, rest) => some (c :: p.1, some value, last, rest)
      | none => some (c :: p.1, none, (p.1.getLast?).getD c, p.2)
    else none

/-- All attributes from here on, and what follows them. An attribute is not empty, so the fuel need
not exceed the length of the text. -/
def readAttributes : Nat → Char → Text → List (Text × Option Text) × Text
  | 0, _, t => ([], t)
  | fuel + 1, before, t =>
    match readAttribute? before t with
    | none => ([], t)
    | some (name, value, last, rest) =>
      let next := skipGap last rest
      let others := readAttributes fuel next.1 next.2
      ((Text.lower name, value) :: others.1, others.2)

/-- Reads a tag whose name starts with `c`; the text starts behind it. -/
def readTag (fuel : Nat) (c : Char) (t : Text) : TagReading :=
  let p := t.span isTagChar
  let next := skipGap ((p.1.getLast?).getD c) p.2
  let q := readAttributes fuel next.1 next.2
  match q.2 with
  | '>' :: r => .tag (Text.lower (c :: p.1)) q.1 false r
  | '/' :: '>' :: r => .tag (Text.lower (c :: p.1)) q.1 true r
  | [] => .incomplete
  | d :: r =>
    if isAsciiLetter d || d = '=' || d = '/' then .incomplete
    else .junk ('<' :: c :: t.take (t.length - (d :: r).length)) (d :: r)

end Harvest.Markup
