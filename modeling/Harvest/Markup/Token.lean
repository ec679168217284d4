import Harvest.Markup.Tag
import Harvest.Text.Quoted

/-!
# Markup tokens

A document text is cut into tokens: running text with its references resolved, tags, comments and
declarations. The scan reads ahead as if more text could follow. Where it cannot decide, it goes on
as at the end of the text, and what is still undecided then is running text; the undecided rest of a
raw element is dropped. Two things no reading accepts: a numeric reference with too many digits, and
a marked section of an unknown kind.
-/

namespace Harvest.Markup

inductive Token where
  | text (t : Text)
  | opening (name : Text) (attributes : List Attribute) (closed : Bool)
  | closing (name : Text)
  | special (kind : TextKind) (t : Text)

inductive Defect where
  | tooManyDigits (digits : Nat)
  | unacceptable (reason : Text)

/-- What one reading step gives. -/
inductive Scanned where
  /-- Tokens, the raw element that the scan is in from now on, and the rest. -/
  | tokens (ts : List Token) (raw : Option Text) (rest : Text)
  /-- Nothing can be decided without more text. -/
  | undecided
  /-- Tokens, and a rest about which nothing can be decided without more text. -/
  | stuck (ts : List Token) (rest : Text)
  | defect (d : Defect)

/-- What is read where a construct is never completed: all up to the next bracket. -/
def Scanned.giveUp (t : Text) : Scanned :=
  match Text.cut? ['>'] t with
  | some (a, b) => .tokens [.text (a ++ ['>'])] none b
  | none =>
    let p := (t.drop 1).span (· != '<')
    if p.2 = [] then .tokens [.text (t.take 1)] none (t.drop 1)
    else .tokens [.text (t.take 1 ++ p.1)] none p.2

def one (token : Token) (rest : Text) : Scanned := .tokens [token] none rest

/-! ### References in running text -/

/-- A numeric reference; the text starts behind the number sign. A digit of either kind behind the
number makes it none. -/
def scanNumber (r : Text) : Scanned :=
  match splitNumber? r with
  | some (digits, hexadecimal, d :: rest) =>
    if isHexDigit d then unread
    else
      match numberOf digits hexadecimal with
      | .ok n => one (.text [numbered n]) (dropSemicolon (d :: rest))
      | .error count => .defect (.tooManyDigits count)
  | _ => unread
where
  unread : Scanned := if r.contains ';' then .stuck [.text ['&', '#']] r else .undecided

def isReferenceChar (c : Char) : Bool :=
  isAsciiLetter c || isAsciiDigit c || c == '-' || c == '.'

/-- Cuts a run before its last hyphen or point. -/
def cutRun? (run : Text) : Option (Text × Text) :=
  let tail := (run.reverse.takeWhile fun c => c != '-' && c != '.').reverse
  if tail.length < run.length then
    some (run.take (run.length - tail.length - 1), run.drop (run.length - tail.length - 1))
  else none

/-- A named reference; the text starts behind the ampersand, with a letter. -/
def scanName (final : Bool) (r : Text) : Scanned :=
  match r.span isReferenceChar with
  | (run, d :: rest) => one (.text (namedText run)) (dropSemicolon (d :: rest))
  | (run, []) =>
    match cutRun? run with
    | some (name, rest) => one (.text (namedText name)) rest
    | none => if final && run.length == 1 then .stuck [] run else .undecided

/-! ### Declarations -/

/-- A comment; the text starts behind its opening mark. -/
def cutComment? : Text → Option (Text × Text)
  | [] => none
  | c :: r =>
    match c, r with
    | '-', '-' :: s =>
      match s.dropWhile Text.isBlank with
      | '>' :: rest => some ([], rest)
      | _ => (cutComment? r).map fun p => (c :: p.1, p.2)
    | _, _ => (cutComment? r).map fun p => (c :: p.1, p.2)

/-- The text up to a closing mark of `brackets` square brackets and an angle bracket, with blanks
between them, and the text after it. -/
def cutSection? (brackets : Nat) : Text → Option (Text × Text)
  | [] => none
  | c :: r =>
    match closes? brackets (c :: r) with
    | some rest => some ([], rest)
    | none => (cutSection? brackets r).map fun p => (c :: p.1, p.2)
where
  closes? : Nat → Text → Option Text
    | 0, t =>
      match t with
      | '>' :: r => some r
      | _ => none
    | n + 1, t =>
      match t with
      | ']' :: r => closes? n (r.dropWhile Text.isBlank)
      | _ => none

def isSectionChar (c : Char) : Bool := isReferenceChar c || c == '_'

/-- A marked section; `r` starts behind its opening mark. -/
def scanSection (t r : Text) : Option Scanned :=
  match r with
  | [] => none
  | c :: s =>
    if isAsciiLetter c then
      let p := s.span isSectionChar
      let rest := p.2.dropWhile Text.isBlank
      let name := Text.lowerAscii (c :: p.1)
      if rest = [] then none
      else if listed ["temp", "cdata", "ignore", "include", "rcdata"] name then
        found (cutSection? 2 r)
      else if listed ["if", "else", "endif"] name then found (cutSection? 1 r)
      else
        some (.defect (.unacceptable ("unknown status keyword ".toList ++
          Text.quoted (r.take (r.length - rest.length)) ++ " in marked section".toList)))
    else
      some (.defect (.unacceptable ("expected name token at ".toList ++ Text.quoted (t.take 20))))
where
  found (p : Option (Text × Text)) : Option Scanned :=
    p.map fun (content, rest) =>
      if Text.lowerAscii (content.take 6) = "cdata[" then
        one (.special .cdata (content.drop 6)) rest
      else one (.special .declaration content) rest

/-- What starts with an angle bracket and an exclamation or question mark; none when it does not
end. -/
def scanDeclaration (t : Text) : Option Scanned :=
  match t with
  | '<' :: '?' :: r =>
    (Text.cut? ['>'] r).map fun p => one (.special .instruction p.1) p.2
  | '<' :: '!' :: '-' :: '-' :: r => (cutComment? r).map fun p => one (.special .comment p.1) p.2
  | '<' :: '!' :: '[' :: r => scanSection t r
  | _ =>
    let r := t.drop 2
    if Text.lowerAscii (r.take 7) = "doctype" then
      (Text.cut? ['>'] (r.drop 7)).map fun p => one (.special .doctype (p.1.drop 1)) p.2
    else (Text.cut? ['>'] r).map fun p => one (.special .comment p.1) p.2

/-! ### Tags -/

/-- A tag name and the rest, behind blanks and up to the bracket. -/
def strictClosing? (r : Text) : Option (Text × Text) :=
  match r.dropWhile Text.isBlank with
  | [] => none
  | c :: s =>
    if isAsciiLetter c then
      let p := s.span fun c => isReferenceChar c || c == ':' || c == '_'
      match p.2.dropWhile Text.isBlank with
      | '>' :: rest => some (Text.lower (c :: p.1), rest)
      | _ => none
    else none

/-- A closing tag; `r` starts behind its slash. -/
def scanClosing (r : Text) : Option Scanned :=
  (Text.cut? ['>'] r).map fun (content, after) =>
    match strictClosing? r with
    | some (name, rest) => one (.closing name) rest
    | none =>
      match r with
      | '>' :: rest => .tokens [] none rest
      | c :: s =>
        if isAsciiLetter c then one (.closing (Text.lower (c :: s.takeWhile isTagChar))) after
        else one (.special .comment content) after
      | [] => one (.special .comment content) after

def attributeOf : Text × Option Text → Except Defect Attribute
  | (name, none) => .ok ⟨name, []⟩
  | (name, some v) =>
    match resolveValue v with
    | .ok value => .ok ⟨name, value⟩
    | .error digits => .error (.tooManyDigits digits)

/-- An opening tag whose name starts with `c`. -/
def scanOpening (fuel : Nat) (c : Char) (r : Text) : Option Scanned :=
  match readTag fuel c r with
  | .incomplete => none
  | .junk content rest => some (one (.text content) rest)
  | .tag name attributes closed rest =>
    match attributes.mapM attributeOf with
    | .error d => some (.defect d)
    | .ok attributes =>
      some (.tokens [.opening name attributes closed]
        (if !closed && isRaw name then some name else none) rest)

/-! ### The scan -/

/-- The closing tag of a raw element, if the text starts with one. -/
def rawClosing? (name t : Text) : Option Text :=
  match t with
  | '<' :: '/' :: r =>
    let s := r.dropWhile Text.isBlank
    if Text.lowerAscii (s.take name.length) = name then
      match (s.drop name.length).dropWhile Text.isBlank with
      | '>' :: rest => some rest
      | _ => none
    else none
  | _ => none

/-- The content of a raw element up to its closing tag, and the text after that. -/
def cutRaw? (name : Text) : Text → Option (Text × Text)
  | [] => none
  | c :: r =>
    match rawClosing? name (c :: r) with
    | some rest => some ([], rest)
    | none => (cutRaw? name r).map fun p => (c :: p.1, p.2)

/-- Reads on from an angle bracket or an ampersand. -/
def scanMark (final : Bool) (fuel : Nat) (t : Text) : Scanned :=
  let orWait (s : Option Scanned) : Scanned :=
    match s with
    | some s => s
    | none => if final then .giveUp t else .undecided
  match t with
  | '&' :: '#' :: r => scanNumber r
  | ['&'] | ['<'] => .undecided
  | '&' :: c :: r =>
    if isAsciiLetter c then scanName final (c :: r) else one (.text ['&']) (c :: r)
  | '<' :: '/' :: r => orWait (scanClosing r)
  | '<' :: c :: r =>
    if isAsciiLetter c then orWait (scanOpening fuel c r)
    else if c = '!' ∨ c = '?' then orWait (scanDeclaration t)
    else one (.text ['<']) (c :: r)
  | t => one (.text t) []

def scanStep (final : Bool) (fuel : Nat) (raw : Option Text) (t : Text) : Scanned :=
  match raw with
  | some name =>
    match cutRaw? name t with
    | some (content, rest) => .tokens [.text content, .closing name] none rest
    | none => .undecided
  | none =>
    match t.span fun c => c != '&' && c != '<' with
    | ([], rest) => scanMark final fuel rest
    | (run, rest) => one (.text run) rest

/-- Each step consumes text or turns to the end of it, so twice the length is fuel enough. -/
def scanFrom : Nat → Bool → Option Text → Text → Except Defect (List Token)
  | 0, _, _, _ => .ok []
  | _, _, _, [] => .ok []
  | fuel + 1, final, raw, t =>
    match scanStep final fuel raw t with
    | .tokens ts raw rest => (scanFrom fuel final raw rest).map (ts ++ ·)
    | .undecided =>
      if final then .ok (if raw.isSome then [] else [.text t]) else scanFrom fuel true raw t
    | .stuck ts rest =>
      if final then .ok (ts ++ [.text rest]) else (scanFrom fuel true raw rest).map (ts ++ ·)
    | .defect d => .error d

def Token.scan (t : Text) : Except Defect (List Token) := scanFrom (2 * t.length + 2) false none t

end Harvest.Markup
