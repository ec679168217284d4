import Harvest.Markup.Token

/-!
# Trees from tokens

Elements are opened and closed exactly as the tokens say; no end is ever implied. A closing tag ends
the nearest open element of its name and all inside it, and is ignored when there is none. A void
element is closed at once, and the closing tag that may still come for it is passed over. Texts in a
row are one text, and one of spaces alone shrinks to a single space, or to a line break if it has
one.
-/

namespace Harvest.Markup

/-- An open element with the children it has so far, last first. -/
structure Frame where
  name : Text
  attributes : List Attribute
  children : List Node

/-- Open elements, innermost first; the children of the document and the pieces of the text being
read, last first; and the void elements whose closing tags are passed over. -/
structure Assembly where
  frames : List Frame
  children : List Node
  pending : List Text
  passed : List Text

namespace Assembly

def start : Assembly := ⟨[], [], [], []⟩

def add (n : Node) (a : Assembly) : Assembly :=
  match a.frames with
  | [] => { a with children := n :: a.children }
  | f :: fs => { a with frames := { f with children := n :: f.children } :: fs }

def shrink (t : Text) : Text :=
  if t.all Text.isMarkupSpace then (if t.contains '\n' then ['\n'] else [' ']) else t

/-- Adds a text at the place where the tokens have come to. -/
def addText (kind : TextKind) (t : Text) (a : Assembly) : Assembly :=
  let t := if a.frames.any fun f => keepsSpace f.name then t else shrink t
  a.add (.text kind t)

/-- The kind of running text at this place: that of the nearest element with a kind of its own. -/
def textKind (a : Assembly) : TextKind :=
  (a.frames.findSome? fun f => textKind? f.name).getD .plain

/-- Ends the text being read. -/
def flush (a : Assembly) : Assembly :=
  match a.pending with
  | [] => a
  | ps => addText a.textKind ps.reverse.flatten { a with pending := [] }

/-- Closes the innermost open element. -/
def pop (a : Assembly) : Assembly :=
  match a.frames with
  | [] => a
  | f :: fs =>
    add (.branch (.element f.name f.attributes) f.children.reverse) { a with frames := fs }

def popMany : Nat → Assembly → Assembly
  | 0, a => a
  | n + 1, a => popMany n a.pop

/-- Closes the nearest open element of a name and all inside it. -/
def close (name : Text) (a : Assembly) : Assembly :=
  match a.frames.findIdx? fun f => f.name = name with
  | some i => popMany (i + 1) a
  | none => a

/-- A repeated name keeps its first place and takes the last value. -/
def putAttribute (xs : List Attribute) (x : Attribute) : List Attribute :=
  if xs.any fun y => y.name = x.name then xs.map fun y => if y.name = x.name then x else y
  else xs ++ [x]

/-- The words of a word list are kept with single spaces between them. -/
def tidy (element : Text) (x : Attribute) : Attribute :=
  if isWordList element x.name then ⟨x.name, Text.join [' '] (Text.words x.value)⟩ else x

def openElement (name : Text) (attributes : List Attribute) (a : Assembly) : Assembly :=
  { a with frames := ⟨name, (attributes.foldl putAttribute []).map (tidy name), []⟩ :: a.frames }

def feed (a : Assembly) : Token → Assembly
  | .text t => if t = [] then a else { a with pending := t :: a.pending }
  | .special kind t => addText kind t a.flush
  | .closing name =>
    if a.passed.contains name then { a with passed := a.passed.erase name }
    else close name a.flush
  | .opening name attributes closed =>
    let b := openElement name attributes a.flush
    if closed then close name b
    else if isVoid name then { close name b with passed := name :: b.passed }
    else b

/-- The document, with all elements closed. -/
def finish (a : Assembly) : Node :=
  let b := a.flush
  .branch .document (popMany b.frames.length b).children.reverse

end Assembly

def Node.ofTokens (ts : List Token) : Node := (ts.foldl Assembly.feed Assembly.start).finish

/-- The tree of a document text. -/
def Node.read (t : Text) : Except Defect Node := (Token.scan t).map Node.ofTokens

end Harvest.Markup
