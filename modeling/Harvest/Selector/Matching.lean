import Harvest.Expression.CharSet
import Harvest.Markup.Cursor
import Harvest.Selector.Basic

/-!
# Matching selectors

Whether a selector holds at a place of a markup tree. Combinators look beyond the place a search
started from, up to the document itself, which passes every test that asks for nothing an element
alone has. Names of elements and attributes ignore the case of the seven-bit letters of the
selector; classes and identifiers do not.
-/

namespace Harvest.Selector

open Markup

/-! ### Attribute values -/

def sameChar (ignoreCase : Bool) (a b : Char) : Bool :=
  if ignoreCase then (Expression.CharSet.mk [.range a.toNat a.toNat] false .full false).contains b
  else a == b

/-- What a text has behind `v`, if it starts with that. -/
def behind? (ignoreCase : Bool) : Text → Text → Option Text
  | [], t => some t
  | _ :: _, [] => none
  | a :: v, b :: t => if sameChar ignoreCase a b then behind? ignoreCase v t else none

/-- Nothing, or a line break at the very end. -/
def isEnd (t : Text) : Bool := t = [] || t = ['\n']

/-- Whether some tail of the text that begins where `atStart` allows has `v` and then a rest with
the property. -/
def somewhere (ignoreCase : Bool) (v : Text) (starts : Char → Bool) (accept : Text → Bool) :
    Bool → Text → Bool
  | atStart, [] => atStart && ((behind? ignoreCase v []).any accept)
  | atStart, c :: r =>
    (atStart && (behind? ignoreCase v (c :: r)).any accept) ||
      somewhere ignoreCase v starts accept (starts c) r

def endsWord (t : Text) : Bool := t = [] || t.head?.any Text.isMarkupSpace

/-- A value that is looked for as a word has to be one. -/
def Condition.holds (k : Condition) (t : Text) : Bool :=
  match k.comparison with
  | .equal => (behind? k.ignoreCase k.value t).any isEnd
  | .initial => (behind? k.ignoreCase k.value t).isSome
  | .final => somewhere k.ignoreCase k.value (fun _ => true) isEnd true t
  | .part => somewhere k.ignoreCase k.value (fun _ => true) (fun _ => true) true t
  | .word => k.value ≠ [] && !k.value.any Text.isMarkupSpace &&
      somewhere k.ignoreCase k.value Text.isMarkupSpace endsWord true t
  | .dashed => (behind? k.ignoreCase k.value t).any fun r => isEnd r || r.head? = some '-'

/-- The value of the first attribute of a name, whatever its case. -/
def attributeValue? (label : Label) (name : Text) : Option Text :=
  (label.attributes.find? fun a => Text.lowerAscii a.name = Text.lowerAscii name).map (·.value)

/-! ### Places -/

def Combinator.reach : Combinator → Cursor → List Cursor
  | .descendant, c => c.ancestors
  | .child, c => c.ancestors.take 1
  | .adjacent, c => c.previous.take 1
  | .sibling, c => c.previous

/-- Whether a sibling counts for the position among siblings. -/
def counts (name : Option Text) : Node → Bool
  | .branch label _ => name.all fun n => label.name? = some n
  | .text _ _ => false

/-- The position of a place among its siblings, from the start or the end. -/
def position (sameName fromEnd : Bool) (c : Cursor) : Nat :=
  match c.path with
  | [] => 1
  | crumb :: _ =>
    let name := if sameName then c.label.name? else none
    1 + (if fromEnd then crumb.behind else crumb.before).countP (counts name)

def isSilent : Node → Bool
  | .branch _ _ => false
  | .text kind t =>
    match kind with
    | .comment | .doctype | .cdata | .instruction | .declaration => true
    | _ => t.all Text.isMarkupSpace

/-- The content of a frame belongs to another document. -/
def holdsNothing (c : Cursor) : Bool :=
  c.children.all isSilent || c.label.name?.any fun n => Text.lowerAscii n = "iframe".toList

def isBlankText : Node → Bool
  | .branch _ _ => false
  | .text kind t =>
    match kind with
    | .cdata => false
    | .comment | .doctype | .instruction | .declaration => true
    | _ => t.all Text.isBlank

/-- The only element of a document, with no text beside it. -/
def isRoot (c : Cursor) : Bool :=
  match c.path with
  | [crumb] =>
    crumb.label = .document && crumb.before.all isBlankText && crumb.behind.all isBlankText
  | _ => false

/-! ### Matching -/

mutual

def Simple.holds : Simple → Cursor → Bool
  | .named name, c => c.label.name? = some (Text.lowerAscii name)
  | .identified id, c => (c.label.valueOf? "id").getD [] = id
  | .classed name, c => (Text.words ((c.label.valueOf? "class").getD [])).contains name
  | .attributed name condition, c =>
    (attributeValue? c.label name).any fun v => condition.all fun k => k.holds v
  | .nth positions sameName fromEnd, c => positions.contains (position sameName fromEnd c)
  | .empty, c => holdsNothing c
  | .root, c => isRoot c
  | .anyOf alternatives, c => someHolds alternatives c
  | .noneOf alternatives, c => !someHolds alternatives c

def allHold : List Simple → Cursor → Bool
  | [], _ => true
  | s :: ss, c => s.holds c && allHold ss c

def Member.holds : Member → Cursor → Bool
  | .single tests, c => allHold tests c
  | .after left how tests, c => allHold tests c && (how.reach c).any fun d => left.holds d

def someHolds : List Member → Cursor → Bool
  | [], _ => false
  | x :: xs, c => x.holds c || someHolds xs c

end

/-- The places below `c` that a list of alternatives holds at, in the order of the text. -/
def matchesBelow (alternatives : List Member) (c : Cursor) : List Cursor :=
  c.descendants.filter (someHolds alternatives)

def firstBelow? (alternatives : List Member) (c : Cursor) : Option Cursor :=
  c.descendants.find? (someHolds alternatives)

end Harvest.Selector
