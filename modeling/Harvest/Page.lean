import Harvest.Document
import Harvest.Markup.Tree
import Harvest.Selector.Matching
import Harvest.Selector.Reader

/-!
# Pages

A page is the document that a markup text denotes. Its nodes are the places of the tree, found with
selectors. What a form control would submit is its value: a list of options has that of the first
option marked as selected, or else that of its first one.
-/

namespace Harvest

open Markup Selector

/-- The names that messages have for a place. -/
def Markup.Cursor.typeName (c : Cursor) : Text :=
  match c.label with
  | .document => "BeautifulSoup"
  | .element _ _ => "Tag"

/-- Places of pages as nodes, where these names of characters are known. -/
abbrev Markup.Cursor.host (names : CharacterNames) : Host Cursor :=
  ⟨Cursor.markup, Cursor.typeName, fun _ => .keyed, names⟩

/-- A page by itself brings no names of characters. -/
instance : Host Cursor := Cursor.host .empty

namespace Page

/-- The root of the page, read by the parser of the given name or by the default one. -/
def load (parser markup : Text) : Except (Failure Cursor) Cursor :=
  if listed ["", "html.parser", "html", "strict"] parser then
    match Node.read markup with
    | .error (.tooManyDigits digits) => .error (.tooManyDigits digits)
    | .error (.unacceptable reason) => .error (.unacceptableMarkup reason)
    | .ok (.branch label children) => .ok ⟨label, children, []⟩
    | .ok (.text kind t) => .ok ⟨.document, [.text kind t], []⟩
  else .error .unknownParser

def readSelector (selector : Text) : Except (Failure Cursor) (List Member) :=
  match Selector.read selector with
  | .ok alternatives => .ok alternatives
  | .error .malformed => .error .selectorSyntax
  | .error e => .error (.selectorUnsupported e.message)

/-! ### Form values -/

def anyOption : List Member := [.single [.named "option"]]

def selectedOption : List Member := [.single [.named "option", .attributed "selected" none]]

def optionValue (c : Cursor) : Text := (c.label.valueOf? "value").getD c.innerText

def selectValue (c : Cursor) : Text :=
  ((firstBelow? selectedOption c).or (firstBelow? anyOption c)).elim [] optionValue

def formValue (c : Cursor) : Option Text :=
  match c.label.name?.map String.ofList with
  | some "input" => some ((c.label.valueOf? "value").getD [])
  | some "textarea" => some c.innerText
  | some "option" => some (optionValue c)
  | some "select" => some (selectValue c)
  | _ => none

/-! ### The document -/

/-- The children as values: texts of every kind are texts. -/
def childValues (c : Cursor) : List (Value Cursor) := go [] c.children
where
  go (before : List Node) : List Node → List (Value Cursor)
    | [] => []
    | .text kind t :: behind => .text t :: go (.text kind t :: before) behind
    | .branch label children :: behind =>
      .node ⟨label, children, ⟨c.label, before, behind⟩ :: c.path⟩ ::
        go (.branch label children :: before) behind

def textValue? : Value Cursor → Option Text
  | .text t => some t
  | _ => none

def document : Document Cursor where
  value c := .node c
  findOne c selector := (readSelector selector).map fun xs =>
    match firstBelow? xs c with
    | none => .absent
    | some d => .node d
  findAll c selector := (readSelector selector).map fun xs => (matchesBelow xs c).map Value.node
  innerHtml c := .ok c.innerMarkup
  innerText c := .ok c.innerText
  formValue c := .ok (Page.formValue c)
  attributeValue c name := .ok (c.label.valueOf? name)
  detached := load []
  childNodes c := .ok (childValues c)
  nodeValue v := .ok (textValue? v)

end Page

end Harvest
