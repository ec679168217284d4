import Harvest.Text.Blank

/-!
# Markup trees

A tree is made of branches, which carry a label and have children, and of texts of several kinds.
The label of the outermost branch is the document's own; all other labels are those of elements. The
vocabulary says which elements never have content, which keep their white space, what kind of text
some of them hold, and which attribute values are lists of words.
-/

namespace Harvest.Markup

inductive TextKind where
  | plain
  | comment
  | doctype
  | cdata
  | instruction
  | declaration
  | script
  | stylesheet
  | template
  | rubyText
  | rubyParenthesis
  deriving DecidableEq, Repr

structure Attribute where
  name : Text
  value : Text
  deriving DecidableEq, Repr

inductive Label where
  | document
  | element (name : Text) (attributes : List Attribute)
  deriving DecidableEq, Repr

inductive Node where
  | branch (label : Label) (children : List Node)
  | text (kind : TextKind) (content : Text)

namespace Label

def name? : Label → Option Text
  | .document => none
  | .element name _ => some name

def attributes : Label → List Attribute
  | .document => []
  | .element _ attributes => attributes

/-- The value of the attribute with exactly this name. -/
def valueOf? (l : Label) (name : Text) : Option Text :=
  (l.attributes.find? (·.name = name)).map (·.value)

end Label

def listed (words : List String) (t : Text) : Bool := words.contains (String.ofList t)

/-! ### Vocabulary -/

/-- Elements that never have content. -/
def isVoid : Text → Bool := listed [
  "area", "base", "br", "col", "embed", "hr", "img", "input", "keygen", "link", "menuitem", "meta",
  "param", "source", "track", "wbr", "basefont", "bgsound", "command", "frame", "image", "isindex",
  "nextid", "spacer"]

/-- Elements whose content is not markup. -/
def isRaw : Text → Bool := listed ["script", "style"]

def keepsSpace : Text → Bool := listed ["pre", "textarea"]

/-- The kind of the texts below an element that has a kind of its own. -/
def textKind? (name : Text) : Option TextKind :=
  match String.ofList name with
  | "rt" => some .rubyText
  | "rp" => some .rubyParenthesis
  | "style" => some .stylesheet
  | "script" => some .script
  | "template" => some .template
  | _ => none

/-- Whether the value of an attribute is a list of words. -/
def isWordList (element name : Text) : Bool :=
  listed ["class", "accesskey", "dropzone"] name ||
    match String.ofList element with
    | "a" | "link" => listed ["rel", "rev"] name
    | "td" | "th" => listed ["headers"] name
    | "form" => listed ["accept-charset"] name
    | "object" => listed ["archive"] name
    | "area" => listed ["rel"] name
    | "icon" => listed ["sizes"] name
    | "iframe" => listed ["sandbox"] name
    | "output" => listed ["for"] name
    | _ => false

end Harvest.Markup
