import Harvest.Markup.Node
import Harvest.Text.Case

/-!
# Written markup

A tree is written with its attributes in the order of their names. What would read as markup is
escaped, except directly below an element whose content is not markup. A value stands between double
quotes, or between single ones if it has only double ones itself. A void element without content has
a slash and no closing tag. Where a document declares its encoding, the one it is written in is
named.
-/

namespace Harvest.Markup

def escapeChar : Char → Text
  | '&' => "&amp;"
  | '<' => "&lt;"
  | '>' => "&gt;"
  | c => [c]

def escape (t : Text) : Text := t.flatMap escapeChar

def quoteValue (t : Text) : Text :=
  if t.contains '"' then
    if t.contains '\'' then '"' :: t.flatMap (fun c => if c = '"' then "&quot;" else [c]) ++ ['"']
    else '\'' :: t ++ ['\'']
  else '"' :: t ++ ['"']

/-! ### Declared encodings -/

def encodingName : Text := "utf-8"

def charsetMark : Text := "charset="

/-- Names the encoding in each parameter of a content type that declares one. -/
def declareIn : Nat → Bool → Text → Text
  | 0, _, t => t
  | _, _, [] => []
  | fuel + 1, atStart, c :: r =>
    if atStart && charsetMark.isPrefixOf (c :: r) then
      charsetMark ++ encodingName ++
        declareIn fuel false (((c :: r).drop charsetMark.length).dropWhile (· != ';'))
    else c :: declareIn fuel (c == ';' || Text.isBlank c) r

/-- The value that is written for an attribute of an element. -/
def writtenValue (label : Label) (a : Attribute) : Text :=
  if label.name? = some "meta".toList then
    if (label.valueOf? "charset").isSome then
      if a.name = "charset".toList then encodingName else a.value
    else if a.name = "content".toList ∧
        (label.valueOf? "http-equiv").map Text.lower = some "content-type".toList then
      declareIn a.value.length true a.value
    else a.value
  else a.value

/-! ### Trees -/

def writeAttribute (label : Label) (a : Attribute) : Text :=
  ' ' :: a.name ++ '=' :: quoteValue (escape (writtenValue label a))

-- Names are compared as lists of characters.
attribute [local instance (high)] List.instLE List.decidableLE

def writeAttributes (label : Label) : Text :=
  (label.attributes.mergeSort fun a b => decide (a.name ≤ b.name)).flatMap (writeAttribute label)

def writeText (raw : Bool) (kind : TextKind) (t : Text) : Text :=
  match kind with
  | .comment => "<!--".toList ++ t ++ "-->".toList
  | .doctype => "<!DOCTYPE ".toList ++ t ++ ">\n".toList
  | .cdata => "<![CDATA[".toList ++ t ++ "]]>".toList
  | .instruction => "<?".toList ++ t ++ ">".toList
  | .declaration => "<?".toList ++ t ++ "?>".toList
  | _ => if raw then t else escape t

def writeBranch (label : Label) (content : Text) (hasChildren : Bool) : Text :=
  match label with
  | .document => content
  | .element name _ =>
    let opening := '<' :: name ++ writeAttributes label
    if !hasChildren && isVoid name then opening ++ "/>".toList
    else opening ++ '>' :: content ++ '<' :: '/' :: name ++ ['>']

def Label.isRaw (label : Label) : Bool := label.name?.any Markup.isRaw

mutual

/-- The markup of a node. `raw` tells that it stands in an element whose content is not markup. -/
def Node.write (raw : Bool) : Node → Text
  | .text kind t => writeText raw kind t
  | .branch label children =>
    writeBranch label (writeAll label.isRaw children) (!children.isEmpty)

def writeAll (raw : Bool) : List Node → Text
  | [] => []
  | n :: ns => n.write raw ++ writeAll raw ns

end

/-! ### Content -/

/-- The kind of texts that count as the content of an element; none stands for running text. -/
def Label.contentKind? (label : Label) : Option TextKind := label.name?.bind textKind?

def isContent (wanted : Option TextKind) (kind : TextKind) : Bool :=
  match wanted with
  | none => kind = .plain || kind = .cdata
  | some k => kind = k

mutual

/-- The texts of the wanted kind in a node. -/
def Node.gather (wanted : Option TextKind) : Node → Text
  | .text kind t => if isContent wanted kind then t else []
  | .branch _ children => gatherAll wanted children

def gatherAll (wanted : Option TextKind) : List Node → Text
  | [] => []
  | n :: ns => n.gather wanted ++ gatherAll wanted ns

end

end Harvest.Markup
