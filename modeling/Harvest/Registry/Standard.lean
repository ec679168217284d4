import Harvest.Number.Leading
import Harvest.Pattern.Template
import Harvest.Registry.Entry

/-!
# The standard transformations

Nodes are searched and read, texts and numbers are read leniently and reworked, sequences are
indexed and sliced. Static arguments are checked when the transformation is made. A guard has
checked the kind of the input, so a step that meets another kind only has to give the inapplicable
result.
-/

namespace Harvest.Standard

variable {ν : Type} [Host ν]

open Number

/-! ### Static arguments -/

/-- An integer as it stands, else the leading integer of the value's text. -/
def intArgument (parameter : Text) (v : Value ν) : Except (Objection ν) Int :=
  match v with
  | .int n => .ok n
  | v =>
    match v.plain, v.written with
    | some t, some w =>
      match leadingInteger t with
      | .ok (some n) => .ok n
      | .ok none => .error (.refuse (.notInteger parameter w))
      | .error digits => .error (.refuse (.tooManyDigits digits))
    | _, _ => .error (.refuse .unwritable)

/-- A number as it stands, else the integer or the float that the value's text denotes. -/
def numberArgument (parameter : Text) (v : Value ν) : Except (Objection ν) (Value ν) :=
  match v with
  | .int n => .ok (.int n)
  | .float x => .ok (.float x)
  | v =>
    match v.plain, v.written with
    | some t, some w =>
      match integer? t, float? t with
      | some n, _ => .ok (.int n)
      | none, some x => .ok (.float x)
      | none, none => .error (.refuse (.notNumber parameter w))
    | _, _ => .error (.refuse .unwritable)

/-- An integer argument that may be missing. -/
def optionalInt (parameter : Text) : List (Value ν) → Except (Objection ν) (Option Int)
  | [] | .absent :: _ => .ok none
  | v :: _ => (intArgument parameter v).map some

def patternArgument (v : Value ν) : Except (Objection ν) Pattern :=
  match v with
  | .text t =>
    match Pattern.read (Host.characterNames ν) t with
    | .ok p => .ok p
    | .error .malformed => .error (.refuse .expression)
    | .error .tooManyRepeats => .error (.fail .tooManyRepeats)
    | .error (.tooManyDigits digits) => .error (.refuse (.tooManyDigits digits))
    | .error .clashingOptions =>
      .error (.refuse (.other "ASCII and UNICODE flags are incompatible"))
  | v => .error (.fail (.notSearchable v.typeName))

/-! ### Steps by kind -/

def onNode (f : ν → Outcome ν (Value ν)) : Step ν
  | .node n | .nodeList n _ => f n
  | _ => pure Value.inapplicable

def onText (f : Text → Outcome ν (Value ν)) : Step ν
  | .text t => f t
  | _ => pure Value.inapplicable

def onItems (f : List (Value ν) → Value ν) : Step ν
  | .list items | .tuple items => pure (f items)
  | _ => pure Value.inapplicable

/-! ### Nodes -/

def selectOne (selector : Text) (doc : Document ν) : Step ν :=
  onNode fun n => doc.queryOne n selector

def selectAll (selector : Text) (doc : Document ν) : Step ν :=
  onNode fun n => do return .list (← doc.queryAll n selector)

def innerHtml (doc : Document ν) : Step ν :=
  onNode fun n => .of ((doc.innerHtml n).map Value.text)

def innerText (doc : Document ν) : Step ν :=
  onNode fun n => .of ((doc.innerText n).map Value.text)

def formValue (doc : Document ν) : Step ν :=
  onNode fun n => .of ((doc.formValue n).map Value.ofText?)

def getAttribute (name : Text) (doc : Document ν) : Step ν :=
  onNode fun n => .of ((doc.attributeValue n name).map Value.ofText?)

/-! ### Numbers -/

def toInt : Step ν :=
  onText fun t =>
    match leadingInteger t with
    | .ok (some n) => pure (.int n)
    | .ok none => pure (.float nan)
    | .error digits => .fail (.tooManyDigits digits)

def toFloat : Step ν :=
  onText fun t =>
    match leadingFloat t with
    | .ok (some x) => pure (.float x)
    | .ok none => pure (.float nan)
    | .error number => .fail (.notFloat number)

/-- The floor of a float plus one half. -/
def roundFloat (x : Float) : Value ν :=
  if isFinite x then
    match floor? (x + 0.5) with
    | some n => .int n
    | none => .float x
  else .float x

/-- Halves are rounded up; an integer is rounded as the float nearest to it. -/
def round : Step ν
  | .int n =>
    match ofInt? n with
    | some x => pure (roundFloat x)
    | none => .fail .intTooLarge
  | .float x => pure (roundFloat x)
  | _ => pure Value.inapplicable

/-- Integers are multiplied exactly; a float makes the other factor a float. -/
def multiply : Value ν → Value ν → Except (Failure ν) (Value ν)
  | .int a, .int b => .ok (.int (a * b))
  | .float a, .float b => .ok (.float (a * b))
  | .int a, .float b =>
    match ofInt? a with
    | some x => .ok (.float (x * b))
    | none => .error .intTooLarge
  | .float a, .int b =>
    match ofInt? b with
    | some x => .ok (.float (a * x))
    | none => .error .intTooLarge
  | _, _ => .ok Value.inapplicable

/-! ### Texts -/

def orUnwritable (t : Option Text) : Except (Failure ν) Text :=
  match t with
  | some t => .ok t
  | none => .error .unwritable

/-- The text of the first node in a fragment made of the input; empty when there is none, and the
text of an absent value when the first node has no text of its own. -/
def htmlToText (doc : Document ν) : Step ν := fun v => .of do
  let markup ← orUnwritable v.toText
  let container ← doc.detached markup
  match ← doc.childNodes container with
  | [] => return .text []
  | child :: _ =>
    let t ← doc.nodeValue child
    return .text (← orUnwritable (Value.ofText? t : Value ν).toText)

def toString : Step ν := fun v => .of ((orUnwritable v.toText).map Value.text)

def trim : Step ν := onText fun t => pure (.text (Text.trim t))

def limitTo {α : Type} (limit : Option Int) (items : List α) : List α :=
  match limit with
  | none => items
  | some k => if 0 ≤ k then items.take k.toNat else items

/-- Without a delimiter a text is split into its words. -/
def split (delimiter : Value ν) (limit : Option Int) : Step ν :=
  onText fun t =>
    let done (pieces : List Text) := pure (.list ((limitTo limit pieces).map Value.text))
    match delimiter with
    | .text d => done (Text.split d t)
    | .absent => done (Text.words t)
    | v => .fail (.notDelimiter v.typeName)

def replace (p : Pattern) (replacement : Value ν) : Step ν :=
  onText fun t =>
    match replacement with
    | .text template => pure (.text (p.replace t template))
    | v =>
      if (p.occurrences t.toArray).isEmpty then pure (.text t)
      else .fail (.notSearchable v.typeName)

def matchPattern (p : Pattern) : Step ν :=
  onText fun t =>
    match p.match? t with
    | none => pure .absent
    | some found => pure (.list (found.map Value.ofText?))

/-! ### Sequences -/

def getIndex (index : Int) : Step ν :=
  onItems fun items =>
    if 0 ≤ index then (items[index.toNat]?).getD Value.inapplicable else Value.inapplicable

/-- The position that an index means: negative ones count from the end, and all are clamped. -/
def position (length : Nat) (index : Int) : Nat :=
  if index < 0 then (index + length).toNat else min index.toNat length

def sliceList {α : Type} (start : Int) (stop : Option Int) (items : List α) : List α :=
  let a := position items.length start
  let b := stop.elim items.length (position items.length)
  (items.take b).drop a

def slice (start : Int) (stop : Option Int) : Step ν
  | .text t => pure (.text (sliceList start stop t))
  | .bytes bs => pure (.bytes (sliceList start stop bs))
  | .list items | .nodeList _ items => pure (.list (sliceList start stop items))
  | .tuple items => pure (.tuple (sliceList start stop items))
  | .dict _ => .fail (.unsliceable .keyed)
  | .node n => .fail (.unsliceable (Host.unsliceable n))
  | v => .fail (.unsliceable (.noItems v.typeName))

/-! ### The set -/

def required (name : Text) : Parameter := ⟨name, .positional, true⟩

def optional (name : Text) : Parameter := ⟨name, .positional, false⟩

def plainForm (run : Step ν) : Form ν := .plain fun _ => run

/-- What cannot be the key of anything. -/
def isUnhashable : Value ν → Bool
  | .list _ | .dict _ | .nodeList _ _ => true
  | _ => false

/-- A factory of one text argument. Searching for anything else fails. -/
def selectForm (select : Text → Document ν → Step ν) : Form ν :=
  .factory [required "selector"] fun
    | .text t :: _ => .ok (select t)
    | v :: _ => .ok fun _ => onNode fun _ =>
      .fail (if isUnhashable v then .unhashable v.typeName else .notSelector v.typeName)
    | [] => .error (.refuse (.missing "selector"))

/-- No attribute has a name that is not a text. -/
def getAttributeForm : Form ν :=
  .factory [required "name"] fun
    | .text t :: _ => .ok (getAttribute t)
    | v :: _ => .ok fun _ => onNode fun _ =>
      if isUnhashable v then .fail (.unhashable v.typeName) else pure .absent
    | [] => .error (.refuse (.missing "name"))

def multiplyForm : Form ν :=
  .factory [required "factor"] fun
    | v :: _ => do
      let factor ← numberArgument "factor" v
      return fun _ v => .of (multiply factor v)
    | [] => .error (.refuse (.missing "factor"))

def splitForm : Form ν :=
  .factory [required "delimiter", optional "limit"] fun
    | delimiter :: rest => do
      let limit ← optionalInt "limit" rest
      return fun _ => split delimiter limit
    | [] => .error (.refuse (.missing "delimiter"))

def replaceForm : Form ν :=
  .factory [required "pattern", required "replacement"] fun
    | [] => .error (.refuse (.missing "pattern"))
    | [_] => .error (.refuse (.missing "replacement"))
    | pattern :: replacement :: _ => do
      let p ← patternArgument pattern
      return fun _ => replace p replacement

def matchForm : Form ν :=
  .factory [required "pattern"] fun
    | pattern :: _ => do
      let p ← patternArgument pattern
      return fun _ => matchPattern p
    | [] => .error (.refuse (.missing "pattern"))

def getIndexForm : Form ν :=
  .factory [required "index"] fun
    | index :: _ => do
      let i ← intArgument "index" index
      return fun _ => getIndex i
    | [] => .error (.refuse (.missing "index"))

def sliceForm : Form ν :=
  .factory [required "start", optional "stop"] fun
    | start :: rest => do
      let a ← intArgument "start" start
      let b ← optionalInt "stop" rest
      return fun _ => slice a b
    | [] => .error (.refuse (.missing "start"))

def entry (name : Text) (accepts : Accepts) (usesDocument : Bool) (description : Text)
    (form : Form ν) : Entry ν :=
  ⟨name, form, accepts, usesDocument, description, true, .standard⟩

def entries : List (Entry ν) := [
  entry "select-one" (.only .node) true "First descendant matching the selector."
    (selectForm selectOne),
  entry "select-all" (.only .node) true "All descendants matching the selector, as a list."
    (selectForm selectAll),
  entry "inner-html" (.only .node) true "Markup of the node's children." (.plain innerHtml),
  entry "inner-text" (.only .node) true "Text content of the node." (.plain innerText),
  entry "value" (.only .node) true "Form value of an input, textarea, select or option."
    (.plain formValue),
  entry "get-attribute" (.only .node) true "Attribute value, None when missing."
    getAttributeForm,
  entry "to-int" (.only .text) false "Leading integer of the text, NaN when there is none."
    (plainForm toInt),
  entry "to-float" (.only .text) false "Leading decimal number of the text, NaN when there is none."
    (plainForm toFloat),
  entry "round" (.only .number) false
    "Round to the nearest integer, halves toward positive infinity." (plainForm round),
  entry "multiply-by" (.only .number) false "Multiply by a static factor." multiplyForm,
  entry "html-to-text" .any true
    "Decode markup through a detached container and read its first child's text."
    (.plain htmlToText),
  entry "to-string" .any false "Coerce any value to text." (plainForm toString),
  entry "trim" (.only .text) false "Strip leading and trailing whitespace." (plainForm trim),
  entry "split" (.only .text) false "Split on a literal delimiter, keeping at most limit pieces."
    splitForm,
  entry "replace" (.only .text) false "Replace a literal substring or /regex/flags match."
    replaceForm,
  entry "match" (.only .text) false
    "Match a literal substring or /regex/flags; None when nothing matches." matchForm,
  entry "get-index" (.only .array) false "Item at index; False when out of range." getIndexForm,
  entry "slice" .any false "Slice from start up to (not including) stop." sliceForm]

end Harvest.Standard
