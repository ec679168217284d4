import Harvest.Number.Decimal
import Harvest.Text.Quoted
import Harvest.Value.Basic

/-!
# Written values

Two ways to write a value: with quotes and brackets, as messages show it, and as the text that a
chain continues with. Neither exists when an integer in the value is beyond the digit limit.
-/

namespace Harvest.Value

variable {ν : Type} [Host ν]

open Number

def bracketed (start stop : Char) (parts : List Text) : Text :=
  start :: Text.join [',', ' '] parts ++ [stop]

mutual

/-- The value as messages show it. -/
def written : Value ν → Option Text
  | .absent => some "None"
  | .bool b => some (if b then "True" else "False")
  | .int n => intText? n
  | .float x => some (floatText x)
  | .text t => some (Text.quoted t)
  | .bytes bs => some (Text.quotedBytes bs)
  | .list items => (writtenItems items).map (bracketed '[' ']')
  | .tuple items => (writtenItems items).map fun
    | [p] => '(' :: p ++ [',', ')']
    | ps => bracketed '(' ')' ps
  | .dict entries => (writtenEntries entries).map (bracketed '\x7b' '\x7d')
  | .node n | .nodeList n _ => some (Host.markup n)
  | .function name => some ("<function ".toList ++ name ++ ['>'])

def writtenItems : List (Value ν) → Option (List Text)
  | [] => some []
  | v :: vs => (written v).bind fun p => (writtenItems vs).map (p :: ·)

def writtenEntries : List (Value ν × Value ν) → Option (List Text)
  | [] => some []
  | (k, v) :: es => (written k).bind fun p => (written v).bind fun q =>
      (writtenEntries es).map ((p ++ ':' :: ' ' :: q) :: ·)

end

/-- The value as an argument text: a text stands for itself. -/
def plain : Value ν → Option Text
  | .text t => some t
  | v => written v

/-- An integral float is written without a fraction. -/
def floatToText (x : Float) : Text :=
  match parts x with
  | .nan => "NaN"
  | .infinite negative => signed negative "Infinity"
  | .finite .. =>
    match toInt? x with
    | some n => signed (decide (n < 0)) (decimalDigits n.natAbs)
    | none => floatText x

mutual

/-- The value coerced to text: items are joined by commas, and an absent item is empty. -/
def toText : Value ν → Option Text
  | .absent => some "null"
  | .bool b => some (if b then "true" else "false")
  | .int n => intText? n
  | .float x => some (floatToText x)
  | .text t => some t
  | .list items | .tuple items | .nodeList _ items => (itemTexts items).map (Text.join [','])
  | .bytes bs => written (.bytes bs : Value ν)
  | .dict entries => written (.dict entries)
  | .node n => written (.node n)
  | .function name => written (.function name : Value ν)

def itemTexts : List (Value ν) → Option (List Text)
  | [] => some []
  | .absent :: vs => (itemTexts vs).map ([] :: ·)
  | v :: vs => (toText v).bind fun p => (itemTexts vs).map (p :: ·)

end

end Harvest.Value
