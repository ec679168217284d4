import Harvest.Text.Basic

/-!
# Values that flow through a chain

A value is a scalar, a sequence, a node of some document, or something that the engine only passes
on. Nodes come from a type of their own; a node may at the same time be a list of its children. The
kind of a value decides which transformations apply to it.
-/

namespace Harvest

inductive Value (ν : Type) where
  | absent
  | bool (b : Bool)
  | int (n : Int)
  | float (x : Float)
  | text (t : Text)
  | bytes (bs : List UInt8)
  | list (items : List (Value ν))
  | tuple (items : List (Value ν))
  | dict (entries : List (Value ν × Value ν))
  | node (n : ν)
  | nodeList (n : ν) (items : List (Value ν))
  | function (name : Text)

inductive Kind where
  | node
  | text
  | number
  | array
  | boolean
  | absent
  | other
  deriving DecidableEq, Repr

/-- What a transformation declares about its input. -/
inductive Accepts where
  | any
  | only (k : Kind)
  deriving DecidableEq, Repr

/-- Why a node cannot be sliced: it has no items, or it is read by a key that a slice cannot be. -/
inductive Unsliceable where
  | noItems (typeName : Text)
  | keyed
  deriving DecidableEq, Repr

/-- What the host knows: what can be said about a node without its document, and the names of
characters. -/
class Host (ν : Type) where
  markup : ν → Text
  typeName : ν → Text
  unsliceable : ν → Unsliceable
  characterNames : CharacterNames

variable {ν : Type}

def Kind.name : Kind → Text
  | .node => "node"
  | .text => "text"
  | .number => "number"
  | .array => "array"
  | .boolean => "boolean"
  | .absent => "absent"
  | .other => "other"

def Accepts.name : Accepts → Text
  | .any => "any"
  | .only k => k.name

namespace Value

instance : Inhabited (Value ν) := ⟨.absent⟩

def kind : Value ν → Kind
  | .absent => .absent
  | .bool _ => .boolean
  | .int _ | .float _ => .number
  | .text _ => .text
  | .node _ | .nodeList _ _ => .node
  | .list _ | .tuple _ => .array
  | .bytes _ | .dict _ | .function _ => .other

/-- The result of a transformation whose input has the wrong kind. -/
def inapplicable : Value ν := .bool false

def isNumber : Value ν → Bool
  | .int _ | .float _ => true
  | _ => false

def isEmptyText : Value ν → Bool
  | .text [] => true
  | _ => false

/-- Whether a condition with this result holds: zeros and what is empty count as false. -/
def truthy : Value ν → Bool
  | .absent => false
  | .bool b => b
  | .int n => n != 0
  | .float x => x != 0.0
  | .text t => !t.isEmpty
  | .bytes bs => !bs.isEmpty
  | .list items | .tuple items | .nodeList _ items => !items.isEmpty
  | .dict entries => !entries.isEmpty
  | .node _ | .function _ => true

def typeName [Host ν] : Value ν → Text
  | .absent => "NoneType"
  | .bool _ => "bool"
  | .int _ => "int"
  | .float _ => "float"
  | .text _ => "str"
  | .bytes _ => "bytes"
  | .list _ => "list"
  | .tuple _ => "tuple"
  | .dict _ => "dict"
  | .node n | .nodeList n _ => Host.typeName n
  | .function _ => "function"

end Value

end Harvest
