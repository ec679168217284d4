import Harvest.Document
import Harvest.Signature

/-!
# Registered transformations

An entry is a transformation, or a factory that makes one from static arguments. Binding yields a
step that is guarded by the declared kind: input of any other kind gives an inapplicable result
without running the transformation, and a transformation of nodes passes an absent node through.
-/

namespace Harvest

inductive Form (ν : Type) where
  | plain (run : Document ν → Step ν)
  | factory (signature : Signature)
      (make : List (Value ν) → Except (Objection ν) (Document ν → Step ν))

/-- Where the implementing function of an entry lives. -/
inductive Origin where
  | standard
  | host (qualifiedName : Text)
  deriving DecidableEq, Repr

structure Entry (ν : Type) where
  name : Text
  form : Form ν
  accepts : Accepts
  usesDocument : Bool
  description : Text
  standard : Bool
  origin : Origin

structure Summary where
  name : Text
  accepts : Accepts
  factory : Bool
  parameters : List Text
  description : Text
  standard : Bool
  origin : Origin
  deriving DecidableEq, Repr

def guarded {ν : Type} (accepts : Accepts) (run : Step ν) : Step ν := fun v =>
  match accepts with
  | .any => run v
  | .only k =>
    if k = .node ∧ v.kind = .absent then pure .absent
    else if v.kind = k then run v
    else pure Value.inapplicable

namespace Entry

variable {ν : Type}

def isFactory (e : Entry ν) : Bool :=
  match e.form with
  | .plain _ => false
  | .factory _ _ => true

def parameters (e : Entry ν) : List Text :=
  match e.form with
  | .plain _ => []
  | .factory signature _ => signature.map (·.name)

def summary (e : Entry ν) : Summary :=
  ⟨e.name, e.accepts, e.isFactory, e.parameters, e.description, e.standard, e.origin⟩

/-- What a factory makes from arguments that fit its parameters. -/
def made [Host ν] (e : Entry ν)
    (make : List (Value ν) → Except (Objection ν) (Document ν → Step ν)) (args : List (Value ν)) :
    Except (Failure ν) (Document ν → Step ν) :=
  match make args with
  | .ok run => .ok run
  | .error (.refuse reason) => .error (.rejected e.name args reason)
  | .error (.fail f) => .error f

/-- The transformation for the given arguments, before it is guarded. -/
def instantiate [Host ν] (e : Entry ν) (args : List (Value ν)) :
    Except (Failure ν) (Document ν → Step ν) :=
  match e.form with
  | .plain run => if args.isEmpty then .ok run else .error (.rejected e.name args .takesNone)
  | .factory signature make =>
    (signature.fold args).bind fun args =>
      match signature.mismatch? args.length with
      | some reason => .error (.rejected e.name args reason)
      | none => e.made make args

def bind [Host ν] (e : Entry ν) (args : List (Value ν)) (doc : Document ν) :
    Except (Failure ν) (Step ν) :=
  (e.instantiate args).map fun run => guarded e.accepts (run doc)

end Entry

end Harvest
