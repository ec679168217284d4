import Harvest.Registry.Basic

/-!
# Descriptors

An element of a chain is a text or a callable. A text that is a registered name stands for that
transformation; otherwise its part before the first colon is the name and the pieces behind it are
the static arguments, neither trimmed nor converted. Everything else cannot be resolved.
-/

namespace Harvest

/-- A transformation given in place, with the name it is known by. -/
structure Callable (ν : Type) where
  name : Text
  run : Step ν

inductive Element (ν : Type) where
  | text (t : Text)
  | callable (c : Callable ν)
  | other (v : Value ν)

inductive Descriptor (ν : Type) where
  | byName (name : Text)
  | byNameWithArgs (name : Text) (args : List Text)
  | inline (c : Callable ν)

namespace Descriptor

variable {ν : Type} [Host ν]

/-- The name and the pieces after it. A text without a colon has one empty piece. -/
def split (t : Text) : Text × List Text :=
  let p := Text.partition ':' t
  (p.1, Text.split [':'] p.2)

def parse (x : Element ν) (r : Registry ν) : Except (Failure ν) (Descriptor ν) :=
  match x with
  | .text t =>
    if r.holds t then .ok (.byName t)
    else if t.contains ':' then
      let p := split t
      if r.holds p.1 then .ok (.byNameWithArgs p.1 p.2) else .error (.notFound (.text p.1))
    else .error (.notFound (.text t))
  | .callable c => .ok (.inline c)
  | .other v => .error (.notFound v)

/-- Makes the step that a name with arguments stands for. -/
def bindEntry (name : Text) (args : List Text) (r : Registry ν) (doc : Document ν) :
    Except (Failure ν) (Step ν) :=
  match r.get? name with
  | none => .error (.notFound (.text name))
  | some e => e.bind (args.map Value.text) doc

def bind (d : Descriptor ν) (r : Registry ν) (doc : Document ν) : Except (Failure ν) (Step ν) :=
  match d with
  | .inline c => .ok c.run
  | .byName name => bindEntry name [] r doc
  | .byNameWithArgs name args => bindEntry name args r doc

/-- Makes the step that a text with arguments stands for, without trying the whole text as a name
first. -/
def bindText (t : Text) (r : Registry ν) (doc : Document ν) : Except (Failure ν) (Step ν) :=
  let p := split t
  bindEntry p.1 p.2 r doc

end Descriptor

end Harvest
