import Harvest.Outcome

/-!
# Documents

What the engine asks of a document, whatever tree stands behind it, and how a node appears as a
value. Each capability may fail. Only the two searches count as queries; every other reading of a
node leaves no trace.
-/

namespace Harvest

structure Document (ν : Type) where
  value : ν → Value ν
  findOne : ν → Text → Except (Failure ν) (Value ν)
  findAll : ν → Text → Except (Failure ν) (List (Value ν))
  innerHtml : ν → Except (Failure ν) Text
  innerText : ν → Except (Failure ν) Text
  formValue : ν → Except (Failure ν) (Option Text)
  attributeValue : ν → Text → Except (Failure ν) (Option Text)
  detached : Text → Except (Failure ν) ν
  childNodes : ν → Except (Failure ν) (List (Value ν))
  nodeValue : Value ν → Except (Failure ν) (Option Text)

namespace Document

variable {ν : Type} (doc : Document ν)

/-- The first match below a node, or an absent value. -/
def queryOne (n : ν) (selector : Text) : Outcome ν (Value ν) :=
  .queried (.one n selector) (doc.findOne n selector)

def queryAll (n : ν) (selector : Text) : Outcome ν (List (Value ν)) :=
  .queried (.all n selector) (doc.findAll n selector)

end Document

/-- A unary transformation that is ready to run. -/
abbrev Step (ν : Type) := Value ν → Outcome ν (Value ν)

/-- A text that may be missing, as a value. -/
def Value.ofText? {ν : Type} : Option Text → Value ν
  | none => .absent
  | some t => .text t

end Harvest
