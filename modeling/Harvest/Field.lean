import Harvest.Chain

/-!
# Field specifications

How one output value is derived: a condition, a selector and a chain, each of which may be missing.
A specification arrives as settings under keys, or already checked. Checking names every setting of
the wrong type and every key that is unknown.
-/

namespace Harvest

/-- A condition is the result that asking it gives. -/
structure FieldSpec (ν : Type) where
  condition : Option (Except (Failure ν) (Value ν))
  selector : Option Text
  elements : Option (List (Element ν))

inductive Setting (ν : Type) where
  | value (v : Value ν)
  | condition (result : Except (Failure ν) (Value ν))
  | elements (xs : List (Element ν))

inductive RawSpec (ν : Type) where
  | settings (entries : List (Text × Setting ν))
  | checked (spec : FieldSpec ν)
  | other

namespace FieldSpec

variable {ν : Type}

/-- A bytes value that is the encoding of a text. -/
def decode? (bs : List UInt8) : Option Text :=
  (String.fromUTF8? (ByteArray.mk bs.toArray)).map String.toList

def readCondition : Option (Setting ν) → Except IssueKind (Option (Except (Failure ν) (Value ν)))
  | none | some (.value .absent) => .ok none
  | some (.condition r) => .ok (some r)
  | some _ => .error .callableType

def readSelector : Option (Setting ν) → Except IssueKind (Option Text)
  | none | some (.value .absent) => .ok none
  | some (.value (.text t)) => .ok (some t)
  | some (.value (.bytes bs)) =>
    match decode? bs with
    | some t => .ok (some t)
    | none => .error .textEncoding
  | some _ => .error .textType

def readElements : Option (Setting ν) → Except IssueKind (Option (List (Element ν)))
  | none | some (.value .absent) => .ok none
  | some (.elements xs) => .ok (some xs)
  | some _ => .error .listType

def knownKeys : List Text := ["condition".toList, "selector".toList, "transformations".toList]

def issue {α : Type} (key : Text) : Except IssueKind α → List Issue
  | .ok _ => []
  | .error kind => [⟨[key], kind⟩]

/-- The specification whose parts are all in order, or everything that is wrong with them. -/
def assemble (condition : Except IssueKind (Option (Except (Failure ν) (Value ν))))
    (selector : Except IssueKind (Option Text))
    (elements : Except IssueKind (Option (List (Element ν)))) (unknown : List Text) :
    Except (List Issue) (FieldSpec ν) :=
  match condition, selector, elements, unknown with
  | .ok c, .ok s, .ok xs, [] => .ok ⟨c, s, xs⟩
  | _, _, _, unknown =>
    .error (issue "condition".toList condition ++ issue "selector".toList selector ++
      issue "transformations".toList elements ++ unknown.map fun key => ⟨[key], .extraForbidden⟩)

def check (entries : List (Text × Setting ν)) : Except (List Issue) (FieldSpec ν) :=
  assemble (readCondition (entries.lookup "condition".toList))
    (readSelector (entries.lookup "selector".toList))
    (readElements (entries.lookup "transformations".toList))
    ((entries.map (·.1)).filter fun key => !knownKeys.contains key)

/-- Whether the field appears in the output: it has no condition, or one that holds. -/
def isActive (f : FieldSpec ν) : Except (Failure ν) Bool :=
  match f.condition with
  | none => .ok true
  | some r => r.map Value.truthy

end FieldSpec

def RawSpec.validate {ν : Type} : RawSpec ν → Except (Failure ν) (FieldSpec ν)
  | .checked spec => .ok spec
  | .settings entries =>
    match FieldSpec.check entries with
    | .ok spec => .ok spec
    | .error issues => .error (.invalidSpec issues)
  | .other => .error (.invalidSpec [⟨[], .modelType⟩])

end Harvest
