import Harvest.Failure

/-!
# Parameters of factories

Static arguments arrive as the pieces of a text that was cut at every colon. Folding gives surplus
pieces back to the first argument and lets an empty piece at the end count as absent when its
parameter is optional. Arguments fit if every required parameter gets one and none is left over.
-/

namespace Harvest

inductive ParameterKind where
  | positional
  | rest
  | keyword
  deriving DecidableEq, Repr

structure Parameter where
  name : Text
  kind : ParameterKind
  required : Bool
  deriving DecidableEq, Repr

abbrev Signature := List Parameter

namespace Signature

variable {ν : Type} [Host ν]

def positional (s : Signature) : List Parameter := s.filter (·.kind = .positional)

def arity (s : Signature) : Nat := s.positional.length

def requiredCount (s : Signature) : Nat := (s.positional.filter (·.required)).length

def hasRest (s : Signature) : Bool := s.any (·.kind = .rest)

/-- The texts of values that are all texts, or the first that is none and its position. -/
def textsFrom (index : Nat) : List (Value ν) → Except (Failure ν) (List Text)
  | [] => .ok []
  | .text t :: vs => (textsFrom (index + 1) vs).map (t :: ·)
  | v :: _ => .error (.notJoinable index v.typeName)

def joinColons (vs : List (Value ν)) : Except (Failure ν) (Value ν) :=
  (textsFrom 0 vs).map fun ts => .text (Text.join [':'] ts)

/-- Joins surplus arguments to the first, so that at most `n` are left. -/
def foldSurplus (n : Nat) (args : List (Value ν)) : Except (Failure ν) (List (Value ν)) :=
  if n < args.length then
    let surplus := args.length - n + 1
    (joinColons (args.take surplus)).map (· :: args.drop surplus)
  else .ok args

/-- Drops empty arguments at the end while more are left than the required ones. Pieces that are all
empty were one argument made of colons, unless several are required. -/
def dropEmpty (required : Nat) (args : List (Value ν)) : Except (Failure ν) (List (Value ν)) :=
  if _h : max required 1 < args.length then
    match args.getLast? with
    | some v =>
      if v.isEmptyText then
        if required ≤ 1 ∧ !args.dropLast.any Value.truthy then (joinColons args).map ([·])
        else dropEmpty required args.dropLast
      else .ok args
    | none => .ok args
  else .ok args
termination_by args.length
decreasing_by
  rw [List.length_dropLast]
  omega

def fold (s : Signature) (args : List (Value ν)) : Except (Failure ν) (List (Value ν)) :=
  if s.hasRest || s.positional.isEmpty then .ok args
  else (foldSurplus s.arity args).bind (dropEmpty s.requiredCount)

/-- Why a number of arguments does not fit, if it does not. -/
def mismatch? : Signature → Nat → Option Refusal
  | [], 0 => none
  | [], _ + 1 => some .tooMany
  | p :: ps, n =>
    match p.kind, n with
    | .rest, _ => mismatch? ps 0
    | .positional, n + 1 => mismatch? ps n
    | .keyword, _ + 1 => some .tooMany
    | _, 0 => if p.required then some (.missing p.name) else mismatch? ps 0

end Signature

end Harvest
