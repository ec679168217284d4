import Harvest.Descriptor

/-!
# Chains

A chain is resolved as a whole, or each of its elements is resolved when its turn comes. Running it
passes a value through its steps from left to right.
-/

namespace Harvest

structure Chain (ν : Type) where
  steps : List (Descriptor ν × Step ν)

namespace Chain

variable {ν : Type}

def descriptors (c : Chain ν) : List (Descriptor ν) := c.steps.map (·.1)

def length (c : Chain ν) : Nat := c.steps.length

def runSteps : List (Step ν) → Step ν
  | [], v => pure v
  | step :: steps, v => do runSteps steps (← step v)

def run (c : Chain ν) : Step ν := runSteps (c.steps.map (·.2))

variable [Host ν]

def resolveElement (x : Element ν) (r : Registry ν) (doc : Document ν) :
    Except (Failure ν) (Descriptor ν × Step ν) := do
  let d ← Descriptor.parse x r
  return (d, ← d.bind r doc)

/-- The steps of all elements, or the failure of the first that cannot be resolved. -/
def resolveSteps (r : Registry ν) (doc : Document ν) :
    List (Element ν) → Except (Failure ν) (List (Descriptor ν × Step ν))
  | [] => .ok []
  | x :: xs => do
    let step ← resolveElement x r doc
    return step :: (← resolveSteps r doc xs)

def resolve (xs : List (Element ν)) (r : Registry ν) (doc : Document ν) :
    Except (Failure ν) (Chain ν) :=
  (resolveSteps r doc xs).map Chain.mk

/-- Resolves each element only when the value has come so far. -/
def applyEach (r : Registry ν) (doc : Document ν) : List (Element ν) → Step ν
  | [], v => pure v
  | x :: xs, v => do
    let (_, step) ← Outcome.of (resolveElement x r doc)
    applyEach r doc xs (← step v)

end Chain

end Harvest
