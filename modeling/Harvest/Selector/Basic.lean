import Harvest.Text.Basic

/-!
# Selectors

A selector is a list of alternatives, its members. A member is a list of tests on one place of a
tree, all of which have to hold; it may ask for another member to hold at a place that a combinator
reaches.
-/

namespace Harvest.Selector

inductive Combinator where
  | descendant
  | child
  | adjacent
  | sibling
  deriving DecidableEq, Repr

/-- How an attribute value is compared. -/
inductive Comparison where
  | equal
  | initial
  | final
  | part
  | word
  | dashed
  deriving DecidableEq, Repr

structure Condition where
  comparison : Comparison
  value : Text
  ignoreCase : Bool
  deriving DecidableEq, Repr

/-- The positions `step * n + offset` for natural `n`. -/
structure Progression where
  step : Int
  offset : Int
  deriving DecidableEq, Repr

mutual

inductive Simple where
  | named (name : Text)
  | identified (id : Text)
  | classed (name : Text)
  | attributed (name : Text) (condition : Option Condition)
  | nth (positions : Progression) (sameName fromEnd : Bool)
  | empty
  | root
  | anyOf (alternatives : List Member)
  | noneOf (alternatives : List Member)

inductive Member where
  | single (tests : List Simple)
  | after (left : Member) (how : Combinator) (tests : List Simple)

end

def Progression.contains (p : Progression) (n : Nat) : Bool :=
  if p.step = 0 then decide ((n : Int) = p.offset)
  else decide (((n : Int) - p.offset) % p.step = 0) && decide (0 ≤ ((n : Int) - p.offset) / p.step)

end Harvest.Selector
