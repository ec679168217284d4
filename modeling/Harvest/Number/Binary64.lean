/-!
# Floating-point numbers as exact values

A finite float is a signed multiple `m * 2 ^ e` of a power of two. Rounding goes the other way: the
float nearest to a quotient of natural numbers, an exact tie going to the even multiple, and
infinity from half a unit beyond the largest finite float on.
-/

namespace Harvest.Number

-- Powers here are the built-in ones, also where a general algebraic power is in scope.
attribute [local instance (high)] instPowNat instNatPowNat Int.instNatPow

inductive Parts where
  | nan
  | infinite (negative : Bool)
  | finite (negative : Bool) (mantissa : Nat) (exponent : Int)
  deriving DecidableEq, Repr

def signBit : Nat := 2 ^ (63 : Nat)

def unit : Nat := 2 ^ (52 : Nat)

def parts (x : Float) : Parts :=
  let bits := x.toBits.toNat
  let negative := decide (signBit ≤ bits)
  let biased := bits / unit % 2048
  let fraction := bits % unit
  if biased = 2047 then (if fraction = 0 then .infinite negative else .nan)
  else if biased = 0 then .finite negative fraction (-1074)
  else .finite negative (unit + fraction) (biased - 1075)

def isFinite (x : Float) : Bool :=
  match parts x with
  | .finite .. => true
  | _ => false

/-- `num / den` rounded to the nearest integer, an exact tie to the even one. -/
def roundQuotient (num den : Nat) : Nat :=
  let q := num / den
  let r := num % den
  if 2 * r < den then q
  else if den < 2 * r then q + 1
  else if q % 2 = 0 then q else q + 1

/-- `num / den / 2 ^ e` rounded to the nearest integer. -/
def multipleOf (num den : Nat) (e : Int) : Nat :=
  if 0 ≤ e then roundQuotient num (den * 2 ^ e.toNat) else roundQuotient (num * 2 ^ (-e).toNat) den

/-- Whether `num / den / 2 ^ e` is at least `2 ^ 53`. -/
def tooFine (num den : Nat) (e : Int) : Bool :=
  if 0 ≤ e then decide (den * 2 ^ (e.toNat + 53) ≤ num)
  else decide (den * 2 ^ (53 : Nat) ≤ num * 2 ^ (-e).toNat)

/-- The exponent of the unit in which `num / den` is rounded: the quotient has 53 binary places in
it, unless it is so small that the least unit is coarser. -/
def unitExponent (num den : Nat) : Int :=
  let e := max (-1074) ((num.log2 : Int) - den.log2 - 53)
  if tooFine num den e then e + 1 else e

/-- The bits of the float nearest to `num / den`, without a sign. -/
def nearestBits (num den : Nat) : Nat :=
  if num = 0 then 0
  else
    let e := unitExponent num den
    min ((e + 1074).toNat * unit + multipleOf num den e) (2047 * unit)

def nearest (negative : Bool) (num den : Nat) : Float :=
  Float.ofBits (UInt64.ofNat (nearestBits num den + if negative then signBit else 0))

def infinity (negative : Bool) : Float := nearest negative (2 ^ (1024 : Nat)) 1

def nan : Float := Float.ofBits 0x7FF8000000000000

/-- The float nearest to an integer; none when the integer is too large for a finite one. -/
def ofInt? (n : Int) : Option Float :=
  if nearestBits n.natAbs 1 = 2047 * unit then none else some (nearest (decide (n < 0)) n.natAbs 1)

/-- The greatest integer that is at most the signed `m * 2 ^ e`. -/
def floorParts (negative : Bool) (m : Nat) (e : Int) : Int :=
  let n : Int := if negative then -(m : Int) else m
  if 0 ≤ e then n * 2 ^ e.toNat else n / 2 ^ (-e).toNat

def floor? (x : Float) : Option Int :=
  match parts x with
  | .finite negative m e => some (floorParts negative m e)
  | _ => none

/-- The integer that a float denotes when it is one. -/
def toInt? (x : Float) : Option Int :=
  match parts x with
  | .finite negative m e =>
    if 0 ≤ e ∨ m % 2 ^ (-e).toNat = 0 then some (floorParts negative m e) else none
  | _ => none

end Harvest.Number
