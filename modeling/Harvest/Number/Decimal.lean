import Harvest.Number.Shortest
import Harvest.Text.Blank
import Harvest.Text.Digit

/-!
# Decimal texts of numbers

Integers of more than 4300 digits are neither written nor read. A decimal has a whole part, a
fraction and an exponent, of which most may be missing; its value is the nearest float, unless it
has more than a thousand million digits. A complete number text may also have blanks around it and
single low lines between its digits.
-/

namespace Harvest.Number

-- Powers here are the built-in ones, also where a general algebraic power is in scope.
attribute [local instance (high)] instPowNat instNatPowNat Int.instNatPow

open Harvest.Text

def digitLimit : Nat := 4300

/-- The decimal text of an integer; none beyond the limit. -/
def intText? (n : Int) : Option Text :=
  let digits := decimalDigits n.natAbs
  if digits.length ≤ digitLimit then some (signed (decide (n < 0)) digits) else none

/-- A leading sign, which may be missing, and the rest. -/
def splitSign : Text → Text × Text
  | '+' :: r => (['+'], r)
  | '-' :: r => (['-'], r)
  | t => ([], t)

def isNegative (sign : Text) : Bool := sign == ['-']

def withSign (sign : Text) (n : Nat) : Int := if isNegative sign then -(n : Int) else n

/-- The digits with at most one point that a decimal starts with, at least one digit among them. -/
def splitMantissa (t : Text) : Option (Text × Text) :=
  let whole := t.takeWhile isDigit
  match t.dropWhile isDigit with
  | '.' :: r =>
    let fraction := r.takeWhile isDigit
    if whole.isEmpty && fraction.isEmpty then none
    else some (whole ++ '.' :: fraction, r.dropWhile isDigit)
  | r => if whole.isEmpty then none else some (whole, r)

/-- The exponent that follows a mantissa; empty when the letter is not followed by digits. -/
def splitExponent : Text → Text × Text
  | [] => ([], [])
  | c :: r =>
    let sign := (splitSign r).1
    let digits := (splitSign r).2.takeWhile isDigit
    if (c = 'e' ∨ c = 'E') ∧ digits ≠ [] then
      (c :: sign ++ digits, (splitSign r).2.dropWhile isDigit)
    else ([], c :: r)

/-- The longest decimal without a sign that the text starts with. -/
def splitDecimal (t : Text) : Option (Text × Text) :=
  (splitMantissa t).map fun p =>
    let q := splitExponent p.2
    (p.1 ++ q.1, q.2)

/-- The float nearest to `m * 10 ^ e`; exponents far outside the range are not computed with. -/
def ofDecimal (negative : Bool) (m : Nat) (e : Int) : Float :=
  let magnitude := (m.log2 : Int) * 30103 / 100000 + e
  if m = 0 then nearest negative 0 1
  else if 400 < magnitude then infinity negative
  else if magnitude < -400 then nearest negative 0 1
  else if 0 ≤ e then nearest negative (m * 10 ^ e.toNat) 1
  else nearest negative m (10 ^ (-e).toNat)

def wholePart (t : Text) : Text := t.takeWhile isDigit

def fractionPart (t : Text) : Text :=
  match t.dropWhile isDigit with
  | '.' :: s => s.takeWhile isDigit
  | _ => []

/-- The power of ten in a decimal without a sign. From ten digits on, zeros in front not counted,
its size no longer matters. -/
def powerPart (t : Text) : Int :=
  match (t.dropWhile isDigit).dropWhile fun c => c == '.' || isDigit c with
  | _ :: s =>
    let n := ofDigits (splitSign s).2
    withSign (splitSign s).1 (if n < 1000000000 then n else 1100000000)
  | [] => 0

def decimalLimit : Nat := 1000000000

/-- Whether a decimal without a sign has too many digits, zeros in front not counted, or too long a
fraction. -/
def isOverlong (t : Text) : Bool :=
  let significant := (wholePart t ++ fractionPart t).dropWhile fun c => digit? c == some 0
  decide (decimalLimit < significant.length) || decide (decimalLimit < (fractionPart t).length)

/-- The value of a decimal without a sign; none when it is too long. -/
def decimalValue? (negative : Bool) (t : Text) : Option Float :=
  if isOverlong t then none
  else some (ofDecimal negative (ofDigits (wholePart t ++ fractionPart t))
    (powerPart t - (fractionPart t).length))

/-- Removes low lines that stand singly between two digits; none when there are others. -/
def ungroup? : Bool → Text → Option Text
  | _, [] => some []
  | _, ['_'] => none
  | afterDigit, '_' :: c :: r =>
    if afterDigit && isDigit c then (ungroup? true r).map (c :: ·) else none
  | _, c :: r => (ungroup? (isDigit c) r).map (c :: ·)

/-- The integer that a complete text denotes. -/
def integer? (t : Text) : Option Int :=
  (ungroup? false (trim t)).bind fun u =>
    let digits := (splitSign u).2
    if digits ≠ [] ∧ digits.all isDigit ∧ digits.length ≤ digitLimit then
      some (withSign (splitSign u).1 (ofDigits digits))
    else none

/-- The float that a complete text denotes, unless it is too long; the names of infinity and of what
is no number may be in either case. -/
def float? (t : Text) : Option Float :=
  (ungroup? false (trim t)).bind fun u =>
    let negative := isNegative (splitSign u).1
    let r := (splitSign u).2
    let name := String.ofList (lowerName r)
    if name = "inf" ∨ name = "infinity" then some (infinity negative)
    else if name = "nan" then some nan
    else match splitDecimal r with
      | some (d, []) => decimalValue? negative d
      | _ => none
where
  lowerName (r : Text) : Text := r.map Char.toLower

end Harvest.Number
