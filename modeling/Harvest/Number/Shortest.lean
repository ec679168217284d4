import Harvest.Number.Binary64
import Harvest.Text.Basic

/-!
# The shortest decimal of a float

Of all decimals that round to a given float the one with the fewest digits is written, and of those
the nearest; an exact tie goes to the even last digit. Grids of one, two, and up to seventeen digits
are tried in exact arithmetic, where only the two neighbours of the float on a grid can qualify.
-/

namespace Harvest.Number

-- Powers here are the built-in ones, also where a general algebraic power is in scope.
attribute [local instance (high)] instPowNat instNatPowNat Int.instNatPow

/-- The positive rational `num / den` together with the ends of the interval of reals that round to
it; all three share the denominator, and the ends belong to the interval when `closed` holds. -/
structure Rounded where
  num : Nat
  low : Nat
  high : Nat
  den : Nat
  closed : Bool

/-- The interval of `m * 2 ^ e`. The gap below a power of two is half as wide as the gap above. -/
def Rounded.ofParts (m : Nat) (e : Int) : Rounded :=
  let below := if m = unit ∧ -1074 < e then 1 else 2
  let scale := if 2 ≤ e then 2 ^ (e - 2).toNat else 1
  { num := 4 * m * scale
    low := (4 * m - below) * scale
    high := (4 * m + 2) * scale
    den := if 2 ≤ e then 1 else 2 ^ (2 - e).toNat
    closed := m % 2 = 0 }

/-- Whether `d * 10 ^ p` lies in the interval. -/
def Rounded.contains (v : Rounded) (d : Nat) (p : Int) : Bool :=
  let x := if 0 ≤ p then d * 10 ^ p.toNat * v.den else d * v.den
  let scale := if 0 ≤ p then 1 else 10 ^ (-p).toNat
  if v.closed then decide (v.low * scale ≤ x) && decide (x ≤ v.high * scale)
  else decide (v.low * scale < x) && decide (x < v.high * scale)

/-- Whether `10 ^ k` is at most the number. -/
def Rounded.reaches (v : Rounded) (k : Int) : Bool :=
  if 0 ≤ k then decide (10 ^ k.toNat * v.den ≤ v.num) else decide (v.den ≤ v.num * 10 ^ (-k).toNat)

/-- The exponent of the leading decimal place, found next to an estimate from the binary length. -/
def Rounded.magnitude (v : Rounded) : Int :=
  let k := (((v.num.log2 : Int) - v.den.log2) * 30103) / 100000
  if v.reaches (k + 1) then k + 1 else if v.reaches k then k else k - 1

/-- The grid point in steps of `10 ^ p` that stands for the number, when one of its two neighbours
lies in the interval. -/
def Rounded.onGrid? (v : Rounded) (p : Int) : Option Nat :=
  let num := if 0 ≤ p then v.num else v.num * 10 ^ (-p).toNat
  let den := if 0 ≤ p then v.den * 10 ^ p.toNat else v.den
  let q := num / den
  match v.contains q p, v.contains (q + 1) p with
  | true, true => some (roundQuotient num den)
  | true, false => some q
  | false, true => some (q + 1)
  | false, false => none

def Rounded.search (v : Rounded) (k : Int) : Nat → Nat → Nat × Int
  | 0, digits => (v.num / v.den, digits)
  | fuel + 1, digits =>
    match v.onGrid? (k - digits) with
    | some d => (d, k - digits)
    | none => v.search k fuel (digits + 1)

/-- Removes the zeros at the end of a decimal. -/
def stripZeros : Nat → Nat × Int → Nat × Int
  | 0, d => d
  | fuel + 1, (d, p) => if d % 10 = 0 ∧ d ≠ 0 then stripZeros fuel (d / 10, p + 1) else (d, p)

/-- Digits and exponent of the shortest decimal of `m * 2 ^ e`. -/
def shortest (m : Nat) (e : Int) : Nat × Int :=
  let v := Rounded.ofParts m e
  stripZeros 20 (v.search v.magnitude 18 0)

def decimalDigits (n : Nat) : Text := Nat.toDigits 10 n

def exponentText (k : Int) : Text :=
  let digits := decimalDigits k.natAbs
  'e' :: (if k < 0 then '-' else '+') :: (if digits.length < 2 then '0' :: digits else digits)

/-- Writes `d * 10 ^ p`: positionally and with a point when the leading place is from `10 ^ -4` to
`10 ^ 15`, else with one digit before the point and an exponent. -/
def positiveText (d : Nat) (p : Int) : Text :=
  let digits := decimalDigits d
  let k := p + digits.length - 1
  if k < -4 ∨ 16 ≤ k then
    match digits with
    | [] => []
    | c :: [] => c :: exponentText k
    | c :: r => c :: '.' :: r ++ exponentText k
  else if 0 ≤ p then digits ++ List.replicate p.toNat '0' ++ ['.', '0']
  else if 0 ≤ k then digits.take (k + 1).toNat ++ '.' :: digits.drop (k + 1).toNat
  else '0' :: '.' :: List.replicate (-k - 1).toNat '0' ++ digits

def signed (negative : Bool) (t : Text) : Text := if negative then '-' :: t else t

def floatText (x : Float) : Text :=
  match parts x with
  | .nan => "nan"
  | .infinite negative => signed negative "inf"
  | .finite negative 0 _ => signed negative "0.0"
  | .finite negative m e =>
    let d := shortest m e
    signed negative (positiveText d.1 d.2)

end Harvest.Number
