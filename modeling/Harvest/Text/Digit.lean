import Harvest.Text.Basic

/-!
# Decimal digits

Every decimal digit of every script, given by the zeros: a script's ten digits stand in a row. All
of them read as numbers.
-/

namespace Harvest.Text

def zeros : List Nat := [
  48, 1632, 1776, 1984, 2406, 2534, 2662, 2790, 2918, 3046, 3174, 3302, 3430, 3558, 3664, 3792,
  3872, 4160, 4240, 6112, 6160, 6470, 6608, 6784, 6800, 6992, 7088, 7232, 7248, 42528, 43216,
  43264, 43472, 43504, 43600, 44016, 65296, 66720, 68912, 69734, 69872, 69942, 70096, 70384,
  70736, 70864, 71248, 71360, 71472, 71904, 72016, 72784, 73040, 73120, 92768, 92864, 93008,
  120782, 120792, 120802, 120812, 120822, 123200, 123632, 125264, 130032]

def digit? (c : Char) : Option Nat :=
  (zeros.find? fun z => decide (z ≤ c.toNat) && decide (c.toNat < z + 10)).map (c.toNat - ·)

def isDigit (c : Char) : Bool := (digit? c).isSome

/-- The number that a list of digits denotes, most significant first; other code points count
nothing. -/
def ofDigits (ds : Text) : Nat := ds.foldl (fun n c => 10 * n + (digit? c).getD 0) 0

end Harvest.Text
