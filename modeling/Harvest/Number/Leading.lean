import Harvest.Number.Decimal

/-!
# Numbers at the start of a text

Reading skips blanks, takes the longest number that follows and ignores the rest of the text. An
integer is a sign and digits, a decimal may also be the word for infinity.
-/

namespace Harvest.Number

open Harvest.Text

/-- The sign and the maximal run of digits at the start of a text. -/
def leadingDigits (t : Text) : Text × Text :=
  let p := splitSign (trimLeft t)
  (p.1, p.2.takeWhile isDigit)

/-- The leading integer, none when the text starts with no number; the error is the number of digits
when there are too many. -/
def leadingInteger (t : Text) : Except Nat (Option Int) :=
  let p := leadingDigits t
  if p.2 = [] then .ok none
  else if digitLimit < p.2.length then .error p.2.length
  else .ok (some (withSign p.1 (ofDigits p.2)))

def infinityWord : Text := "Infinity"

/-- The sign and the longest decimal or word for infinity at the start of a text. -/
def leadingDecimal (t : Text) : Option (Text × Text) :=
  let p := splitSign (trimLeft t)
  if infinityWord.isPrefixOf p.2 then some (p.1, infinityWord)
  else (splitDecimal p.2).map fun q => (p.1, q.1)

/-- The leading float, none when the text starts with no number; the error is the number when it is
too long. -/
def leadingFloat (t : Text) : Except Text (Option Float) :=
  match leadingDecimal t with
  | none => .ok none
  | some (sign, number) =>
    if number = infinityWord then .ok (some (infinity (isNegative sign)))
    else
      match decimalValue? (isNegative sign) number with
      | some x => .ok (some x)
      | none => .error (sign ++ number)

end Harvest.Number
