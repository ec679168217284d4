import Harvest.Text.Printable

/-!
# Quoted texts

A text in a message stands between quotes. The quote is single unless the text has single quotes and
no double ones; the quote itself, the backslash and what cannot be printed are escaped.
-/

namespace Harvest.Text

def hexDigit (n : Nat) : Char := if n < 10 then Char.ofNat (48 + n) else Char.ofNat (87 + n)

/-- The last `width` hexadecimal digits of `n`. -/
def hex : Nat → Nat → Text
  | 0, _ => []
  | width + 1, n => hex width (n / 16) ++ [hexDigit (n % 16)]

def quoteFor (hasSingle hasDouble : Bool) : Char :=
  if hasSingle && !hasDouble then '"' else '\''

def escapeChar (q c : Char) : Text :=
  if c = q || c = '\\' then ['\\', c]
  else if c = '\t' then ['\\', 't']
  else if c = '\n' then ['\\', 'n']
  else if c = '\r' then ['\\', 'r']
  else if isPrintable c then [c]
  else if c.toNat < 0x100 then '\\' :: 'x' :: hex 2 c.toNat
  else if c.toNat < 0x10000 then '\\' :: 'u' :: hex 4 c.toNat
  else '\\' :: 'U' :: hex 8 c.toNat

def quoted (t : Text) : Text :=
  let q := quoteFor (t.contains '\'') (t.contains '"')
  q :: t.flatMap (escapeChar q) ++ [q]

/-- A byte string is quoted like a text of its bytes, except that only the printable bytes of the
seven-bit range stand for themselves. -/
def quotedBytes (bs : List UInt8) : Text :=
  let t := bs.map fun b => Char.ofNat b.toNat
  let q := quoteFor (t.contains '\'') (t.contains '"')
  'b' :: q :: t.flatMap (fun c =>
    if 127 ≤ c.toNat then '\\' :: 'x' :: hex 2 c.toNat else escapeChar q c) ++ [q]

end Harvest.Text
