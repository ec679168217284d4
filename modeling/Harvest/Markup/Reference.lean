import Harvest.Markup.Entity
import Harvest.Number.Decimal

/-!
# Character references

A reference names a code point by its number or by a word of the table. Numbers that stand for no
character give the replacement character, and those of the old control range are read as the code
page that was meant. In running text a name extends as far as it can and needs no semicolon; in an
attribute value the older names may run into the text behind them.
-/

namespace Harvest.Markup

def replacementChar : Char := '\ufffd'

/-- The code points that the control range from 0x80 on was used for. -/
def controlRange : Array Nat := #[
  0x20ac, 0x81, 0x201a, 0x192, 0x201e, 0x2026, 0x2020, 0x2021, 0x2c6, 0x2030, 0x160, 0x2039, 0x152,
  0x8d, 0x17d, 0x8f, 0x90, 0x2018, 0x2019, 0x201c, 0x201d, 0x2022, 0x2013, 0x2014, 0x2dc, 0x2122,
  0x161, 0x203a, 0x153, 0x9d, 0x17e, 0x178]

/-- The character that a number refers to. -/
def numbered (n : Nat) : Char :=
  if n = 0 then replacementChar
  else if 0x80 ≤ n ∧ n < 0xA0 then Char.ofNat (controlRange[n - 0x80]?.getD n)
  else if n.isValidChar then Char.ofNat n
  else replacementChar

/-- Numbers that refer to nothing in an attribute value. -/
def isDropped (n : Nat) : Bool :=
  (1 ≤ n && n ≤ 8) || n == 0xB || (0xE ≤ n && n ≤ 0x1F) || n == 0x7F ||
    (0xFDD0 ≤ n && n ≤ 0xFDEF) || (n % 0x10000 ≥ 0xFFFE && n ≤ 0x10FFFF)

/-! ### Numbers -/

def isAsciiDigit (c : Char) : Bool := '0' ≤ c && c ≤ '9'

def isAsciiLetter (c : Char) : Bool := ('a' ≤ c && c ≤ 'z') || ('A' ≤ c && c ≤ 'Z')

def isHexDigit (c : Char) : Bool :=
  isAsciiDigit c || ('a' ≤ c && c ≤ 'f') || ('A' ≤ c && c ≤ 'F')

def hexDigitValue (c : Char) : Nat :=
  if isAsciiDigit c then c.toNat - 48 else if c.toNat < 97 then c.toNat - 55 else c.toNat - 87

/-- The digits of a numeric reference, whether they are hexadecimal, and the rest. The text starts
behind the number sign. -/
def splitNumber? (t : Text) : Option (Text × Bool × Text) :=
  match t with
  | [] => none
  | c :: r =>
    let hex := r.takeWhile isHexDigit
    let decimal := t.takeWhile isAsciiDigit
    if (c = 'x' ∨ c = 'X') ∧ hex ≠ [] then some (hex, true, r.dropWhile isHexDigit)
    else if decimal ≠ [] then some (decimal, false, t.dropWhile isAsciiDigit)
    else none

/-- The number that the digits denote; the error is their count when decimal ones are too many. -/
def numberOf (digits : Text) (hexadecimal : Bool) : Except Nat Nat :=
  if hexadecimal then .ok (digits.foldl (fun n c => 16 * n + hexDigitValue c) 0)
  else if Number.digitLimit < digits.length then .error digits.length
  else .ok (Text.ofDigits digits)

def dropSemicolon : Text → Text
  | ';' :: r => r
  | t => t

/-! ### Attribute values -/

/-- The longest older name that a text starts with, of at most `n` letters, and what it stands
for. -/
def olderName? (t : Text) : Nat → Option (Text × Text)
  | 0 | 1 => none
  | n + 1 =>
    match Entity.find? (t.take (n + 1)) with
    | some e => if e.older then some (e.value, t.drop (n + 1)) else olderName? t n
    | none => olderName? t n

def endsName (c : Char) : Bool :=
  c == '\t' || c == '\n' || c == '\x0c' || c == ' ' || c == '<' || c == '&' || c == '#' || c == ';'

/-- What a name stands for, given with whether a semicolon follows it. -/
def namedValue (name : Text) (closed : Bool) : Text :=
  match (Entity.find? name).filter fun e => closed || e.older with
  | some e => e.value
  | none =>
    let tail := if closed then [';'] else []
    match olderName? name (if closed then name.length else name.length - 1) with
    | some (v, r) => v ++ r ++ tail
    | none => '&' :: name ++ tail

/-- An attribute value with its references replaced. The fuel is the length of the text. -/
def resolve : Nat → Text → Except Nat Text
  | 0, t => .ok t
  | _, [] => .ok []
  | fuel + 1, '&' :: '#' :: r =>
    match splitNumber? r with
    | none => (resolve fuel ('#' :: r)).map ('&' :: ·)
    | some (digits, hexadecimal, rest) => do
      let n ← numberOf digits hexadecimal
      let others ← resolve fuel (dropSemicolon rest)
      let isControl := decide (0x80 ≤ n ∧ n < 0xA0)
      return if isDropped n && !isControl then others else numbered n :: others
  | fuel + 1, '&' :: r =>
    let name := (r.takeWhile fun c => !endsName c).take 32
    let rest := r.drop name.length
    if name = [] then (resolve fuel r).map ('&' :: ·)
    else (resolve fuel (dropSemicolon rest)).map
      (namedValue name (rest.head? = some ';') ++ ·)
  | fuel + 1, c :: r => (resolve fuel r).map (c :: ·)

def resolveValue (t : Text) : Except Nat Text := resolve t.length t

/-! ### Running text -/

/-- What a name in running text stands for; an unknown one is kept without its semicolon. -/
def namedText (name : Text) : Text :=
  match Entity.find? name with
  | some e => e.value
  | none => '&' :: name

end Harvest.Markup
