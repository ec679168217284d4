import Harvest.Text.Basic

/-!
# Blank code points

The Unicode white space that trimming removes, that number reading skips and that the white space
class of an expression matches. Markup has a smaller class of its own.
-/

namespace Harvest.Text

def isBlank (c : Char) : Bool :=
  let n := c.toNat
  (9 ≤ n && n ≤ 13) || (28 ≤ n && n ≤ 32) || n == 0x85 || n == 0xA0 || n == 0x1680 ||
    (0x2000 ≤ n && n ≤ 0x200A) || n == 0x2028 || n == 0x2029 || n == 0x202F || n == 0x205F ||
    n == 0x3000

def trimLeft (t : Text) : Text := t.dropWhile isBlank

def trimRight (t : Text) : Text := (t.reverse.dropWhile isBlank).reverse

def trim (t : Text) : Text := trimRight (trimLeft t)

/-- The maximal runs of code points that are not blank. -/
def words (t : Text) : List Text :=
  match h : trimLeft t with
  | [] => []
  | c :: r =>
    have : (r.dropWhile fun c => !isBlank c).length < t.length := by
      have h1 : (t.dropWhile isBlank).length ≤ t.length := (List.dropWhile_sublist _).length_le
      have h2 : (r.dropWhile fun c => !isBlank c).length ≤ r.length :=
        (List.dropWhile_sublist _).length_le
      have h3 : (t.dropWhile isBlank).length = r.length + 1 := by
        rw [show t.dropWhile isBlank = c :: r from h]
        rfl
      omega
    (c :: r.takeWhile fun c => !isBlank c) :: words (r.dropWhile fun c => !isBlank c)
termination_by t.length

/-- The five code points that markup itself treats as space. -/
def isMarkupSpace (c : Char) : Bool :=
  c == ' ' || c == '\n' || c == '\t' || c == '\x0c' || c == '\r'

end Harvest.Text
