/-!
# Texts as lists of code points

All positions and lengths count code points. A text is cut at a delimiter from left to right, and
the pieces joined by that delimiter are the text again.
-/

namespace Harvest

abbrev Text := List Char

instance : Coe String Text := ⟨String.toList⟩

/-- The code points that names stand for. Not every text is a name. -/
abbrev CharacterNames := Text → Option Char

def CharacterNames.empty : CharacterNames := fun _ => none

namespace Text

/-- The parts before and after the first occurrence of `d`. -/
def cut? (d : Text) : Text → Option (Text × Text)
  | [] => if d.isEmpty then some ([], []) else none
  | c :: r =>
    if d.isPrefixOf (c :: r) then some ([], (c :: r).drop d.length)
    else (cut? d r).map fun p => (c :: p.1, p.2)

theorem cut?_eq_some {d t a b : Text} (h : cut? d t = some (a, b)) : t = a ++ d ++ b := by
  induction t generalizing a b with
  | nil =>
    unfold cut? at h
    split at h
    · simp_all
    · simp at h
  | cons c r ih =>
    unfold cut? at h
    split at h
    · rename_i hd
      obtain ⟨rfl, rfl⟩ := Prod.mk.injEq .. ▸ Option.some.injEq .. ▸ h
      obtain ⟨s, hs⟩ := List.isPrefixOf_iff_prefix.1 hd
      simp [← hs]
    · obtain ⟨p, hp, hq⟩ := Option.map_eq_some_iff.1 h
      obtain ⟨rfl, rfl⟩ := Prod.mk.injEq .. ▸ hq
      rw [ih hp]
      simp

theorem length_of_cut? {d t a b : Text} (h : cut? d t = some (a, b)) :
    t.length = a.length + d.length + b.length := by
  rw [cut?_eq_some h, List.length_append, List.length_append]

/-- The pieces of `t` between the occurrences of the delimiter `c :: d`. -/
def pieces (c : Char) (d : Text) (t : Text) : List Text :=
  match h : cut? (c :: d) t with
  | none => [t]
  | some (a, b) =>
    have : b.length < t.length := by
      rw [length_of_cut? h]
      simp only [List.length_cons]
      omega
    a :: pieces c d b
termination_by t.length

/-- Cutting at the empty delimiter yields the single code points. -/
def split (d : Text) (t : Text) : List Text :=
  match d with
  | [] => t.map fun c => [c]
  | c :: d => pieces c d t

def join (d : Text) (ps : List Text) : Text := d.intercalate ps

/-- The text up to the first `c`, and the text after it when there is one. -/
def partition (c : Char) (t : Text) : Text × Text :=
  match cut? [c] t with
  | none => (t, [])
  | some p => p

end Text

end Harvest
