import Harvest.Expression.Reader
import Harvest.Proofs.Expression.Repetition

/-!
# Texts written as expressions

A text becomes an expression that matches it and nothing else when a backslash is put before each of
its code points that means something in expressions. Reading takes each backslash away again and
leaves the code points, one after the other, which match where the text stands.
-/

namespace Harvest

namespace Expression

/-- Code points that are escaped: those that mean something in an expression, and those that do so
in a class or where layout is free. -/
def specials : List Char :=
  ['(', ')', '[', ']', '\x7b', '\x7d', '?', '*', '+', '-', '|', '^', '$', '\\', '.', '&', '~',
    '#', ' ', '\t', '\n', '\r', '\x0b', '\x0c']

def escape (t : Text) : Text := t.flatMap fun c => if c ∈ specials then ['\\', c] else [c]

theorem escape_cons (c : Char) (t : Text) :
    escape (c :: t) = (if c ∈ specials then ['\\', c] else [c]) ++ escape t := List.flatMap_cons

theorem length_le_length_escape (t : Text) : t.length ≤ (escape t).length := by
  induction t with
  | nil => exact Nat.le_refl 0
  | cons c t ih =>
    rw [escape_cons, List.length_append, List.length_cons]
    split
    · rw [List.length_cons, List.length_singleton]
      omega
    · rw [List.length_singleton]
      omega

/-! ### Reading -/

variable {names : CharacterNames} {fuel : Nat} {first : Bool} {sc : Scope} {items : Items}
  {r t : Text} {x : Char}

/-- Behind a backslash a special code point names no class, and no other code point. -/
theorem named_of_mem_specials (hx : x ∈ specials) : categoryEscape x = none ∧
    (namedEscape x).getD x.toNat = x.toNat ∧ x.isDigit = false ∧ x.isAlpha = false := by
  have hall : specials.all (fun x => categoryEscape x = none ∧
      (namedEscape x).getD x.toNat = x.toNat ∧ x.isDigit = false ∧ x.isAlpha = false) = true := by
    decide
  exact of_decide_eq_true (List.all_eq_true.1 hall x hx)

theorem readEscape_of_mem_specials (o : Options) (hx : x ∈ specials) :
    readEscape names o sc x r = .ok ((o.codePoint x.toNat, .yes), r) := by
  obtain ⟨hcategory, hnamed, hdigit, halpha⟩ := named_of_mem_specials hx
  have hne : ∀ y : Char, y.isAlpha = true → x ≠ y := by
    rintro y hy rfl
    rw [halpha] at hy
    cases hy
  -- What else has a meaning behind a backslash is a letter or a digit.
  rw [readEscape, hcategory]
  cases hname : namedEscape x with
  | some n =>
    rw [hname, Option.getD_some] at hnamed
    rw [hnamed]
  | none =>
    simp only [if_neg (hne 'A' rfl), if_neg (hne 'Z' rfl), if_neg (hne 'b' rfl),
      if_neg (hne 'B' rfl), if_neg (hne 'x' rfl), if_neg (hne 'u' rfl), if_neg (hne 'U' rfl),
      if_neg (hne 'N' rfl), hdigit, halpha, Bool.false_eq_true, if_false]

/-- What is not special stands for itself. -/
theorem readSequence_of_not_mem_specials (hx : x ∉ specials) :
    readSequence names (fuel + 1) .plain first sc items (x :: r) =
      readSequence names fuel .plain first sc ((.set (.exactly x), .yes) :: items) r := by
  have hne : ∀ y ∈ specials, ¬ x = y := fun y hy heq => hx (heq ▸ hy)
  have hend : ¬ (decide (x = '|') || decide (x = ')')) = true := by
    simp [hne '|' (by decide), hne ')' (by decide)]
  have hcount : ¬ (decide (x = '*') || decide (x = '+') || decide (x = '?') ||
      decide (x = '\x7b')) = true := by
    simp [hne '*' (by decide), hne '+' (by decide), hne '?' (by decide), hne '\x7b' (by decide)]
  have hlayout : ∀ b, ¬ (Options.plain.verbose && b) = true := fun b => Bool.false_ne_true
  rw [readSequence]
  · rw [if_neg hend, if_neg (hlayout _), if_neg (hlayout _), if_neg (hne '[' (by decide)),
      if_neg hcount, if_neg (hne '.' (by decide)), if_neg (hne '^' (by decide)),
      if_neg (hne '$' (by decide)), if_neg (hne '(' (by decide))]
    rfl
  · exact fun heq _ => hne '\\' (by decide) heq
  · exact fun _ _ heq _ => hne '\\' (by decide) heq

/-- The items of a text, the latest first. -/
def charItems (t : Text) : Items := (t.map fun x => (.set (.exactly x), .yes)).reverse

theorem charItems_cons (x : Char) (t : Text) :
    charItems (x :: t) = charItems t ++ [(.set (.exactly x), .yes)] := List.reverse_cons

theorem readSequence_escape (hfuel : t.length < fuel) :
    readSequence names fuel .plain first sc items (escape t) =
      .ok (Items.toExpression (charItems t ++ items), .plain, sc, []) := by
  induction t generalizing fuel items with
  | nil =>
    obtain ⟨fuel, rfl⟩ := Nat.exists_eq_add_of_lt hfuel
    rw [escape, List.flatMap_nil, readSequence]
    rfl
  | cons x t ih =>
    obtain ⟨fuel, rfl⟩ : ∃ n, fuel = n + 1 := Nat.exists_eq_succ_of_ne_zero (by omega)
    have hrest : readSequence names fuel .plain first sc ((.set (.exactly x), .yes) :: items)
        (escape t) = .ok (Items.toExpression (charItems (x :: t) ++ items), .plain, sc, []) := by
      rw [ih (Nat.lt_of_succ_lt_succ hfuel), charItems_cons, List.append_assoc]
      rfl
    rw [escape_cons]
    by_cases hx : x ∈ specials
    · rw [if_pos hx, List.cons_append, List.singleton_append, readSequence,
        readEscape_of_mem_specials .plain hx]
      exact hrest
    · rw [if_neg hx, List.singleton_append, readSequence_of_not_mem_specials hx, hrest]

/-- An escaped text is read as its code points, one after the other. -/
theorem readWhole_escape (t : Text) : readWhole names .plain (escape t) =
    .ok (⟨Items.toExpression (charItems t), 0⟩, .plain) := by
  have hfuel : t.length < 4 * (escape t).length + 7 := by
    have hlength := length_le_length_escape t
    omega
  rw [readWhole, readChoices, readSequence_escape hfuel, List.append_nil]
  rfl

/-! ### Matching -/

variable {s : Array Char} {i : Nat} {c : Captures} {k : Continuation}

/-- What was put together of the code points matches as the text does. -/
theorem run_toExpression_charItems (t : Text) :
    run s (Items.toExpression (charItems t)) = run s (literal t) := by
  rw [Items.toExpression, charItems, List.foldl_reverse, List.foldr_map]
  induction t with
  | nil => rfl
  | cons x t ih =>
    rw [List.foldr_cons]
    funext i c k
    rw [literal, run, ← ih]
    -- Nothing is put behind the last code point.
    split
    · rename_i hempty
      rw [hempty]
      rfl
    · rfl

/-- A text matches where it stands. -/
theorem run_literal (t : Text) : run s (literal t) i c k =
    if t <+: s.toList.drop i then k (i + t.length) c else none := by
  induction t generalizing i with
  | nil =>
    rw [if_pos List.nil_prefix]
    rfl
  | cons x t ih =>
    rw [literal, run, run_set]
    cases hdrop : s.toList.drop i with
    | nil => rw [if_neg (by simp)]
    | cons y r =>
      simp only [CharSet.contains_exactly, decide_eq_true_eq, ih, drop_succ_of_drop_eq_cons hdrop,
        List.cons_prefix_cons, List.length_cons]
      by_cases hy : y = x
      · subst hy
        simp [Nat.add_comm, Nat.add_left_comm]
      · have hx : ¬ x = y := fun heq => hy heq.symm
        rw [if_neg hy, if_neg fun h => hx h.1]

theorem matchAt_literal (t : Text) : (⟨literal t, 0⟩ : Compiled).matchAt s i =
    if t <+: s.toList.drop i then some ⟨⟨i, i + t.length⟩, []⟩ else none := by
  rw [Compiled.matchAt, run_literal]
  split <;> rfl

end Expression

end Harvest
