import Harvest.Pattern.Template

/-!
# What templates stand for

The rules by which a template is read once from left to right, for a match and its groups. By them a
template stands for exactly one text, which is the one that it is expanded to. Reading goes part by
part where the parts are written so that none runs into the next: literal text with its dollar signs
doubled, the whole match, and groups by two digits.
-/

namespace Harvest

namespace Template

/-- The text of a group, counted from one; empty when the group took no part. -/
def groupText (groups : List (Option Text)) (n : Nat) : Text := (groups[n - 1]?.join).getD []

/-- Groups are numbered from one. -/
def IsGroup (groups : List (Option Text)) (n : Nat) : Prop := 1 ≤ n ∧ n ≤ groups.length

instance (groups : List (Option Text)) (n : Nat) : Decidable (IsGroup groups n) :=
  inferInstanceAs (Decidable (1 ≤ n ∧ n ≤ groups.length))

/-- What a dollar sign with one or two digits stands for: the group of that number, else the group
that the first of two digits names with the second digit behind it, else itself. -/
def refersTo (groups : List (Option Text)) (ds : Text) : Text :=
  if IsGroup groups (Text.ofDigits ds) then groupText groups (Text.ofDigits ds)
  else
    match ds with
    | [a, b] =>
      if IsGroup groups (Text.ofDigits [a]) then groupText groups (Text.ofDigits [a]) ++ [b]
      else ['$', a, b]
    | ds => '$' :: ds

/-- One reading of a template from left to right, by what it starts with. A dollar sign takes two
digits whenever two are there. -/
inductive Reads (whole : Text) (groups : List (Option Text)) : Text → Text → Prop where
  | done : Reads whole groups [] []
  | copied {c : Char} {r x : Text} : c ≠ '$' → Reads whole groups r x →
      Reads whole groups (c :: r) (c :: x)
  | dollar {r x : Text} : Reads whole groups r x → Reads whole groups ('$' :: '$' :: r) ('$' :: x)
  | whole {r x : Text} : Reads whole groups r x →
      Reads whole groups ('$' :: '&' :: r) (whole ++ x)
  | digits {a b : Char} {r x : Text} : Text.isDigit a = true → Text.isDigit b = true →
      Reads whole groups r x →
      Reads whole groups ('$' :: a :: b :: r) (refersTo groups [a, b] ++ x)
  | digit {a : Char} {r x : Text} : Text.isDigit a = true →
      (∀ b ∈ r.head?, Text.isDigit b = false) → Reads whole groups r x →
      Reads whole groups ('$' :: a :: r) (refersTo groups [a] ++ x)
  | lone {r x : Text} : (∀ c ∈ r.head?, c ≠ '$' ∧ c ≠ '&' ∧ Text.isDigit c = false) →
      Reads whole groups r x → Reads whole groups ('$' :: r) ('$' :: x)

/-! ### The pieces of a template -/

variable {a b c : Char} {r : Text}

theorem pieces_cons_of_ne (hc : c ≠ '$') : pieces (c :: r) = .char c :: pieces r := by
  rw [pieces]
  all_goals
    intros
    contradiction

theorem ne_of_isDigit (ha : Text.isDigit a = true) : a ≠ '$' ∧ a ≠ '&' := by
  constructor
  · rintro rfl
    cases ha
  · rintro rfl
    cases ha

theorem pieces_of_ne (hdollar : a ≠ '$') (hwhole : a ≠ '&') : pieces ('$' :: a :: b :: r) =
    if Text.isDigit a then
      if Text.isDigit b then .group a (some b) :: pieces r else .group a none :: pieces (b :: r)
    else .char '$' :: pieces (a :: b :: r) := by
  rw [pieces]
  · exact fun h => hdollar h
  · exact fun h => hwhole h

theorem pieces_digits (ha : Text.isDigit a = true) (hb : Text.isDigit b = true) :
    pieces ('$' :: a :: b :: r) = .group a (some b) :: pieces r := by
  obtain ⟨hdollar, hwhole⟩ := ne_of_isDigit ha
  rw [pieces_of_ne hdollar hwhole, if_pos ha, if_pos hb]

theorem pieces_digit (ha : Text.isDigit a = true) (hr : ∀ b ∈ r.head?, Text.isDigit b = false) :
    pieces ('$' :: a :: r) = .group a none :: pieces r := by
  obtain ⟨hdollar, hwhole⟩ := ne_of_isDigit ha
  cases r with
  | nil =>
    rw [pieces, if_pos ha]
    · rfl
    · exact fun h => hdollar h
    · exact fun h => hwhole h
  | cons b r =>
    have hb : ¬ Text.isDigit b = true := Bool.eq_false_iff.1 (hr b rfl)
    rw [pieces_of_ne hdollar hwhole, if_pos ha, if_neg hb]

theorem pieces_lone (hr : ∀ c ∈ r.head?, c ≠ '$' ∧ c ≠ '&' ∧ Text.isDigit c = false) :
    pieces ('$' :: r) = .char '$' :: pieces r := by
  cases r with
  | nil => rfl
  | cons c r =>
    obtain ⟨hdollar, hwhole, hdigit⟩ := hr c rfl
    cases r with
    | nil =>
      rw [pieces, if_neg (Bool.eq_false_iff.1 hdigit), pieces_cons_of_ne hdollar]
      · rfl
      · exact fun h => hdollar h
      · exact fun h => hwhole h
    | cons d r => rw [pieces_of_ne hdollar hwhole, if_neg (Bool.eq_false_iff.1 hdigit)]

/-! ### What a dollar sign starts -/

variable {whole : Text} {groups : List (Option Text)}

/-- What makes a dollar sign a reference when it stands behind it. -/
def reference? : Text → Option Text
  | '$' :: _ => some ['$']
  | '&' :: _ => some ['&']
  | r =>
    match (r.take 2).takeWhile Text.isDigit with
    | [] => none
    | ds => some ds

theorem reference?_of_ne (hdollar : a ≠ '$') (hwhole : a ≠ '&') : reference? (a :: r) =
    match ((a :: r).take 2).takeWhile Text.isDigit with
    | [] => none
    | ds => some ds := by
  rw [reference?]
  · exact fun _ h => hdollar (List.cons.inj h).1
  · exact fun _ h => hwhole (List.cons.inj h).1

theorem reference?_digits (ha : Text.isDigit a = true) (hb : Text.isDigit b = true) (r : Text) :
    reference? (a :: b :: r) = some [a, b] := by
  obtain ⟨hdollar, hwhole⟩ := ne_of_isDigit ha
  rw [reference?_of_ne hdollar hwhole]
  simp [ha, hb]

theorem reference?_digit (ha : Text.isDigit a = true)
    (hr : ∀ b ∈ r.head?, Text.isDigit b = false) : reference? (a :: r) = some [a] := by
  obtain ⟨hdollar, hwhole⟩ := ne_of_isDigit ha
  rw [reference?_of_ne hdollar hwhole]
  cases r with
  | nil => simp [ha]
  | cons b r => simp [ha, hr b rfl]

theorem reference?_eq_none_of (hdollar : a ≠ '$') (hwhole : a ≠ '&')
    (ha : Text.isDigit a = false) : reference? (a :: r) = none := by
  rw [reference?_of_ne hdollar hwhole]
  simp [ha]

/-- What a reference stands for, by what follows its dollar sign. -/
def tokenValue (whole : Text) (groups : List (Option Text)) (ref : Text) : Text :=
  if ref = ['$'] then ['$'] else if ref = ['&'] then whole else refersTo groups ref

theorem tokenValue_of_digit {ds : Text} (ha : Text.isDigit a = true) :
    tokenValue whole groups (a :: ds) = refersTo groups (a :: ds) := by
  obtain ⟨hdollar, hwhole⟩ := ne_of_isDigit ha
  rw [tokenValue, if_neg fun h => hdollar (List.cons.inj h).1,
    if_neg fun h => hwhole (List.cons.inj h).1]

/-- A reference is read as what it stands for, or it is none and the dollar sign stands alone. -/
theorem reads_dollar (whole : Text) (groups : List (Option Text)) (r : Text) :
    (∃ ref, reference? r = some ref ∧ ∀ x, Reads whole groups (r.drop ref.length) x →
      Reads whole groups ('$' :: r) (tokenValue whole groups ref ++ x)) ∨
    (reference? r = none ∧
      ∀ x, Reads whole groups r x → Reads whole groups ('$' :: r) ('$' :: x)) := by
  cases r with
  | nil => exact .inr ⟨rfl, fun x hx => .lone nofun hx⟩
  | cons a r =>
    by_cases hdollar : a = '$'
    · subst hdollar
      exact .inl ⟨['$'], rfl, fun x hx => .dollar hx⟩
    by_cases hwhole : a = '&'
    · subst hwhole
      exact .inl ⟨['&'], rfl, fun x hx => .whole hx⟩
    cases ha : Text.isDigit a with
    | false =>
      refine .inr ⟨reference?_eq_none_of hdollar hwhole ha, fun x hx => .lone ?_ hx⟩
      rintro b ⟨⟩
      exact ⟨hdollar, hwhole, ha⟩
    | true =>
      by_cases hr : ∀ b ∈ r.head?, Text.isDigit b = false
      · refine .inl ⟨[a], reference?_digit ha hr, fun x hx => ?_⟩
        rw [tokenValue_of_digit ha]
        exact .digit ha hr hx
      · cases r with
        | nil => exact absurd nofun hr
        | cons b r =>
          have hb : Text.isDigit b = true := by simpa using hr
          refine .inl ⟨[a, b], reference?_digits ha hb r, fun x hx => ?_⟩
          rw [tokenValue_of_digit ha]
          exact .digits ha hb hx

/-- Every template can be read. -/
theorem exists_reads (whole : Text) (groups : List (Option Text)) (t : Text) :
    ∃ x, Reads whole groups t x := by
  -- On the length, as a reference takes more than one code point at once.
  induction hn : t.length using Nat.strongRecOn generalizing t with
  | ind n ih =>
    subst hn
    cases t with
    | nil => exact ⟨[], .done⟩
    | cons c r =>
      have hshorter : ∀ u : Text, u.length ≤ r.length → ∃ x, Reads whole groups u x :=
        fun u hu => ih u.length (Nat.lt_succ_of_le hu) u rfl
      obtain ⟨x, hx⟩ := hshorter r (Nat.le_refl _)
      by_cases hc : c = '$'
      · subst hc
        obtain ⟨ref, -, hreads⟩ | ⟨-, hreads⟩ := reads_dollar whole groups r
        · obtain ⟨y, hy⟩ := hshorter (r.drop ref.length) (List.drop_sublist _ _).length_le
          exact ⟨_, hreads y hy⟩
        · exact ⟨_, hreads x hx⟩
      · exact ⟨_, .copied hc hx⟩

/-! ### Groups -/

variable (s : Array Char) (m : Match)

/-- The texts of the groups that took part. -/
def groupTexts : List (Option Text) := m.groups.map (·.map (Pattern.textOf s))

theorem groupText?_eq (n : Nat) : groupText? s m n =
    if IsGroup (groupTexts s m) n then some (groupText (groupTexts s m) n) else none := by
  rw [groupText?]
  by_cases hn : 0 < n
  · rw [if_pos hn]
    by_cases hlength : n ≤ m.groups.length
    · have hindex : n - 1 < m.groups.length := by omega
      have hgroup : IsGroup (groupTexts s m) n :=
        ⟨hn, by rw [groupTexts, List.length_map]; exact hlength⟩
      rw [if_pos hgroup, groupText, groupTexts, List.getElem?_map, List.getElem?_eq_getElem hindex]
      cases m.groups[n - 1] <;> rfl
    · have hgroup : ¬ IsGroup (groupTexts s m) n := by
        rintro ⟨-, h⟩
        rw [groupTexts, List.length_map] at h
        exact hlength h
      rw [if_neg hgroup, List.getElem?_eq_none (by omega)]
      rfl
  · rw [if_neg hn, if_neg fun h => hn h.1]

theorem expand_group_none (a : Char) :
    (Piece.group a none).expand s m = refersTo (groupTexts s m) [a] := by
  rw [Piece.expand, groupText?_eq]
  by_cases ha : IsGroup (groupTexts s m) (Text.ofDigits [a])
  · simp only [refersTo, if_pos ha, Option.getD_some]
  · simp only [refersTo, if_neg ha, Option.getD_none]

theorem expand_group_some (a b : Char) :
    (Piece.group a (some b)).expand s m = refersTo (groupTexts s m) [a, b] := by
  rw [Piece.expand, groupText?_eq, groupText?_eq]
  by_cases hboth : IsGroup (groupTexts s m) (Text.ofDigits [a, b])
  · simp only [refersTo, if_pos hboth]
  · by_cases hfirst : IsGroup (groupTexts s m) (Text.ofDigits [a])
    · simp only [refersTo, if_neg hboth, if_pos hfirst]
    · simp only [refersTo, if_neg hboth, if_neg hfirst]

/-! ### Reading and expanding -/

theorem expand_eq {t r : Text} {piece : Piece} (h : pieces t = piece :: pieces r) :
    expand s m t = piece.expand s m ++ expand s m r := by
  rw [expand, h, List.flatMap_cons]
  rfl

variable {s m}

theorem eq_expand_of_reads {t x : Text}
    (h : Reads (Pattern.textOf s m.span) (groupTexts s m) t x) : x = expand s m t := by
  induction h with
  | done => rfl
  | copied hc _ ih => rw [expand_eq s m (pieces_cons_of_ne hc), ← ih]; rfl
  | dollar _ ih => rw [expand_eq s m rfl, ← ih]; rfl
  | whole _ ih => rw [expand_eq s m rfl, ← ih]; rfl
  | digits ha hb _ ih => rw [expand_eq s m (pieces_digits ha hb), expand_group_some, ← ih]
  | digit ha hr _ ih => rw [expand_eq s m (pieces_digit ha hr), expand_group_none, ← ih]
  | lone hr _ ih => rw [expand_eq s m (pieces_lone hr), ← ih]; rfl

/-- A template stands for exactly the text that it is expanded to. -/
theorem reads_iff {t x : Text} :
    Reads (Pattern.textOf s m.span) (groupTexts s m) t x ↔ x = expand s m t := by
  constructor
  · exact eq_expand_of_reads
  · rintro rfl
    obtain ⟨y, hy⟩ := exists_reads (Pattern.textOf s m.span) (groupTexts s m) t
    rw [← eq_expand_of_reads hy]
    exact hy

/-! ### Templates written part by part -/

/-- A part of a template: a text that stands for itself, the whole match, or a group with the two
digits of its number. -/
inductive Part where
  | literal (t : Text)
  | whole
  | group (n : Nat) (tens ones : Char)

/-- A text with its dollar signs doubled. -/
def doubled (t : Text) : Text := t.flatMap fun c => if c = '$' then ['$', '$'] else [c]

def Part.written : Part → Text
  | .literal t => doubled t
  | .whole => ['$', '&']
  | .group _ tens ones => ['$', tens, ones]

/-- A group has to be there, and is written by its number. -/
def Part.Fits (count : Nat) : Part → Prop
  | .group n tens ones => Text.isDigit tens = true ∧ Text.isDigit ones = true ∧
      Text.ofDigits [tens, ones] = n ∧ 1 ≤ n ∧ n ≤ count
  | _ => True

instance (count : Nat) : (p : Part) → Decidable (p.Fits count)
  | .literal _ => .isTrue trivial
  | .whole => .isTrue trivial
  | .group n tens ones => inferInstanceAs (Decidable (Text.isDigit tens = true ∧
      Text.isDigit ones = true ∧ Text.ofDigits [tens, ones] = n ∧ 1 ≤ n ∧ n ≤ count))

def Part.value (whole : Text) (groups : List (Option Text)) : Part → Text
  | .literal t => t
  | .whole => whole
  | .group n _ _ => groupText groups n

variable {whole r x : Text} {groups : List (Option Text)}

theorem reads_doubled_append (t : Text) (h : Reads whole groups r x) :
    Reads whole groups (doubled t ++ r) (t ++ x) := by
  induction t with
  | nil => exact h
  | cons c t ih =>
    rw [doubled, List.flatMap_cons, List.append_assoc]
    by_cases hc : c = '$'
    · subst hc
      rw [if_pos rfl]
      exact .dollar ih
    · rw [if_neg hc]
      exact .copied hc ih

/-- A part is read as what it stands for, whatever comes behind it. -/
theorem Part.reads_append {p : Part} (hp : p.Fits groups.length) (h : Reads whole groups r x) :
    Reads whole groups (p.written ++ r) (p.value whole groups ++ x) := by
  cases p with
  | literal t => exact reads_doubled_append t h
  | whole => exact .whole h
  | group n tens ones =>
    obtain ⟨htens, hones, rfl, hgroup⟩ := hp
    have hrefers : refersTo groups [tens, ones] = groupText groups (Text.ofDigits [tens, ones]) :=
      if_pos hgroup
    have hreads := Reads.digits htens hones h
    rw [hrefers] at hreads
    exact hreads

theorem reads_flatMap_written {ps : List Part} (hps : ∀ p ∈ ps, p.Fits groups.length) :
    Reads whole groups (ps.flatMap Part.written) (ps.flatMap (Part.value whole groups)) := by
  induction ps with
  | nil => exact .done
  | cons p ps ih =>
    rw [List.flatMap_cons, List.flatMap_cons]
    exact Part.reads_append (hps p List.mem_cons_self)
      (ih fun q hq => hps q (List.mem_cons_of_mem p hq))

theorem reads_doubled (t : Text) : Reads whole groups (doubled t) t := by
  have hreads : Reads whole groups (doubled t ++ []) (t ++ []) := reads_doubled_append t .done
  rwa [List.append_nil, List.append_nil] at hreads

theorem digit?_ofNat : ∀ d < 10, Text.digit? (Char.ofNat (48 + d)) = some d := by
  decide

/-- Every group up to number 99 can be written by two digits. -/
theorem exists_fits_group {n count : Nat} (hn : 1 ≤ n) (hcount : n ≤ count) (hlarge : n ≤ 99) :
    ∃ tens ones, (Part.group n tens ones).Fits count := by
  have htens := digit?_ofNat (n / 10) (by omega)
  have hones := digit?_ofNat (n % 10) (by omega)
  refine ⟨Char.ofNat (48 + n / 10), Char.ofNat (48 + n % 10), ?_, ?_, ?_, hn, hcount⟩
  · rw [Text.isDigit, htens]
    rfl
  · rw [Text.isDigit, hones]
    rfl
  · simp only [Text.ofDigits, List.foldl_cons, List.foldl_nil, htens, hones, Option.getD_some]
    omega

end Template

end Harvest
