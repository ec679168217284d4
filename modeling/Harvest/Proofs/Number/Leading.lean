import Harvest.Proofs.Number.Grammar
import Mathlib.Data.Bool.AllAny

/-!
# The longest decimal at the start of a text

Of all decimals that a text starts with after its blanks, the longest one is converted, as the
complete text that it is. No decimal holds a blank or a low line, so a complete text that is a
decimal is always converted unless it has too many digits, and blanks after it make no difference.
-/

namespace Harvest.Number

open Harvest.Text

variable {p q s t b : Text}

/-! ### Reading with a sign -/

def splitUnsigned (t : Text) : Option (Text × Text) :=
  if infinityWord.isPrefixOf t then some (infinityWord, t.drop infinityWord.length)
  else splitDecimal t

/-- The sign and the longest decimal or word for infinity, and the rest. -/
def splitNumber (t : Text) : Option (Text × Text) :=
  (some (splitSign t)).bind fun p => (splitUnsigned p.2).map fun q => (p.1 ++ q.1, q.2)

/-- The text of the number that a text starts with. -/
def numberText (t : Text) : Option Text := (leadingDecimal t).map fun p => p.1 ++ p.2

theorem leadingDecimal_eq (t : Text) :
    leadingDecimal t = (splitUnsigned (splitSign (trimLeft t)).2).map fun q =>
      ((splitSign (trimLeft t)).1, q.1) := by
  simp only [leadingDecimal, splitUnsigned]
  split <;> rfl

theorem numberText_eq (t : Text) : numberText t = (splitNumber (trimLeft t)).map (·.1) := by
  rw [numberText, leadingDecimal_eq, splitNumber, Option.bind_some]
  cases splitUnsigned (splitSign (trimLeft t)).2 <;> rfl

/-- A decimal starts with a digit or its point. -/
theorem head?_of_mem_mul_exponents (hb : b ∈ mantissas * exponents) :
    ∃ c, b.head? = some c ∧ (isDigit c = true ∨ c = '.') := by
  obtain ⟨m, hm, e, -, rfl⟩ := Language.mem_mul.1 hb
  cases m with
  | nil => exact absurd rfl (ne_nil_of_mem_mantissas hm)
  | cons c m => exact ⟨c, rfl, isDigit_or_point_of_mem_mantissas hm c List.mem_cons_self⟩

theorem ne_infinityWord_of_mem (hb : b ∈ mantissas * exponents) (r : Text) :
    b ++ r ≠ infinityWord ++ s := by
  intro h
  obtain ⟨c, hhead, hc⟩ := head?_of_mem_mul_exponents hb
  have hword : (b ++ r).head? = some 'I' := by
    rw [h]
    rfl
  rw [List.head?_append, hhead] at hword
  cases hword
  revert hc
  decide

theorem reads_splitUnsigned : Reads ({infinityWord} + mantissas * exponents) splitUnsigned where
  of_some {t a r} h := by
    unfold splitUnsigned at h
    split at h
    · rename_i hword
      cases h
      obtain ⟨z, rfl⟩ := List.isPrefixOf_iff_prefix.1 hword
      refine ⟨?_, List.prefix_append _ _, .inl rfl, ?_⟩
      · rw [List.drop_left]
      · rintro q (rfl | hq) ⟨y, hy⟩
        · exact Nat.le_refl _
        · exact absurd hy (ne_infinityWord_of_mem hq y)
    · rename_i hword
      obtain ⟨happend, hlongest⟩ := reads_unsigned.of_some h
      refine ⟨happend, hlongest.isPrefix, .inr hlongest.mem, ?_⟩
      rintro q (rfl | hq) hqt
      · exact absurd (List.isPrefixOf_iff_prefix.2 hqt) hword
      · exact hlongest.length_le q hq hqt
  of_none {t} h := by
    unfold splitUnsigned at h
    split at h
    · cases h
    · rename_i hword
      rintro q (rfl | hq) hqt
      · exact hword (List.isPrefixOf_iff_prefix.2 hqt)
      · exact reads_unsigned.of_none h q hq hqt

theorem head?_ne_sign (hb : b ∈ ({infinityWord} + mantissas * exponents : Language Char)) :
    ∀ c ∈ b.head?, c ≠ '+' ∧ c ≠ '-' := by
  rintro c hc
  rcases hb with rfl | hb
  · cases hc
    decide
  · obtain ⟨c', hhead, hc'⟩ := head?_of_mem_mul_exponents hb
    cases hhead.symm.trans hc
    constructor
    all_goals
      rintro rfl
      revert hc'
      decide

theorem reads_decimals : Reads decimals splitNumber := by
  refine reads_signs.mul reads_splitUnsigned fun a ha x hx c hc => ?_
  obtain ⟨hplus, hminus⟩ := head?_ne_sign hx c hc
  rcases mem_signs.1 ha with rfl | rfl | rfl
  · exact List.not_mem_nil
  · rwa [List.mem_singleton]
  · rwa [List.mem_singleton]

theorem numberText_eq_some_iff :
    numberText t = some p ↔ IsLongestPrefix decimals (trimLeft t) p := by
  rw [numberText_eq]
  cases hread : splitNumber (trimLeft t) with
  | none =>
    refine ⟨nofun, fun hp => ?_⟩
    exact absurd hp.isPrefix (reads_decimals.of_none hread p hp.mem)
  | some r =>
    obtain ⟨-, hlongest⟩ := reads_decimals.of_some hread
    rw [Option.map_some, Option.some.injEq]
    exact ⟨fun h => h ▸ hlongest, fun hp => hlongest.eq hp⟩

theorem numberText_eq_none_iff : numberText t = none ↔ ∀ q ∈ decimals, ¬ q <+: trimLeft t := by
  rw [numberText_eq]
  cases hread : splitNumber (trimLeft t) with
  | none => exact ⟨fun _ => reads_decimals.of_none hread, fun _ => rfl⟩
  | some r =>
    obtain ⟨-, hlongest⟩ := reads_decimals.of_some hread
    exact ⟨nofun, fun h => absurd hlongest.isPrefix (h r.1 hlongest.mem)⟩

/-! ### Decimals as complete texts -/

/-- The code points of decimals other than digits. -/
def decimalSymbols : Text := "+-.eEInfity"

theorem isDigit_or_mem_decimalSymbols (hp : p ∈ decimals) :
    ∀ c ∈ p, isDigit c = true ∨ c ∈ decimalSymbols := by
  obtain ⟨s, hs, b, hb, rfl⟩ := Language.mem_mul.1 hp
  have hsign : ∀ s ∈ signs, ∀ c ∈ s, c ∈ decimalSymbols := by
    rintro s (rfl | rfl | rfl) <;> exact List.all_iff_forall_prop.1 (by decide)
  have hword : ∀ c ∈ infinityWord, c ∈ decimalSymbols := List.all_iff_forall_prop.1 (by decide)
  intro c hc
  rcases List.mem_append.1 hc with hc | hc
  · exact .inr (hsign s hs c hc)
  rcases hb with rfl | hb
  · exact .inr (hword c hc)
  obtain ⟨m, hm, e, he, rfl⟩ := Language.mem_mul.1 hb
  rcases List.mem_append.1 hc with hc | hc
  · rcases isDigit_or_point_of_mem_mantissas hm c hc with hdigit | rfl
    · exact .inl hdigit
    · exact .inr (by decide)
  rcases mem_exponents.1 he with rfl | ⟨letter, hletter, s', hs', d, hd, rfl⟩
  · cases hc
  rcases List.mem_cons.1 hc with rfl | hc
  · refine .inr ?_
    rcases hletter with rfl | rfl <;> decide
  rcases List.mem_append.1 hc with hc | hc
  · exact .inr (hsign s' hs' c hc)
  · exact .inl (hd.1 c hc)

theorem isBlank_of_mem_decimals (hp : p ∈ decimals) : ∀ c ∈ p, isBlank c = false := by
  have hsymbols : ∀ c ∈ decimalSymbols, isBlank c = false :=
    List.all_iff_forall_prop.1 (by decide)
  intro c hc
  rcases isDigit_or_mem_decimalSymbols hp c hc with hdigit | hsymbol
  · exact isBlank_of_isDigit hdigit
  · exact hsymbols c hsymbol

theorem trim_eq_self_of_not_blank (h : ∀ c ∈ t, isBlank c = false) : trim t = t := by
  obtain ⟨w, hw, htrim⟩ := exists_trimLeft_eq t
  rw [trimLeft_eq_self fun c hc => h c (List.mem_of_mem_head? hc)] at htrim
  cases w with
  | nil =>
    rw [List.append_nil] at htrim
    exact htrim.symm
  | cons c w =>
    have hblank : isBlank c = true := hw c List.mem_cons_self
    have hmem : c ∈ t := by
      rw [htrim]
      exact List.mem_append_cons_self
    rw [h c hmem] at hblank
    cases hblank

theorem ungroup?_of_not_mem (h : '_' ∉ t) (afterDigit : Bool) : ungroup? afterDigit t = some t := by
  induction t generalizing afterDigit with
  | nil => cases afterDigit <;> rfl
  | cons c r ih =>
    obtain ⟨hc, hr⟩ := not_or.1 (fun hmem => h (List.mem_cons.2 hmem))
    rw [ungroup?]
    · rw [ih hr, Option.map_some]
    · rintro rfl
      exact fun _ => hc rfl
    · rintro _ _ rfl
      exact fun _ => hc rfl

theorem not_mem_of_mem_decimals (hp : p ∈ decimals) : '_' ∉ p := by
  intro hc
  rcases isDigit_or_mem_decimalSymbols hp '_' hc with hdigit | hsymbol
  · cases hdigit
  · revert hsymbol
    decide

/-- A decimal is not one of the names that a complete text may also be. -/
theorem lowerName_ne (hb : b ∈ mantissas * exponents) {name : String}
    (hname : name.toList.head? = some 'i' ∨ name.toList.head? = some 'n') :
    String.ofList (float?.lowerName b) ≠ name := by
  rintro rfl
  obtain ⟨c, hhead, hc⟩ := head?_of_mem_mul_exponents hb
  rw [String.toList_ofList, float?.lowerName, List.head?_map, hhead, Option.map_some,
    Option.some_inj, Option.some_inj] at hname
  rcases hc with hdigit | rfl
  · obtain ⟨hi, hn⟩ := toLower_of_isDigit hdigit
    exact hname.elim hi hn
  · revert hname
    decide

theorem Reads.eq_of_mem {L : Language Char} {read : Text → Option (Text × Text)} (h : Reads L read)
    (ht : t ∈ L) : read t = some (t, []) := by
  cases hread : read t with
  | none => exact absurd List.prefix_rfl (h.of_none hread t ht)
  | some r =>
    obtain ⟨a, b⟩ := r
    obtain ⟨happend, hlongest⟩ := h.of_some hread
    obtain rfl : a = t := hlongest.eq (isLongestPrefix_self ht)
    rw [List.append_right_eq_self.1 happend]

/-- As a complete text a decimal has the value that reading the start of a text gives it. -/
theorem float?_append (hs : s ∈ signs)
    (hb : b ∈ ({infinityWord} + mantissas * exponents : Language Char)) :
    float? (s ++ b) = if b = infinityWord then some (infinity (isNegative s))
      else decimalValue? (isNegative s) b := by
  have hp : s ++ b ∈ decimals := Language.append_mem_mul hs hb
  rw [float?, trim_eq_self_of_not_blank (isBlank_of_mem_decimals hp),
    ungroup?_of_not_mem (not_mem_of_mem_decimals hp), Option.bind_some]
  simp only [splitSign_append hs (head?_ne_sign hb)]
  rcases hb with rfl | hb
  · rw [if_pos (.inr (by decide)), if_pos rfl]
  · have hword : b ≠ infinityWord := by
      have h := ne_infinityWord_of_mem (s := []) hb []
      rwa [List.append_nil, List.append_nil] at h
    have hinf : String.ofList (float?.lowerName b) ≠ "inf" := lowerName_ne hb (by decide)
    have hlong : String.ofList (float?.lowerName b) ≠ "infinity" := lowerName_ne hb (by decide)
    have hnan : String.ofList (float?.lowerName b) ≠ "nan" := lowerName_ne hb (by decide)
    rw [if_neg (not_or.2 ⟨hinf, hlong⟩), if_neg hnan, if_neg hword, reads_unsigned.eq_of_mem hb]

/-- The number at the start of a text is converted as a complete text, and is itself the error when
it cannot be. -/
theorem leadingFloat_eq (t : Text) : leadingFloat t =
    (numberText t).elim (.ok none) fun p => (float? p).elim (.error p) fun x => .ok (some x) := by
  rw [leadingFloat, numberText, leadingDecimal_eq]
  cases hread : splitUnsigned (splitSign (trimLeft t)).2 with
  | none => rfl
  | some r =>
    obtain ⟨-, hlongest⟩ := reads_splitUnsigned.of_some hread
    simp only [Option.map_some, Option.elim_some, float?_append (splitSign_spec _).2 hlongest.mem]
    by_cases hword : r.1 = infinityWord
    · rw [if_pos hword, if_pos hword, Option.elim_some]
    · rw [if_neg hword, if_neg hword]
      cases decimalValue? (isNegative (splitSign (trimLeft t)).1) r.1 <;> rfl

/-! ### Numbers with too many digits -/

theorem length_parts_le (t : Text) : (wholePart t ++ fractionPart t).length ≤ t.length := by
  have htext := congrArg List.length (List.takeWhile_append_dropWhile (p := isDigit) (l := t))
  have hfraction : (fractionPart t).length ≤ (t.dropWhile isDigit).length := by
    rw [fractionPart]
    split
    · rename_i r hr
      rw [hr, List.length_cons]
      exact Nat.le_succ_of_le (List.takeWhile_prefix _).length_le
    · exact Nat.zero_le _
  rw [List.length_append] at htext ⊢
  rw [wholePart]
  omega

/-- Only a text that is longer than the limit has more digits than that. -/
theorem lt_length_of_isOverlong (h : isOverlong b = true) : decimalLimit < b.length := by
  have hparts := length_parts_le b
  rw [isOverlong, Bool.or_eq_true, decide_eq_true_eq, decide_eq_true_eq] at h
  rcases h with hsignificant | hfraction
  · exact Nat.lt_of_lt_of_le hsignificant ((List.dropWhile_suffix _).length_le.trans hparts)
  · rw [List.length_append] at hparts
    omega

theorem decimalValue?_eq_none_iff (negative : Bool) :
    decimalValue? negative b = none ↔ isOverlong b = true := by
  rw [decimalValue?]
  split <;> simp_all

/-- A number has no float exactly when it has too many digits. -/
theorem float?_eq_none_iff (hp : p ∈ decimals) :
    float? p = none ↔ isOverlong (splitSign p).2 = true := by
  obtain ⟨s, hs, b, hb, rfl⟩ := Language.mem_mul.1 hp
  rw [float?_append hs hb, splitSign_append hs (head?_ne_sign hb)]
  by_cases hword : b = infinityWord
  · have hshort : isOverlong infinityWord = false := by decide
    rw [if_pos hword, hword, hshort]
    exact iff_of_false nofun nofun
  · rw [if_neg hword, decimalValue?_eq_none_iff]

theorem leadingFloat_eq_none_iff : leadingFloat t = .ok none ↔ numberText t = none := by
  rw [leadingFloat_eq]
  cases numberText t with
  | none => exact ⟨fun _ => rfl, fun _ => rfl⟩
  | some p =>
    rw [Option.elim_some]
    cases float? p <;> exact iff_of_false nofun nofun

theorem leadingFloat_eq_some_iff {x : Float} :
    leadingFloat t = .ok (some x) ↔ ∃ p, numberText t = some p ∧ float? p = some x := by
  rw [leadingFloat_eq]
  cases numberText t with
  | none => simp
  | some p => cases hvalue : float? p <;> simp [hvalue]

theorem leadingFloat_eq_error_iff :
    leadingFloat t = .error p ↔ numberText t = some p ∧ isOverlong (splitSign p).2 = true := by
  rw [leadingFloat_eq]
  cases hread : numberText t with
  | none => exact iff_of_false nofun fun h => nomatch h.1
  | some q =>
    have hnone := float?_eq_none_iff (numberText_eq_some_iff.1 hread).mem
    rw [Option.elim_some, Option.some.injEq]
    cases hvalue : float? q with
    | none =>
      rw [Option.elim_none, Except.error.injEq]
      exact ⟨fun hqp => ⟨hqp, hqp ▸ hnone.1 hvalue⟩, And.left⟩
    | some x =>
      rw [hvalue] at hnone
      refine iff_of_false nofun ?_
      rintro ⟨rfl, hlong⟩
      exact nomatch hnone.2 hlong

/-- A number that is too long is refused, also where nothing but the number stands. -/
theorem leadingFloat_of_mem_decimals (hp : p ∈ decimals)
    (hlong : isOverlong (splitSign p).2 = true) : leadingFloat p = .error p := by
  refine leadingFloat_eq_error_iff.2 ⟨numberText_eq_some_iff.2 ?_, hlong⟩
  rw [trimLeft_eq_self fun c hc => isBlank_of_mem_decimals hp c (List.mem_of_mem_head? hc)]
  exact isLongestPrefix_self hp

theorem replicate_mem_mul_exponents {n : Nat} (hn : n ≠ 0) :
    List.replicate n '1' ∈ mantissas * exponents := by
  have hdigits : List.replicate n '1' ∈ someDigits := by
    refine ⟨fun c hc => ?_, fun hnil => hn ((List.replicate_eq_nil_iff _).1 hnil)⟩
    rw [List.eq_of_mem_replicate hc]
    rfl
  exact ⟨_, mem_mantissas.2 (.inl hdigits), [], mem_exponents.2 (.inl rfl), List.append_nil _⟩

theorem isOverlong_replicate {n : Nat} (hn : decimalLimit < n) :
    isOverlong (List.replicate n '1') = true := by
  have hone : isDigit '1' = true := rfl
  have hsignificant : ¬ (digit? '1' == some 0) = true := by decide
  have hwhole : wholePart (List.replicate n '1') = List.replicate n '1' := by
    rw [wholePart, List.takeWhile_replicate, if_pos hone]
  have hfraction : fractionPart (List.replicate n '1') = [] := by
    rw [fractionPart, List.dropWhile_replicate, if_pos hone]
  rw [isOverlong, hwhole, hfraction, List.append_nil, List.dropWhile_replicate,
    if_neg hsignificant, List.length_replicate, decide_eq_true hn, Bool.true_or]

theorem leadingFloat_replicate {n : Nat} (hn : decimalLimit < n) :
    leadingFloat (List.replicate n '1') = .error (List.replicate n '1') := by
  have hones := replicate_mem_mul_exponents (Nat.ne_zero_of_lt hn)
  have hsign := splitSign_append (mem_signs.2 (.inl rfl)) (head?_ne_sign (.inr hones))
  rw [List.nil_append] at hsign
  refine leadingFloat_of_mem_decimals ⟨[], mem_signs.2 (.inl rfl), _, .inr hones, rfl⟩ ?_
  rw [hsign]
  exact isOverlong_replicate hn

/-! ### Integers and blanks -/

theorem exists_mem_decimals_of_leadingDigits (h : (leadingDigits t).2 ≠ []) :
    ∃ q ∈ decimals, q <+: trimLeft t := by
  obtain ⟨hsplit, hsign⟩ := splitSign_spec (trimLeft t)
  have hdigits : (leadingDigits t).2 ∈ someDigits := ⟨takeWhile_mem_digits _, h⟩
  refine ⟨(leadingDigits t).1 ++ (leadingDigits t).2, ?_, ?_⟩
  · refine Language.append_mem_mul hsign (.inr ?_)
    exact ⟨_, mem_mantissas.2 (.inl hdigits), [], mem_exponents.2 (.inl rfl), List.append_nil _⟩
  · conv => rhs; rw [← hsplit]
    exact (List.prefix_append_right_inj _).2 (List.takeWhile_prefix _)

/-- Blanks behind a text do not belong to any decimal that it starts with. -/
theorem prefix_of_prefix_append_blank {w : Text} (hw : ∀ c ∈ w, isBlank c = true)
    (hq : q ∈ decimals) (h : q <+: t ++ w) : q <+: t := by
  rcases List.prefix_or_prefix_of_prefix h (List.prefix_append t w) with h' | ⟨v, rfl⟩
  · exact h'
  · rw [List.prefix_append_right_inj] at h
    cases v with
    | nil => rw [List.append_nil]
    | cons c v =>
      have hblank : isBlank c = true := hw c (h.subset List.mem_cons_self)
      rw [isBlank_of_mem_decimals hq c List.mem_append_cons_self] at hblank
      cases hblank

theorem numberText_trim (t : Text) : numberText (trim t) = numberText t := by
  obtain ⟨w, hw, htrim⟩ := exists_trimLeft_eq t
  have hsame : ∀ q ∈ decimals, q <+: trim t ↔ q <+: trimLeft t := by
    intro q hq
    rw [htrim]
    exact ⟨fun h => h.trans (List.prefix_append _ _), prefix_of_prefix_append_blank hw hq⟩
  apply Option.ext
  intro p
  rw [numberText_eq_some_iff, numberText_eq_some_iff, trimLeft_trim]
  constructor
  · intro h
    exact ⟨(hsame p h.mem).1 h.isPrefix, h.mem, fun q hq hqt =>
      h.length_le q hq ((hsame q hq).2 hqt)⟩
  · intro h
    exact ⟨(hsame p h.mem).2 h.isPrefix, h.mem, fun q hq hqt =>
      h.length_le q hq ((hsame q hq).1 hqt)⟩

/-- The float at the start of a text is the value of the longest decimal there, and there is none
only where no decimal is. The reading fails on the number itself, and only when that has too many
digits. Where there are digits for an integer there is a number as well, and trimming changes
nothing. -/
theorem leadingFloat_reads_longest (t : Text) :
    (leadingFloat t = .ok none ↔ ∀ q ∈ decimals, ¬ q <+: trimLeft t) ∧
      (∀ x, leadingFloat t = .ok (some x) → ∃ p, IsLongestPrefix decimals (trimLeft t) p ∧
        numberText t = some p ∧ float? p = some x) ∧
      (∀ p, leadingFloat t = .error p ↔
        IsLongestPrefix decimals (trimLeft t) p ∧ isOverlong (splitSign p).2 = true) ∧
      (∀ p, leadingFloat t = .error p → decimalLimit < p.length) ∧
      (leadingInteger t ≠ .ok none → leadingFloat t ≠ .ok none) ∧
      leadingFloat (trim t) = leadingFloat t := by
  have hnone : leadingFloat t = .ok none ↔ ∀ q ∈ decimals, ¬ q <+: trimLeft t := by
    rw [leadingFloat_eq_none_iff, numberText_eq_none_iff]
  refine ⟨hnone, fun x hx => ?_, fun p => ?_, fun p hp => ?_, fun hinteger => ?_, ?_⟩
  · obtain ⟨p, hp, hvalue⟩ := leadingFloat_eq_some_iff.1 hx
    exact ⟨p, numberText_eq_some_iff.1 hp, hp, hvalue⟩
  · rw [leadingFloat_eq_error_iff, numberText_eq_some_iff]
  · obtain ⟨-, hlong⟩ := leadingFloat_eq_error_iff.1 hp
    have hsplit := congrArg List.length (splitSign_spec p).1
    rw [List.length_append] at hsplit
    have := lt_length_of_isOverlong hlong
    omega
  · have hdigits : (leadingDigits t).2 ≠ [] := by
      intro hempty
      apply hinteger
      rw [leadingInteger, if_pos hempty]
    obtain ⟨q, hq, hqt⟩ := exists_mem_decimals_of_leadingDigits hdigits
    exact fun h => hnone.1 h q hq hqt
  · rw [leadingFloat_eq, leadingFloat_eq, numberText_trim]

/-- An exponent without digits is left unread. -/
theorem leadingFloat_of_dangling_exponent :
    ∃ x, leadingFloat "  -5.e+" = .ok (some x) ∧ float? "-5." = some x ∧
      leadingFloat (trim "  -5.e+") = .ok (some x) := by
  obtain ⟨-, hread, -, hlong, hinteger, htrim⟩ := leadingFloat_reads_longest "  -5.e+"
  have hfive : leadingInteger "  -5.e+" = .ok (some (-5)) := by rfl
  have htext : numberText "  -5.e+" = some "-5.".toList := by decide
  cases hvalue : leadingFloat "  -5.e+" with
  | error p =>
    obtain ⟨hp, -⟩ := leadingFloat_eq_error_iff.1 hvalue
    cases htext.symm.trans hp
    exact absurd (hlong _ hvalue) (by decide)
  | ok x? =>
    cases x? with
    | none => exact absurd hvalue (hinteger (by rw [hfive]; nofun))
    | some x =>
      obtain ⟨p, -, hp, hfloat⟩ := hread x hvalue
      cases htext.symm.trans hp
      exact ⟨x, rfl, hfloat, htrim.trans hvalue⟩

/-- One digit more than can be converted, and reading fails. -/
theorem leadingFloat_fails :
    leadingFloat (List.replicate 1000000001 '1') = .error (List.replicate 1000000001 '1') :=
  leadingFloat_replicate (by decide)

end Harvest.Number
