import Harvest.Proofs.Pattern.Reading
import Harvest.Proofs.Text.Pieces

/-!
# The grammar of patterns between slashes

A text is a pattern between slashes when it is a slash, any body, a slash and at most four letters
that are flags. As flags have no slash, the last slash of the text ends the body, so that body and
flags are found again whatever they were.
-/

namespace Harvest

namespace Pattern

/-- At most four letters, each of which is a flag. -/
def IsFlags (flags : Text) : Prop :=
  flags.length ≤ 4 ∧ ∀ c ∈ flags, c = 'g' ∨ c = 'i' ∨ c = 'm' ∨ c = 'y'

/-- A body between slashes, with flags behind it. -/
def slashed (body flags : Text) : Text := '/' :: (body ++ '/' :: flags)

variable {t body flags : Text}

theorem isFlag_iff {c : Char} : isFlag c = true ↔ c = 'g' ∨ c = 'i' ∨ c = 'm' ∨ c = 'y' := by
  simp only [isFlag, Bool.or_eq_true, beq_iff_eq, or_assoc]

theorem isFlags_iff : IsFlags flags ↔ flags.length ≤ 4 ∧ flags.all isFlag = true := by
  simp only [IsFlags, List.all_eq_true, isFlag_iff]

instance (flags : Text) : Decidable (IsFlags flags) :=
  decidable_of_iff (flags.length ≤ 4 ∧ flags.all isFlag = true) isFlags_iff.symm

theorem IsFlags.slash_not_mem (h : IsFlags flags) : '/' ∉ flags := by
  intro hmem
  have hflag := h.2 '/' hmem
  revert hflag
  decide

/-! ### The last slash -/

theorem isFlags_of_splitSlashes? (h : splitSlashes? t = some (body, flags)) : IsFlags flags := by
  rw [splitSlashes?.eq_def] at h
  split at h
  · dsimp only at h
    split at h
    · split at h
      · rename_i hflags
        cases h
        exact isFlags_iff.2 hflags
      · cases h
    · cases h
  · cases h

/-- The last slash is the one before the flags. -/
theorem splitSlashes?_slashed (h : IsFlags flags) :
    splitSlashes? (slashed body flags) = some (body, flags) := by
  have hslash : '/' ∉ flags.reverse := fun hmem => h.slash_not_mem (List.mem_reverse.1 hmem)
  have hreverse : (body ++ '/' :: flags).reverse = flags.reverse ++ '/' :: body.reverse := by
    simp
  have htake : (body ++ '/' :: flags).reverse.takeWhile (· != '/') = flags.reverse := by
    rw [hreverse, Text.takeWhile_append_cons hslash]
  have hdrop : (body ++ '/' :: flags).reverse.dropWhile (· != '/') = '/' :: body.reverse := by
    have hall : ∀ c ∈ flags.reverse, (c != '/') = true :=
      fun c hc => bne_iff_ne.2 fun heq => hslash (heq ▸ hc)
    rw [hreverse, List.dropWhile_append_of_pos hall, List.dropWhile_cons_of_neg (by simp)]
  rw [slashed, splitSlashes?]
  simp only [htake, hdrop, List.reverse_reverse]
  rw [if_pos (isFlags_iff.1 h)]

theorem splitSlashes?_eq_some_iff :
    splitSlashes? t = some (body, flags) ↔ IsFlags flags ∧ t = slashed body flags := by
  constructor
  · intro h
    exact ⟨isFlags_of_splitSlashes? h, eq_of_splitSlashes? h⟩
  · rintro ⟨hflags, rfl⟩
    exact splitSlashes?_slashed hflags

theorem isSlashed_iff :
    isSlashed t = true ↔ ∃ body flags, IsFlags flags ∧ t = slashed body flags := by
  rw [isSlashed, Option.isSome_iff_exists]
  simp only [Prod.exists, splitSlashes?_eq_some_iff]

/-- Body and flags can be told from the text. -/
theorem slashed_inj {body' flags' : Text} (h : IsFlags flags) (h' : IsFlags flags')
    (heq : slashed body flags = slashed body' flags') : body = body' ∧ flags = flags' := by
  have hsplit : splitSlashes? (slashed body flags) = some (body, flags) := splitSlashes?_slashed h
  rw [heq, splitSlashes?_slashed h'] at hsplit
  cases hsplit
  exact ⟨rfl, rfl⟩

/-! ### Reading -/

variable {names : CharacterNames}

theorem read_slashed (body : Text) (h : IsFlags flags) : read names (slashed body flags) =
    (Expression.readWhole names (optionsOf flags) body).map fun (r, o) =>
      ⟨r, flags.contains 'g', flags.contains 'y', o.ignoreCase, o.multiline⟩ := by
  rw [read, splitSlashes?_slashed h]

theorem read_of_not_slashed (h : isSlashed t = false) : read names t = .ok (plain t) := by
  rw [isSlashed, Option.isSome_eq_false_iff, Option.isNone_iff_eq_none] at h
  rw [read, h]

end Pattern

end Harvest
