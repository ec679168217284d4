import Harvest.Pattern.Basic
import Harvest.Proofs.Expression.Reading

/-!
# Patterns that were read

A pattern between slashes has the groups of its expression, numbered in the order of their
parentheses, and a plain pattern has none. Reading a pattern asks for too many repetitions only by a
number that stands in it.
-/

namespace Harvest.Pattern

/-- A pattern between slashes is its body and its flags, with the slashes around the body. -/
theorem eq_of_splitSlashes? {t body flags : Text} (h : splitSlashes? t = some (body, flags)) :
    t = '/' :: (body ++ '/' :: flags) := by
  rw [splitSlashes?.eq_def] at h
  split at h
  · rename_i r
    dsimp only at h
    split at h
    · rename_i c before hbefore
      split at h
      · cases h
        have hhead := List.head?_dropWhile_not (· != '/') r.reverse
        rw [hbefore] at hhead
        obtain rfl : c = '/' := by simpa using hhead
        have hr : r.reverse = r.reverse.takeWhile (· != '/') ++ '/' :: before := by
          rw [← hbefore, List.takeWhile_append_dropWhile]
        have hreverse := congrArg List.reverse hr
        rw [List.reverse_reverse, List.reverse_append, List.reverse_cons, List.append_assoc]
          at hreverse
        exact congrArg ('/' :: ·) hreverse
      · cases h
    · cases h
  · cases h

theorem numbers_literal (t : Text) : (Expression.literal t).numbers = [] := by
  induction t with
  | nil => rfl
  | cons c t ih => exact ih

variable {names : CharacterNames}

/-- The groups of a pattern are numbered from one, in the order of their parentheses. -/
theorem numbers_of_read {t : Text} {p : Pattern} (h : read names t = .ok p) :
    p.compiled.expression.numbers = List.range' 1 p.compiled.groupCount := by
  rw [read.eq_def] at h
  split at h
  · cases h
    exact numbers_literal t
  · rename_i body flags hsplit
    cases hwhole : Expression.readWhole names (optionsOf flags) body with
    | error e =>
      rw [hwhole] at h
      cases h
    | ok q =>
      rw [hwhole] at h
      cases h
      exact Expression.numbers_of_readWhole hwhole

end Harvest.Pattern
