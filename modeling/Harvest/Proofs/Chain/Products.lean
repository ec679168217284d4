import Harvest.Page
import Harvest.Proofs.Chain.Staging
import Harvest.Proofs.Descriptor.Calling
import Mathlib.Algebra.BigOperators.Group.List.Basic
import Mathlib.Algebra.Ring.Int.Defs

/-!
# Products of integers

A factor that is written as a numeral is read as an integer. So a chain of multiplications takes an
integer through integers only, and yields its product with all the factors, whatever their order.
-/

namespace Harvest

namespace Standard

variable {ν : Type}

open Number

def multiplyStep (factor : Int) : Step ν :=
  guarded (.only .number) fun v => .of (multiply (.int factor) v)

theorem multiplyStep_int (factor n : Int) :
    multiplyStep factor (.int n : Value ν) = pure (.int (n * factor)) := by
  rw [Int.mul_comm]
  rfl

variable [Host ν]

theorem makes_multiplyStep {factor : Int} {v : Value ν} (h : Denotes factor v) (doc : Document ν) :
    Makes doc "multiply-by".toList [v] (multiplyStep factor) := by
  refine makes_of_writable 9 rfl (positional ["factor"] []) rfl (h.writable _)
    (fun _ v => .of (multiply (.int factor) v)) ?_ doc
  simp only [numberArgument_of_denotes h]
  rfl

end Standard

namespace Chain

open Number Standard Text

variable {ν : Type} {fs : List Int} {ts : List Text}

theorem runSteps_multiplyStep (fs : List Int) (n : Int) :
    runSteps (fs.map multiplyStep) (.int n : Value ν) = pure (.int (n * fs.prod)) := by
  induction fs generalizing n with
  | nil => rw [List.map_nil, List.prod_nil, Int.mul_one, runSteps]
  | cons factor fs ih =>
    rw [List.map_cons, runSteps, multiplyStep_int, pure_bind, ih, List.prod_cons, Int.mul_assoc]

variable [Host ν]

/-- A descriptor that multiplies by what the text denotes. -/
def multiplyBy (t : Text) : Element ν := .text ("multiply-by:".toList ++ t)

theorem exists_resolveElement_multiplyBy {factor : Int} {t : Text} (h : Spaced factor t)
    (doc : Document ν) :
    ∃ d, resolveElement (multiplyBy t) .standard doc = .ok (d, multiplyStep factor) := by
  have ht : "multiply-by:".toList ++ t = Descriptor.encode "multiply-by".toList [t] 0 := by
    simp [Descriptor.encode, Text.join]
  obtain ⟨e, -, -, hwritten⟩ := makes_multiplyStep (.text h) doc
  rw [multiplyBy, ht]
  exact hwritten [t] 0 rfl (.inl rfl)

theorem exists_resolve_multiplyBy (h : List.Forall₂ Spaced fs ts) (doc : Document ν) :
    ∃ c : Chain ν, resolve (ts.map multiplyBy) .standard doc = .ok c ∧
      c.steps.map (·.2) = fs.map multiplyStep := by
  induction h with
  | nil => exact ⟨⟨[]⟩, rfl, rfl⟩
  | cons hfactor _ ih =>
    obtain ⟨d, hd⟩ := exists_resolveElement_multiplyBy hfactor doc
    obtain ⟨c, hc, hsteps⟩ := ih
    refine ⟨⟨(d, _) :: c.steps⟩, resolve_eq_ok_iff.2 (.cons hd (resolve_eq_ok_iff.1 hc)), ?_⟩
    rw [List.map_cons, List.map_cons, hsteps]

/-- Multiplications by integers that are written out, with blanks around them or not, resolve to one
step for each. After any number of these steps an integer has become its product with as many
factors, so that no step leaves the integers. Neither the order of the factors matters nor whether
they are multiplied with each other first, and their product may be too large to be written. Every
integer within the digit limit can be written out. -/
theorem multiplications_exact (doc : Document ν) :
    (∀ factor : Int, factor.natAbs < 10 ^ digitLimit →
      ∃ t, intText? factor = some t ∧ Numeral factor t) ∧
    ∀ (fs : List Int) (ts : List Text), List.Forall₂ Spaced fs ts →
      ∃ c : Chain ν, resolve (ts.map multiplyBy) .standard doc = .ok c ∧ c.length = fs.length ∧
        (∀ n k, run ⟨c.steps.take k⟩ (.int n) = pure (.int (n * (fs.take k).prod))) ∧
        (∀ n, c.run (.int n) = pure (.int (n * fs.prod))) ∧
        (∀ fs' ts', fs'.Perm fs → List.Forall₂ Spaced fs' ts' →
          ∃ c', resolve (ts'.map multiplyBy) .standard doc = .ok c' ∧
            ∀ n, c'.run (.int n) = c.run (.int n)) ∧
        ∀ v, Denotes fs.prod v →
          ∃ step, Makes doc "multiply-by".toList [v] step ∧
            ∀ n, step (.int n) = c.run (.int n) := by
  refine ⟨fun factor hfactor => ⟨_, intText?_of_lt hfactor, numeral_signed hfactor⟩,
    fun fs ts h => ?_⟩
  obtain ⟨c, hc, hsteps⟩ := exists_resolve_multiplyBy h doc
  have hrun (n : Int) : c.run (.int n) = pure (.int (n * fs.prod)) := by
    rw [run, hsteps, runSteps_multiplyStep]
  refine ⟨c, hc, ?_, fun n k => ?_, hrun, fun fs' ts' hperm h' => ?_, fun v hv => ?_⟩
  · rw [length, ← List.length_map (·.2), hsteps, List.length_map]
  · rw [run, List.map_take, hsteps, ← List.map_take, runSteps_multiplyStep]
  · obtain ⟨c', hc', hsteps'⟩ := exists_resolve_multiplyBy h' doc
    refine ⟨c', hc', fun n => ?_⟩
    rw [run, hsteps', runSteps_multiplyStep, hrun, hperm.prod_eq]
  · refine ⟨_, makes_multiplyStep hv doc, fun n => ?_⟩
    rw [multiplyStep_int, hrun]

/-- A factor between blanks and one with a sign and a zero in front, in both orders. -/
theorem product_of_two_factors :
    ∃ c c' : Chain Markup.Cursor,
      resolve ([" -12 ".toList, "+03".toList].map multiplyBy) .standard Page.document = .ok c ∧
      resolve (["+03".toList, " -12 ".toList].map multiplyBy) .standard Page.document = .ok c' ∧
      c.run (.int (2 ^ 70)) = pure (.int (2 ^ 70 * -36)) ∧
      c'.run (.int (2 ^ 70)) = pure (.int (2 ^ 70 * -36)) := by
  have hblank : ∀ c ∈ " ".toList, isBlank c = true := List.all_iff_forall_prop.1 (by decide)
  have hdigits : "12".toList ∈ someDigits := ⟨List.all_iff_forall_prop.1 (by decide), by decide⟩
  have hdigits' : "03".toList ∈ someDigits := ⟨List.all_iff_forall_prop.1 (by decide), by decide⟩
  have hdozen : Spaced (-12) " -12 ".toList :=
    .between hblank (.signed (.inr (.inr rfl)) hdigits (by decide)) hblank
  have hthree : Spaced 3 "+03".toList :=
    (Numeral.signed (.inr (.inl rfl)) hdigits' (by decide)).spaced
  obtain ⟨-, hexact⟩ := multiplications_exact Page.document
  obtain ⟨c, hc, -, -, hrun, hswap, -⟩ := hexact [-12, 3] _ (.cons hdozen (.cons hthree .nil))
  obtain ⟨c', hc', hrun'⟩ := hswap [3, -12] _ (.swap _ _ _) (.cons hthree (.cons hdozen .nil))
  exact ⟨c, c', hc, hc', hrun _, (hrun' _).trans (hrun _)⟩

end Chain

end Harvest
