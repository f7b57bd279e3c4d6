import Multiplierless.Proofs.ExactMultiples
import Multiplierless.Proofs.WidthCheck

/-!
Evaluation at a width. A sequence whose shifts fit the width is run to the end, and
its log has one event for each step; any other sequence is not started. Main
statement: the results are the signed residues of the products that the factors
predict, although the factors were computed once and at another width.
-/

namespace Multiplierless

theorem Width.bits_le_widest (w : Width) : w.bits ≤ Check.widestBits := by
  cases w <;> decide

/-- Integers that agree at a wide word give the same products at every narrower one. -/
theorem Word.wrap_mul_congr {wide narrow : Nat} (hWidth : narrow ≤ wide) {a b : Int}
    (hWide : (wrap a : Word wide) = wrap b) (n : Int) :
    (wrap (a * n) : Word narrow) = wrap (b * n) := by
  rw [← wrap_value_mul hWidth a, hWide, wrap_value_mul hWidth b]

namespace Sequence

variable {bits : Nat}

/-- A shift that is too wide is found before the run, and only the span is logged. -/
theorem evalLogged_of_error {s : Sequence} {e : SequenceError} (n : Word bits)
    (hWidth : s.checkWidth bits = .error e) :
    s.evalLogged n = ⟨.error e, [evalSpan bits]⟩ := by
  unfold evalLogged
  split
  · next found hFound =>
      have hSame : found = e := Except.error.inj (hFound.symm.trans hWidth)
      rw [hSame]
  · next hFound => exact absurd (hFound.symm.trans hWidth) (by simp)

/-- In exact terms: every step and the whole sequence multiply by their exact
multiples and wrap once. -/
theorem evalLogged_of_fits {s : Sequence} (n : Word bits) (hFits : Check.Fits bits s.steps) :
    s.evalLogged n = ⟨.ok (Word.wrap (s.multiple * n.value)),
      evalSpan bits :: List.zipWith Step.event s.steps
        (s.multiples.map fun v => (Word.wrap (v * n.value) : Word bits))⟩ := by
  have hWidth := checkWidth_of_fits hFits
  unfold evalLogged
  split
  · next found hFound => exact absurd (hWidth.symm.trans hFound) (by simp)
  · have hResults : (s.run n hWidth).outcome = _ := s.results_eq n hWidth
    dsimp only
    rw [Machine.log_of_run (s.run_eq n hWidth), hResults, List.getLast?_map, getLast?_multiples]
    rfl

/-- A sequence that fits multiplies by its exact multiple and wraps once. -/
theorem eval_of_fits {s : Sequence} (n : Word bits) (hFits : Check.Fits bits s.steps) :
    s.eval n = .ok (Word.wrap (s.multiple * n.value)) := by
  rw [eval, evalLogged_of_fits n hFits]

/-- Only a sequence that fits the width is evaluated. -/
theorem fits_of_eval {s : Sequence} {n r : Word bits} (hEval : s.eval n = .ok r) :
    Check.Fits bits s.steps := by
  by_cases hFits : Check.Fits bits s.steps
  · exact hFits
  · obtain ⟨index, amount, -, hWidth⟩ := checkWidth_of_not_fits hFits
    rw [eval, evalLogged_of_error n hWidth] at hEval
    exact absurd hEval (by simp)

/-- The sequence gives `r` on `n`, and its log has one event for each step, with the
step's result. -/
structure Evaluates (s : Sequence) (n : Word bits) (results : List (Word bits)) (r : Word bits) :
    Prop where
  outcome : s.eval n = .ok r
  log : (s.evalLogged n).log = evalSpan bits :: List.zipWith Step.event s.steps results
  length : results.length = s.length

theorem evaluates_of_fits {s : Sequence} (n : Word bits) (hFits : Check.Fits bits s.steps) :
    s.Evaluates n (s.multiples.map fun v => Word.wrap (v * n.value))
      (Word.wrap (s.multiple * n.value)) where
  outcome := eval_of_fits n hFits
  log := by rw [evalLogged_of_fits n hFits]
  length := by rw [List.length_map, length_multiples]

/-- The run at a width and the run that found the factors stay together, step by
step. Both may wrap, each at its own width. -/
theorem eval_follows_factors (s : Sequence) (w : Width) (n : Word w.bits) :
    (¬Check.Fits w.bits s.steps →
      ∃ index amount, Check.FirstWide w.bits s.steps index amount ∧
        s.eval n = .error (.shiftOutOfRange index amount w.bits) ∧
        (s.evalLogged n).log = [evalSpan w.bits]) ∧
    (Check.Fits w.bits s.steps →
      ∃ (r : Word w.bits) (results : List (Word w.bits)),
        s.eval n = .ok r ∧
        (s.evalLogged n).log = evalSpan w.bits :: List.zipWith Step.event s.steps results ∧
        results.length = s.length ∧
        results.map Word.value =
          s.factors.map (fun factor => (factor.value * n.value).bmod (2 ^ w.bits)) ∧
        r.value = (s.constant.value * n.value).bmod (2 ^ w.bits)) := by
  constructor
  · intro hFits
    obtain ⟨index, amount, hFirst, hWidth⟩ := checkWidth_of_not_fits hFits
    have hLogged := evalLogged_of_error n hWidth
    exact ⟨index, amount, hFirst, by rw [eval, hLogged], by rw [hLogged]⟩
  · intro hFits
    -- The factors are known modulo `2^128` only, which is enough at every width.
    have hValue : ∀ v : Int, (Word.wrap (v * n.value) : Word w.bits).value =
        ((Word.wrap v : Word Check.widestBits).value * n.value).bmod (2 ^ w.bits) := by
      intro v
      rw [← Word.wrap_value_mul w.bits_le_widest v, Word.value_wrap]
    refine ⟨_, _, eval_of_fits n hFits, by rw [evalLogged_of_fits n hFits], ?_, ?_, ?_⟩
    · simp [multiples, length]
    · simp [factors_eq, hValue]
    · rw [constant_eq, hValue]

end Sequence

end Multiplierless
