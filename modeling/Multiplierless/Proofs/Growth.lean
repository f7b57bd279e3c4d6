import Mathlib.Algebra.GroupWithZero.Nat
import Multiplierless.Proofs.Exactness

/-!
How far multiples grow. A shift lengthens what it reads by its amount, counted in binary
places, and a subtraction by one place at most, whatever the signs. Main statement: an
input that leaves as many places free as all steps together can take is multiplied
without a wrap at any step, and with 126 places or less the factors and the verdict of
the validator are exact.
-/

namespace Multiplierless

/-- The places that a step may add to the longest multiple it reads. -/
def Step.growth : Step → Nat
  | .shl _ _ amount => amount.toNat
  | .sub _ _ _ => 1

namespace Exact

variable {places : Nat} {held : Operand → Int}

/-- No operand holds a multiple above `2^places` or below its negative. -/
def Within (places : Nat) (held : Operand → Int) : Prop :=
  ∀ x, (held x).natAbs ≤ 2 ^ places

theorem within_initial : Within 0 initial := by
  intro x
  cases x <;> simp [initial]

/-- What a step computes is longer than what it reads by its own places at most. -/
theorem Within.natAbs_multiple (hWithin : Within places held) (step : Step) :
    (step.multiple held).natAbs ≤ 2 ^ (places + step.growth) := by
  cases step with
  | shl dst src amount =>
      calc
        (held src * 2 ^ amount.toNat).natAbs = (held src).natAbs * 2 ^ amount.toNat := by
          rw [Int.natAbs_mul, Int.natAbs_pow]
          rfl
        _ ≤ 2 ^ places * 2 ^ amount.toNat := Nat.mul_le_mul_right _ (hWithin src)
        _ = 2 ^ (places + amount.toNat) := (Nat.pow_add 2 places amount.toNat).symm
  | sub dst lhs rhs =>
      -- The worst case is a difference of opposite signs.
      calc
        (held lhs - held rhs).natAbs ≤ (held lhs).natAbs + (held rhs).natAbs :=
          Int.natAbs_sub_le (held lhs) (held rhs)
        _ ≤ 2 ^ places + 2 ^ places := Nat.add_le_add (hWithin lhs) (hWithin rhs)
        _ = 2 ^ (places + 1) := by
          rw [Nat.pow_succ]
          omega

/-- After a step the bound is larger by the step's places, for the operands that it left
alone too. -/
theorem Within.update (hWithin : Within places held) (step : Step) :
    Within (places + step.growth) (step.update held) := by
  intro x
  by_cases hDst : x = step.dst
  · rw [hDst, Step.update, Function.update_self]
    exact hWithin.natAbs_multiple step
  · rw [Step.update, Function.update_of_ne hDst]
    apply Nat.le_trans (hWithin x)
    exact Nat.pow_le_pow_right (by decide) (Nat.le_add_right places step.growth)

/-- Along a run the places of the steps add up. -/
theorem Within.natAbs_le_of_mem (hWithin : Within places held) {steps : List Step} {v : Int}
    (hMem : v ∈ multiplesFrom held steps) :
    v.natAbs ≤ 2 ^ (places + (steps.map Step.growth).sum) := by
  induction steps generalizing places held with
  | nil => exact absurd hMem (by simp [multiplesFrom])
  | cons step rest ih =>
      rw [List.map_cons, List.sum_cons, ← Nat.add_assoc]
      rcases List.mem_cons.mp hMem with hHead | hRest
      · rw [hHead]
        apply Nat.le_trans (hWithin.natAbs_multiple step)
        exact Nat.pow_le_pow_right (by decide) (Nat.le_add_right _ _)
      · exact ih (hWithin.update step) hRest

end Exact

namespace Sequence

variable {s : Sequence}

/-- The amounts of all shifts and one for each subtraction. -/
def growth (s : Sequence) : Nat :=
  (s.steps.map Step.growth).sum

theorem natAbs_le_of_mem_multiples {v : Int} (hMem : v ∈ s.multiples) :
    v.natAbs ≤ 2 ^ s.growth := by
  have hBound := Exact.within_initial.natAbs_le_of_mem hMem
  rwa [Nat.zero_add] at hBound

theorem multiple_mem_multiples (s : Sequence) : s.multiple ∈ s.multiples :=
  List.mem_of_getLast? s.getLast?_multiples

/-- Within the budget every product is the value of a word. The least value of all, which
has no counterpart among the positive ones, is not needed. -/
theorem inRange_of_budget {bits : Nat} (hBits : 0 < bits) {n : Int}
    (hBudget : n.natAbs * 2 ^ s.growth ≤ 2 ^ (bits - 1) - 1) {v : Int} (hMem : v ∈ s.multiples) :
    Word.InRange bits (v * n) := by
  have hProduct : (v * n).natAbs ≤ 2 ^ (bits - 1) - 1 := by
    calc
      (v * n).natAbs = n.natAbs * v.natAbs := by rw [Int.natAbs_mul, Nat.mul_comm]
      _ ≤ n.natAbs * 2 ^ s.growth :=
        Nat.mul_le_mul_left n.natAbs (natAbs_le_of_mem_multiples hMem)
      _ ≤ 2 ^ (bits - 1) - 1 := hBudget
  have hPositive : 0 < 2 ^ (bits - 1) := Nat.two_pow_pos (bits - 1)
  have hCast : ((2 ^ (bits - 1) : Nat) : Int) = 2 ^ (bits - 1) := by norm_cast
  rw [Word.inRange_iff hBits, ← hCast]
  omega

theorem value_wrap_of_budget {bits : Nat} (hBits : 0 < bits) {n : Int}
    (hBudget : n.natAbs * 2 ^ s.growth ≤ 2 ^ (bits - 1) - 1) {v : Int} (hMem : v ∈ s.multiples) :
    (Word.wrap (v * n) : Word bits).value = v * n :=
  (Word.value_wrap_eq_self_iff hBits _).mpr (inRange_of_budget hBits hBudget hMem)

/-- The run on one at 128 bits has 127 places, one of which it must not reach. -/
theorem inRange_of_growth (hGrowth : s.growth ≤ 126) {v : Int} (hMem : v ∈ s.multiples) :
    Word.InRange 128 v := by
  have hPower : 2 ^ s.growth ≤ 2 ^ 126 := Nat.pow_le_pow_right (by decide) hGrowth
  have hBudget : (1 : Int).natAbs * 2 ^ s.growth ≤ 2 ^ (128 - 1) - 1 := by
    rw [Int.natAbs_one, Nat.one_mul]
    omega
  have hRange : Word.InRange 128 (v * 1) := inRange_of_budget (by decide) hBudget hMem
  rwa [Int.mul_one] at hRange

/-- No step of an evaluation within the budget wraps, and every result is the product of
the step's multiple and the input. Inputs outside the budget may be evaluated exactly too;
nothing is said about them. -/
theorem eval_exact_of_growth (s : Sequence) :
    (∀ (w : Width) (n r : Word w.bits),
      n.value.natAbs * 2 ^ s.growth ≤ 2 ^ (w.bits - 1) - 1 → s.eval n = .ok r →
      ∃ results : List (Word w.bits),
        (s.evalLogged n).log = evalSpan w.bits :: List.zipWith Step.event s.steps results ∧
        results.length = s.length ∧
        results.map Word.value = s.multiples.map (fun v => v * n.value) ∧
        r.value = s.multiple * n.value) ∧
    (s.growth ≤ 126 →
      s.factors.map Word.value = s.multiples ∧
      ∀ bits expected, s.validate bits expected = .ok () → s.multiple = expected.value) := by
  constructor
  · intro w n r hBudget hEval
    have hBits : 0 < w.bits := Nat.lt_of_lt_of_le (by decide) w.eight_le_bits
    have hFits := fits_of_eval hEval
    refine ⟨s.multiples.map fun v => Word.wrap (v * n.value), ?_, ?_, ?_, ?_⟩
    · rw [evalLogged_of_fits n hFits]
    · rw [List.length_map, multiples, Exact.length_multiplesFrom, length]
    · rw [List.map_map]
      exact List.map_congr_left fun v hMem => value_wrap_of_budget hBits hBudget hMem
    · rw [eval_of_fits n hFits] at hEval
      rw [← Except.ok.inj hEval]
      exact value_wrap_of_budget hBits hBudget s.multiple_mem_multiples
  · intro hGrowth
    refine ⟨s.value_factors_eq_multiples_iff.mpr fun v => inRange_of_growth hGrowth, ?_⟩
    intro bits expected hValid
    obtain ⟨-, hConstant⟩ := (validate_eq_ok_iff s).mp hValid
    exact (multiple_eq_iff_inRange hConstant).mpr
      (inRange_of_growth hGrowth s.multiple_mem_multiples)

/-- The seven steps may add ten places, so 16 bits are enough for the input 31. -/
theorem eval_exact_of_growth_neg82 :
    neg82.growth = 10 ∧
    (∃ n r : Word 16, n.value = 31 ∧ n.value.natAbs * 2 ^ neg82.growth ≤ 2 ^ 15 - 1 ∧
      neg82.eval n = .ok r ∧ r.value = -2542 ∧
      ∃ results : List (Word 16),
        (neg82.evalLogged n).log = evalSpan 16 :: List.zipWith Step.event neg82.steps results ∧
        results.map Word.value = [248, 217, 868, 651, 1302, -1271, -2542]) ∧
    neg82.validate 8 multiplier = .ok () ∧ neg82.multiple = multiplier.value := by
  obtain ⟨hEval, hValidate⟩ := eval_exact_of_growth neg82
  obtain ⟨results, hLog, -, hResults, -⟩ :=
    hEval .w16 (Word.wrap 31) (Word.wrap (-2542)) (by decide) rfl
  refine ⟨by decide, ⟨Word.wrap 31, Word.wrap (-2542), by decide, by decide, rfl, by decide,
    results, hLog, ?_⟩, rfl, (hValidate (by decide)).2 8 multiplier rfl⟩
  exact hResults.trans (by decide)

end Sequence

end Multiplierless
