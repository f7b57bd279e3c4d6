import Mathlib.Algebra.GroupWithZero.Nat
import Multiplierless.Cost

/-!
What a cost model adds up. Costs are summed from left to right in 32 bits, and the first
partial sum that does not fit ends the computation. Partial sums only grow, so one of them
is too large just when the last one is. Main statement: the cost of a sequence is the
number of its shifts and the number of its subtractions, each times its weight, or a fault
when the exact cost does not fit.
-/

namespace Multiplierless

def Step.isShift : Step → Bool
  | .shl _ _ _ => true
  | .sub _ _ _ => false

@[simp] theorem Step.isShift_shl (dst src : Operand) (amount : UInt32) :
    (shl dst src amount).isShift = true := rfl

@[simp] theorem Step.isShift_sub (dst lhs rhs : Operand) :
    (sub dst lhs rhs).isShift = false := rfl

namespace CostModel

variable {model : CostModel} {s : Sequence}

theorem checkedAdd_of_lt {x y : UInt32} (hSum : x.toNat + y.toNat < UInt32.size) :
    checkedAdd x y = .ok (x + y) ∧ (x + y).toNat = x.toNat + y.toNat := by
  refine ⟨if_pos hSum, ?_⟩
  rw [UInt32.toNat_add]
  exact Nat.mod_eq_of_lt hSum

theorem checkedAdd_of_le {x y : UInt32} (hSum : UInt32.size ≤ x.toNat + y.toNat) :
    checkedAdd x y = .error .sumOverflow :=
  if_neg (Nat.not_lt.mpr hSum)

/-- A sum that fits is reached, since every partial sum fits too. -/
theorem sumFrom_of_lt {total : UInt32} {costs : List UInt32}
    (hSum : total.toNat + (costs.map UInt32.toNat).sum < UInt32.size) :
    ∃ c, sumFrom total costs = .ok c ∧
      c.toNat = total.toNat + (costs.map UInt32.toNat).sum := by
  induction costs generalizing total with
  | nil => exact ⟨total, rfl, by simp⟩
  | cons cost rest ih =>
      rw [List.map_cons, List.sum_cons, ← Nat.add_assoc] at hSum ⊢
      have hFits : total.toNat + cost.toNat < UInt32.size := by omega
      obtain ⟨hAdd, hTotal⟩ := checkedAdd_of_lt hFits
      rw [← hTotal] at hSum ⊢
      obtain ⟨c, hRest, hValue⟩ := ih hSum
      exact ⟨c, Except.bind_eq_ok_iff.mpr ⟨_, hAdd, hRest⟩, hValue⟩

/-- A sum that does not fit is a fault, whichever of the additions meets it. -/
theorem sumFrom_of_le {total : UInt32} {costs : List UInt32}
    (hSum : UInt32.size ≤ total.toNat + (costs.map UInt32.toNat).sum) :
    sumFrom total costs = .error .sumOverflow := by
  induction costs generalizing total with
  | nil =>
      have hTotal : total.toNat < UInt32.size := total.toNat_lt_size
      rw [List.map_nil, List.sum_nil] at hSum
      omega
  | cons cost rest ih =>
      rw [List.map_cons, List.sum_cons, ← Nat.add_assoc] at hSum
      by_cases hFits : total.toNat + cost.toNat < UInt32.size
      · obtain ⟨hAdd, hTotal⟩ := checkedAdd_of_lt hFits
        rw [← hTotal] at hSum
        rw [sumFrom, hAdd]
        exact ih hSum
      · rw [sumFrom, checkedAdd_of_le (Nat.le_of_not_lt hFits)]
        rfl

/-- The cost over numbers without a bound. The order of the steps does not enter, nor do
the other weights of the model. -/
def exactCost (model : CostModel) (s : Sequence) : Nat :=
  s.steps.countP Step.isShift * model.shift.toNat +
    s.steps.countP (fun step => !step.isShift) * model.sub.toNat

/-- Summed up exactly, the steps cost what their kinds cost, each as often as it occurs. -/
theorem sum_stepCost (model : CostModel) (steps : List Step) :
    ((steps.map model.stepCost).map UInt32.toNat).sum =
      steps.countP Step.isShift * model.shift.toNat +
        steps.countP (fun step => !step.isShift) * model.sub.toNat := by
  induction steps with
  | nil => simp
  | cons step rest ih =>
      rw [List.map_cons, List.map_cons, List.sum_cons, ih]
      cases step with
      | shl dst src amount =>
          rw [List.countP_cons_of_pos rfl, List.countP_cons_of_neg (by simp), Nat.succ_mul,
            stepCost]
          omega
      | sub dst lhs rhs =>
          rw [List.countP_cons_of_neg (by simp), List.countP_cons_of_pos rfl, Nat.succ_mul,
            stepCost]
          omega

theorem zero_add_sum_stepCost (model : CostModel) (s : Sequence) :
    (0 : UInt32).toNat + ((s.steps.map model.stepCost).map UInt32.toNat).sum =
      model.exactCost s := by
  rw [UInt32.toNat_zero, Nat.zero_add]
  exact sum_stepCost model s.steps

/-- A cost that fits 32 bits is given as it is. -/
theorem cost_of_lt (hCost : model.exactCost s < UInt32.size) :
    ∃ c, model.cost s = .ok c ∧ c.toNat = model.exactCost s := by
  rw [← zero_add_sum_stepCost] at hCost ⊢
  exact sumFrom_of_lt hCost

/-- A cost that does not fit is a fault and no other number. -/
theorem cost_of_le (hCost : UInt32.size ≤ model.exactCost s) :
    model.cost s = .error .sumOverflow := by
  rw [← zero_add_sum_stepCost] at hCost
  exact sumFrom_of_le hCost

theorem cost_eq_error_iff :
    model.cost s = .error .sumOverflow ↔ UInt32.size ≤ model.exactCost s := by
  constructor
  · intro hError
    apply Nat.le_of_not_lt
    intro hCost
    obtain ⟨c, hSum, -⟩ := cost_of_lt hCost
    exact absurd (hSum.symm.trans hError) (by simp)
  · exact cost_of_le

theorem beatsMultiply_eq_map (model : CostModel) (s : Sequence) :
    model.beatsMultiply s = (model.cost s).map fun c => decide (c < model.mult) := by
  rw [beatsMultiply]
  cases model.cost s <;> rfl

theorem beatsMultiply_eq_error_iff {fault : Fault} :
    model.beatsMultiply s = .error fault ↔ model.cost s = .error fault := by
  rw [beatsMultiply_eq_map]
  cases model.cost s <;> simp [Except.map]

theorem beatsMultiply_of_lt (hCost : model.exactCost s < UInt32.size) :
    model.beatsMultiply s = .ok (decide (model.exactCost s < model.mult.toNat)) := by
  obtain ⟨c, hSum, hValue⟩ := cost_of_lt hCost
  have hLess : c < model.mult ↔ model.exactCost s < model.mult.toNat := by
    rw [UInt32.lt_iff_toNat_lt, hValue]
  simp only [beatsMultiply_eq_map, hSum, Except.map, hLess]

/-- By default every step weighs one. -/
theorem exactCost_default (s : Sequence) : (default : CostModel).exactCost s = s.length := by
  have hWeights : (default : CostModel).exactCost s =
      s.steps.countP Step.isShift * 1 + s.steps.countP (fun step => !step.isShift) * 1 := rfl
  rw [hWeights, Nat.mul_one, Nat.mul_one, Sequence.length,
    List.length_eq_countP_add_countP Step.isShift]
  simp

/-- A cost is exact or there is none, and the comparison with a multiplication goes by the
exact cost. The default cost of a sequence is its length. -/
theorem cost_exact_or_overflow (model : CostModel) (s : Sequence) :
    (model.cost s = .error .sumOverflow ↔ 2 ^ 32 - 1 < model.exactCost s) ∧
    (model.beatsMultiply s = .error .sumOverflow ↔ 2 ^ 32 - 1 < model.exactCost s) ∧
    (model.exactCost s ≤ 2 ^ 32 - 1 →
      (∃ c, model.cost s = .ok c ∧ c.toNat = model.exactCost s) ∧
      model.beatsMultiply s = .ok (decide (model.exactCost s < model.mult.toNat))) ∧
    (s.length < 2 ^ 32 → ∃ c, s.cost = .ok c ∧ c.toNat = s.length) := by
  have hSize : UInt32.size = 2 ^ 32 := rfl
  have hOver : UInt32.size ≤ model.exactCost s ↔ 2 ^ 32 - 1 < model.exactCost s := by omega
  refine ⟨cost_eq_error_iff.trans hOver,
    beatsMultiply_eq_error_iff.trans (cost_eq_error_iff.trans hOver), ?_, ?_⟩
  · intro hCost
    have hFits : model.exactCost s < UInt32.size := by omega
    exact ⟨cost_of_lt hFits, beatsMultiply_of_lt hFits⟩
  · intro hLength
    rw [← exactCost_default] at hLength ⊢
    exact cost_of_lt hLength

-- Four shifts and three subtractions: the largest cost there is, and one more.
example : ({ shift := 1073741823, sub := 1 } : CostModel).cost .neg82 = .ok 4294967295 :=
  rfl

example : ({ shift := 1073741824, sub := 0 } : CostModel).cost .neg82 = .error .sumOverflow :=
  rfl

end CostModel

end Multiplierless
