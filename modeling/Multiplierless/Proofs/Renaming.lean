import Mathlib.Data.List.Basic
import Mathlib.Logic.Equiv.Defs
import Multiplierless.Cost
import Multiplierless.Proofs.Acceptance
import Multiplierless.Proofs.Temporaries
import Multiplierless.Proofs.Validation

/-!
Renaming of temporaries. A permutation of the 256 numbers moves every temporary to
another register and leaves the input where it is, so renamed steps are scanned and run
on tables of another size. Main statement: renamed steps are accepted or refused as
before, and a renamed sequence computes, costs and reports what it did; only the names
that it shows are the new ones.
-/

namespace Multiplierless

variable (p : Equiv.Perm UInt8)

/-- The operand under its new name. The input keeps its own. -/
def Operand.rename : Operand → Operand
  | .input => .input
  | .temp index => .temp (p index)

namespace Operand

/-- Different operands keep different names. -/
theorem rename_injective : Function.Injective (rename p) := by
  intro x y hName
  cases x with
  | input =>
      cases y with
      | input => rfl
      | temp index => exact absurd hName (by simp [rename])
  | temp first =>
      cases y with
      | input => exact absurd hName (by simp [rename])
      | temp second =>
          have hIndex : p first = p second := by simpa [rename] using hName
          rw [p.injective hIndex]

theorem rename_eq_input_iff {x : Operand} : x.rename p = .input ↔ x = .input :=
  (rename_injective p).eq_iff (b := .input)

theorem rename_mem_map_iff {x : Operand} {xs : List Operand} :
    x.rename p ∈ xs.map (rename p) ↔ x ∈ xs :=
  List.mem_map_of_injective (rename_injective p)

end Operand

/-- The same operation on renamed operands. -/
def Step.rename : Step → Step
  | .shl dst src amount => .shl (dst.rename p) (src.rename p) amount
  | .sub dst lhs rhs => .sub (dst.rename p) (lhs.rename p) (rhs.rename p)

namespace Step

@[simp] theorem dst_rename (step : Step) : (step.rename p).dst = step.dst.rename p := by
  cases step <;> rfl

@[simp] theorem reads_rename (step : Step) :
    (step.rename p).reads = step.reads.map (Operand.rename p) := by
  cases step <;> rfl

@[simp] theorem amount?_rename (step : Step) : (step.rename p).amount? = step.amount? := by
  cases step <;> rfl

end Step

/-- The error that renamed steps give. Of all errors only one names an operand. -/
def SequenceError.rename : SequenceError → SequenceError
  | .undefinedOperand step operand => .undefinedOperand step (operand.rename p)
  | other => other

namespace Check

/-- The first operand without a value stays at its place among the reads. -/
theorem find?_reads_rename (known : List Operand) (step : Step) :
    (step.rename p).reads.find? (fun x => decide (x ∉ known.map (Operand.rename p))) =
      (step.reads.find? fun x => decide (x ∉ known)).map (Operand.rename p) := by
  rw [Step.reads_rename, List.find?_map]
  congr 2
  funext x
  simp only [Function.comp_apply, Operand.rename_mem_map_iff]

/-- Renamed steps have their first fault at the same step, with its operand renamed. -/
theorem firstFault_rename (known : List Operand) (index : Nat) (steps : List Step) :
    firstFault (known.map (Operand.rename p)) index (steps.map (Step.rename p)) =
      (firstFault known index steps).map (SequenceError.rename p) := by
  induction steps generalizing known index with
  | nil => rfl
  | cons step rest ih =>
      rw [List.map_cons, firstFault, firstFault, find?_reads_rename]
      cases step.reads.find? (fun x => decide (x ∉ known)) with
      | some operand => rfl
      | none =>
          by_cases hInput : step.dst = .input
          · simp [hInput, Operand.rename_eq_input_iff, SequenceError.rename]
          · have hRest := ih (step.dst :: known) (index + 1)
            simpa [hInput, Operand.rename_eq_input_iff] using hRest

/-- Both scans go through tables of their own and stop at the same step. -/
theorem dataflow_rename (steps : List Step) :
    dataflow (steps.map (Step.rename p)) = (dataflow steps).map (SequenceError.rename p) := by
  rw [dataflow_eq, dataflow_eq]
  exact firstFault_rename p [.input] 0 steps

/-- The width check looks at no operand. -/
theorem widthFrom_rename (bits index : Nat) (steps : List Step) :
    widthFrom bits index (steps.map (Step.rename p)) = widthFrom bits index steps := by
  induction steps generalizing index with
  | nil => rfl
  | cons step rest ih => cases step <;> simp only [List.map_cons, Step.rename, widthFrom, ih]

theorem fits_rename_iff {bits : Nat} {steps : List Step} :
    Fits bits (steps.map (Step.rename p)) ↔ Fits bits steps := by
  simp [Fits]

/-- A shift that is too wide is reported without the name of an operand. -/
theorem mapError_width (bits : Nat) (steps : List Step) :
    (width bits steps).mapError (SequenceError.rename p) = width bits steps := by
  by_cases hFits : Fits bits steps
  · rw [width, widthFrom_of_fits 0 hFits]
    rfl
  · obtain ⟨offset, amount, -, hError⟩ := widthFrom_of_not_fits 0 hFits
    rw [width, hError]
    rfl

/-- Renamed steps are accepted or refused as before, and a refusal names the new operand. -/
theorem accept_rename (steps : List Step) :
    accept (steps.map (Step.rename p)) = (accept steps).mapError (SequenceError.rename p) := by
  have hWidth : width widestBits (steps.map (Step.rename p)) = width widestBits steps :=
    widthFrom_rename p widestBits 0 steps
  cases steps with
  | nil => rfl
  | cons step rest =>
      unfold accept
      rw [dataflow_rename, hWidth]
      cases dataflow (step :: rest) with
      | some e => rfl
      | none => exact (mapError_width p widestBits (step :: rest)).symm

end Check

namespace Exact

variable {p} {held renamed : Operand → Int}

theorem multiple_rename (hHeld : ∀ x, renamed (x.rename p) = held x) (step : Step) :
    (step.rename p).multiple renamed = step.multiple held := by
  cases step <;> simp only [Step.rename, Step.multiple, hHeld]

/-- Renamed operands go on holding what the operands hold. -/
theorem update_rename (hHeld : ∀ x, renamed (x.rename p) = held x) (step : Step) (x : Operand) :
    (step.rename p).update renamed (x.rename p) = step.update held x := by
  rw [Step.update, Step.update, multiple_rename hHeld, Step.dst_rename]
  by_cases hDst : x = step.dst
  · simp [hDst]
  · have hRenamed : x.rename p ≠ step.dst.rename p := (Operand.rename_injective p).ne hDst
    simp [hDst, hRenamed, hHeld]

/-- Renamed steps write the same multiples, given that renamed operands hold what the
operands hold. -/
theorem multiplesFrom_rename (hHeld : ∀ x, renamed (x.rename p) = held x) (steps : List Step) :
    multiplesFrom renamed (steps.map (Step.rename p)) = multiplesFrom held steps := by
  induction steps generalizing held renamed with
  | nil => rfl
  | cons step rest ih =>
      rw [List.map_cons, multiplesFrom, multiplesFrom, multiple_rename hHeld,
        ih (update_rename hHeld step)]

end Exact

namespace Sequence

/-- The sequence of the renamed steps. -/
def rename (s : Sequence) : Sequence where
  steps := s.steps.map (Step.rename p)
  accepted := by
    rw [Check.accept_rename, s.accepted]
    rfl

theorem ofSteps_rename (steps : List Step) :
    ofSteps (steps.map (Step.rename p)) =
      ((ofSteps steps).map (rename p)).mapError (SequenceError.rename p) := by
  have hRenamed := Check.accept_rename p steps
  cases hAccept : Check.accept steps with
  | ok done =>
      rw [hAccept] at hRenamed
      rw [ofSteps_of_ok hAccept, ofSteps_of_ok hRenamed]
      rfl
  | error e =>
      rw [hAccept] at hRenamed
      rw [ofSteps_of_error hAccept, ofSteps_of_error hRenamed]
      rfl

theorem multiples_rename (s : Sequence) : (s.rename p).multiples = s.multiples := by
  refine Exact.multiplesFrom_rename ?_ s.steps
  intro x
  cases x <;> rfl

theorem multiple_rename (s : Sequence) : (s.rename p).multiple = s.multiple := by
  have hLast := (s.rename p).getLast?_multiples
  rw [multiples_rename, getLast?_multiples] at hLast
  exact (Option.some.inj hLast).symm

theorem checkWidth_rename (s : Sequence) (bits : Nat) :
    (s.rename p).checkWidth bits = s.checkWidth bits :=
  Check.widthFrom_rename p bits 0 s.steps

theorem constant_rename (s : Sequence) : (s.rename p).constant = s.constant := by
  rw [constant_eq, constant_eq, multiple_rename]

theorem validate_rename (s : Sequence) (bits : Nat) (expected : Word 64) :
    (s.rename p).validate bits expected = s.validate bits expected := by
  rw [validate, validate, checkWidth_rename, constant_rename]

/-- The cost of a step depends on its kind only. -/
theorem cost_rename (s : Sequence) (model : CostModel) :
    model.cost (s.rename p) = model.cost s := by
  have hStep : model.stepCost ∘ Step.rename p = model.stepCost := by
    funext step
    cases step <;> rfl
  rw [CostModel.cost, CostModel.cost, rename, List.map_map, hStep]

/-- Evaluation gives the same outcome and logs the same results, each with its renamed
step. -/
theorem evalLogged_rename (s : Sequence) {bits : Nat} (n : Word bits) :
    (s.rename p).eval n = s.eval n ∧
      ∃ results : List (Word bits),
        (s.evalLogged n).log = evalSpan bits :: List.zipWith Step.event s.steps results ∧
        ((s.rename p).evalLogged n).log =
          evalSpan bits :: List.zipWith Step.event (s.steps.map (Step.rename p)) results := by
  by_cases hFits : Check.Fits bits s.steps
  · have hRenamed : Check.Fits bits (s.rename p).steps := (Check.fits_rename_iff p).mpr hFits
    constructor
    · rw [eval_of_fits n hFits, eval_of_fits n hRenamed, multiple_rename]
    · refine ⟨_, by rw [evalLogged_of_fits n hFits], ?_⟩
      rw [evalLogged_of_fits n hRenamed, multiples_rename]
      rfl
  · -- Neither of the two is started.
    obtain ⟨index, amount, -, hWidth⟩ := checkWidth_of_not_fits hFits
    have hRenamed := (checkWidth_rename p s bits).trans hWidth
    have hBefore := evalLogged_of_error n hWidth
    have hAfter := evalLogged_of_error n hRenamed
    exact ⟨by rw [eval, eval, hBefore, hAfter], [], by simp [hBefore], by simp [hAfter]⟩

theorem output_rename (s : Sequence) : (s.rename p).output = s.output.rename p := by
  have hLast : (s.rename p).steps.getLast (s.rename p).steps_ne_nil =
      (s.steps.getLast s.steps_ne_nil).rename p := List.getLast_map _
  rw [output, output, hLast, Step.dst_rename]

theorem distinctFrom_rename (seen xs : List Operand) :
    distinctFrom (seen.map (Operand.rename p)) (xs.map (Operand.rename p)) =
      (distinctFrom seen xs).map (Operand.rename p) := by
  induction xs generalizing seen with
  | nil => rfl
  | cons x rest ih =>
      have hRest := ih (seen ++ [x])
      rw [List.map_append] at hRest
      simp only [List.map_cons, distinctFrom, Operand.rename_mem_map_iff]
      by_cases hSeen : x ∈ seen
      · rw [if_pos hSeen, if_pos hSeen, ih]
      · rw [if_neg hSeen, if_neg hSeen]
        exact hRest

theorem temporaries_rename (s : Sequence) :
    (s.rename p).temporaries = s.temporaries.map (Operand.rename p) := by
  have hDst : (s.rename p).steps.map Step.dst =
      (s.steps.map Step.dst).map (Operand.rename p) := by
    simp [rename]
  rw [temporaries, hDst]
  exact distinctFrom_rename p [] _

/-- Steps are accepted under all names or under none, and refused with the same error
about the renamed operand. Of an accepted sequence, everything computed is independent
of the names, and what is a name is renamed. -/
theorem rename_changes_names_only (p : Equiv.Perm UInt8) :
    (∀ steps : List Step, ofSteps (steps.map (Step.rename p)) =
      ((ofSteps steps).map (rename p)).mapError (SequenceError.rename p)) ∧
    ∀ s : Sequence,
      (s.rename p).steps = s.steps.map (Step.rename p) ∧
      (s.rename p).factors = s.factors ∧
      (s.rename p).constant = s.constant ∧
      (∀ bits expected, (s.rename p).validate bits expected = s.validate bits expected) ∧
      (∀ model : CostModel, model.cost (s.rename p) = model.cost s) ∧
      (∀ (w : Width) (n : Word w.bits), (s.rename p).eval n = s.eval n ∧
        ∃ results : List (Word w.bits),
          (s.evalLogged n).log = evalSpan w.bits :: List.zipWith Step.event s.steps results ∧
          ((s.rename p).evalLogged n).log =
            evalSpan w.bits :: List.zipWith Step.event (s.steps.map (Step.rename p)) results) ∧
      (s.rename p).output = s.output.rename p ∧
      (s.rename p).temporaries = s.temporaries.map (Operand.rename p) := by
  refine ⟨ofSteps_rename p, ?_⟩
  intro s
  refine ⟨rfl, ?_, constant_rename p s, validate_rename p s, cost_rename p s, ?_,
    output_rename p s, temporaries_rename p s⟩
  · rw [factors_eq, factors_eq, multiples_rename]
  · intro w n
    exact evalLogged_rename p s n

end Sequence

end Multiplierless
