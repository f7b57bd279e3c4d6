import Multiplierless.Sequence.Basic

/-!
What the width check decides. Steps fit a width when every shift is by less than it.
Main statements: the check passes exactly the steps that fit, and otherwise names the
first step that does not, with its amount and the width.
-/

namespace Multiplierless

/-- The amount that a step shifts by, if it is a shift. -/
def Step.amount? : Step → Option UInt32
  | .shl _ _ amount => some amount
  | .sub _ _ _ => none

namespace Check

/-- Every shift is by less than the width. -/
def Fits (bits : Nat) (steps : List Step) : Prop :=
  ∀ step ∈ steps, ∀ amount, step.amount? = some amount → amount.toNat < bits

/-- The step at `index` shifts by `amount`, which is the whole width or more, and all
steps before it fit. -/
structure FirstWide (bits : Nat) (steps : List Step) (index : Nat) (amount : UInt32) : Prop where
  shifts : steps[index]?.bind Step.amount? = some amount
  wide : bits ≤ amount.toNat
  before : Fits bits (steps.take index)

theorem fits_cons {bits : Nat} {step : Step} {rest : List Step} :
    Fits bits (step :: rest) ↔
      (∀ amount, step.amount? = some amount → amount.toNat < bits) ∧ Fits bits rest :=
  List.forall_mem_cons

/-- What fits a width fits every larger one. -/
theorem Fits.mono {narrow wide : Nat} {steps : List Step} (hFits : Fits narrow steps)
    (hWidth : narrow ≤ wide) : Fits wide steps := by
  intro step hStep amount hAmount
  exact Nat.lt_of_lt_of_le (hFits step hStep amount hAmount) hWidth

theorem FirstWide.cons {bits index : Nat} {amount : UInt32} {step : Step} {rest : List Step}
    (hStep : ∀ amount, step.amount? = some amount → amount.toNat < bits)
    (hFirst : FirstWide bits rest index amount) :
    FirstWide bits (step :: rest) (index + 1) amount where
  shifts := by simpa using hFirst.shifts
  wide := hFirst.wide
  before := by
    rw [List.take_succ_cons, fits_cons]
    exact ⟨hStep, hFirst.before⟩

/-- The check goes on from a step that fits and stops at any other. -/
theorem widthFrom_cons (bits index : Nat) (step : Step) (rest : List Step) :
    ((∀ amount, step.amount? = some amount → amount.toNat < bits) ∧
        widthFrom bits index (step :: rest) = widthFrom bits (index + 1) rest) ∨
      ∃ amount, step.amount? = some amount ∧ bits ≤ amount.toNat ∧
        widthFrom bits index (step :: rest) = .error (.shiftOutOfRange index amount bits) := by
  cases step with
  | shl dst src amount =>
      by_cases hAmount : bits ≤ amount.toNat
      · exact .inr ⟨amount, rfl, hAmount, if_pos hAmount⟩
      · refine .inl ⟨?_, if_neg hAmount⟩
        intro other hOther
        have hSame : amount = other := Option.some.inj hOther
        subst hSame
        omega
  | sub dst lhs rhs => exact .inl ⟨by simp [Step.amount?], rfl⟩

theorem widthFrom_of_fits {bits : Nat} (index : Nat) {steps : List Step}
    (hFits : Fits bits steps) : widthFrom bits index steps = .ok () := by
  induction steps generalizing index with
  | nil => rfl
  | cons step rest ih =>
      obtain ⟨hStep, hRest⟩ := fits_cons.mp hFits
      rcases widthFrom_cons bits index step rest with ⟨-, hNext⟩ | ⟨amount, hAmount, hWide, -⟩
      · rw [hNext]
        exact ih (index + 1) hRest
      · exact absurd (hStep amount hAmount) (Nat.not_lt.mpr hWide)

/-- Indices are counted from where the check started. -/
theorem widthFrom_of_not_fits {bits : Nat} (index : Nat) {steps : List Step}
    (hFits : ¬Fits bits steps) : ∃ offset amount, FirstWide bits steps offset amount ∧
      widthFrom bits index steps = .error (.shiftOutOfRange (index + offset) amount bits) := by
  induction steps generalizing index with
  | nil => exact absurd (by simp [Fits]) hFits
  | cons step rest ih =>
      rcases widthFrom_cons bits index step rest with ⟨hStep, hNext⟩ | ⟨amount, hAmount, hWide, hStop⟩
      · have hRest : ¬Fits bits rest := fun hRest => hFits (fits_cons.mpr ⟨hStep, hRest⟩)
        obtain ⟨offset, amount, hFirst, hError⟩ := ih (index + 1) hRest
        refine ⟨offset + 1, amount, hFirst.cons hStep, ?_⟩
        rw [hNext, hError, Nat.add_right_comm, Nat.add_assoc]
      · exact ⟨0, amount, ⟨by simpa using hAmount, hWide, by simp [Fits]⟩, hStop⟩

/-- Steps that fit are passed over. -/
theorem widthFrom_append {bits : Nat} {first : List Step} (hFirst : Fits bits first) (index : Nat)
    (second : List Step) :
    widthFrom bits index (first ++ second) = widthFrom bits (index + first.length) second := by
  induction first generalizing index with
  | nil => rfl
  | cons step rest ih =>
      obtain ⟨hStep, hRest⟩ := fits_cons.mp hFirst
      rcases widthFrom_cons bits index step (rest ++ second) with
        ⟨-, hNext⟩ | ⟨amount, hAmount, hWide, -⟩
      · rw [List.cons_append, hNext, ih hRest, List.length_cons, Nat.add_right_comm, Nat.add_assoc]
      · exact absurd (hStep amount hAmount) (Nat.not_lt.mpr hWide)

/-- A list is what stands before a step, the step and what stands after it. -/
theorem take_append_cons_drop {steps : List Step} {index : Nat} {step : Step}
    (hStep : steps[index]? = some step) :
    steps.take index ++ step :: steps.drop (index + 1) = steps ∧
      (steps.take index).length = index := by
  obtain ⟨hIndex, hGet⟩ := List.getElem?_eq_some_iff.mp hStep
  constructor
  · rw [← hGet, ← List.drop_eq_getElem_cons hIndex, List.take_append_drop]
  · exact List.length_take_of_le (Nat.le_of_lt hIndex)

/-- There is no second step that could be the first. -/
theorem FirstWide.width_eq {bits index : Nat} {amount : UInt32} {steps : List Step}
    (hFirst : FirstWide bits steps index amount) :
    width bits steps = .error (.shiftOutOfRange index amount bits) := by
  obtain ⟨step, hStep, hAmount⟩ := Option.bind_eq_some_iff.mp hFirst.shifts
  obtain ⟨hSplit, hLength⟩ := take_append_cons_drop hStep
  have hScan := widthFrom_append hFirst.before 0 (step :: steps.drop (index + 1))
  rw [hSplit, hLength, Nat.zero_add] at hScan
  rw [width, hScan]
  rcases widthFrom_cons bits index step (steps.drop (index + 1)) with
    ⟨hFits, -⟩ | ⟨found, hFound, -, hError⟩
  · exact absurd (hFits amount hAmount) (Nat.not_lt.mpr hFirst.wide)
  · have hSame : found = amount := Option.some.inj (hFound.symm.trans hAmount)
    rw [hError, hSame]

end Check

namespace Sequence

theorem checkWidth_of_fits {s : Sequence} {bits : Nat} (hFits : Check.Fits bits s.steps) :
    s.checkWidth bits = .ok () :=
  Check.widthFrom_of_fits 0 hFits

/-- A sequence that does not fit is refused with its first wide shift. -/
theorem checkWidth_of_not_fits {s : Sequence} {bits : Nat} (hFits : ¬Check.Fits bits s.steps) :
    ∃ index amount, Check.FirstWide bits s.steps index amount ∧
      s.checkWidth bits = .error (.shiftOutOfRange index amount bits) := by
  obtain ⟨index, amount, hFirst, hError⟩ := Check.widthFrom_of_not_fits 0 hFits
  rw [Nat.zero_add] at hError
  exact ⟨index, amount, hFirst, hError⟩

theorem fits_of_checkWidth {s : Sequence} {bits : Nat} (hWidth : s.checkWidth bits = .ok ()) :
    Check.Fits bits s.steps := by
  by_cases hFits : Check.Fits bits s.steps
  · exact hFits
  · obtain ⟨index, amount, -, hError⟩ := checkWidth_of_not_fits hFits
    rw [hError] at hWidth
    exact absurd hWidth (by simp)

end Sequence

end Multiplierless
