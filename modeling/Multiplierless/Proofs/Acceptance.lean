import Mathlib.Tactic.ByContra
import Multiplierless.Proofs.Dataflow
import Multiplierless.Proofs.WidthCheck

/-!
Which lists of steps are accepted. The conditions are stated by position in the list
and without a table: an operand has a value at a step when it is the input or an
earlier step writes it. Main statement: a sequence is made of exactly the lists that
meet the conditions, and any other list is refused with the one error that its first
fault calls for. A dataflow fault anywhere comes before every shift.
-/

namespace Multiplierless.Check

/-- The operands known after some steps. -/
def knownAfter (known : List Operand) (steps : List Step) : List Operand :=
  steps.foldl (fun known step => step.dst :: known) known

/-- What is known after some steps was known before them or is written by one of them. -/
theorem mem_knownAfter {known : List Operand} {steps : List Step} {x : Operand} :
    x ∈ knownAfter known steps ↔ x ∈ known ∨ ∃ step ∈ steps, step.dst = x := by
  induction steps generalizing known with
  | nil => simp [knownAfter]
  | cons step rest ih =>
      calc
        x ∈ knownAfter known (step :: rest) ↔
            x ∈ step.dst :: known ∨ ∃ later ∈ rest, later.dst = x := ih
        _ ↔ x ∈ known ∨ step.dst = x ∨ ∃ later ∈ rest, later.dst = x := by
            rw [List.mem_cons, eq_comm, or_assoc, or_left_comm]
        _ ↔ x ∈ known ∨ ∃ later ∈ step :: rest, later.dst = x := by
            simp only [List.mem_cons, exists_eq_or_imp]

theorem defined_append {known : List Operand} {first second : List Step} :
    Defined known (first ++ second) ↔
      Defined known first ∧ Defined (knownAfter known first) second := by
  induction first generalizing known with
  | nil => simp [Defined, knownAfter]
  | cons step rest ih =>
      rw [List.cons_append, Defined, Defined, ih, and_assoc, and_assoc]
      rfl

/-- Steps without a fault are passed over. -/
theorem firstFault_append {known : List Operand} {first : List Step} (hFirst : Defined known first)
    (index : Nat) (second : List Step) :
    firstFault known index (first ++ second) =
      firstFault (knownAfter known first) (index + first.length) second := by
  induction first generalizing known index with
  | nil => rfl
  | cons step rest ih =>
      obtain ⟨hReads, hDst, hRest⟩ := hFirst
      have hFind : step.reads.find? (fun x => decide (x ∉ known)) = none := by
        simpa [List.find?_eq_none] using hReads
      rw [List.cons_append, firstFault, hFind]
      simp only [if_neg hDst, ih hRest, List.length_cons, Nat.add_assoc, Nat.add_comm 1]
      rfl

/-- The operand is the input or an earlier step writes it. -/
def HasValue (steps : List Step) (index : Nat) (x : Operand) : Prop :=
  x = .input ∨ ∃ earlier ∈ steps.take index, earlier.dst = x

/-- A step at this place reads what has a value and does not write to the input. -/
structure Clean (steps : List Step) (index : Nat) (step : Step) : Prop where
  reads : ∀ x ∈ step.reads, HasValue steps index x
  dst : step.dst ≠ .input

/-- The step at `index` is not clean, and all steps before it are. -/
structure FirstFaulty (steps : List Step) (index : Nat) (step : Step) : Prop where
  position : steps[index]? = some step
  faulty : ¬Clean steps index step
  before : ∀ i < index, ∀ earlier, steps[i]? = some earlier → Clean steps i earlier

/-- Steps that a sequence can be made of. -/
structure WellFormed (steps : List Step) : Prop where
  nonempty : steps ≠ []
  reads : ∀ index step, steps[index]? = some step → ∀ x ∈ step.reads, HasValue steps index x
  dst : ∀ step ∈ steps, step.dst ≠ .input
  fits : Fits widestBits steps

/-- What a list of steps is refused with. Within a step, a read that comes too early
is reported before a write to the input, and of two such reads the first. -/
inductive Rejected (steps : List Step) : SequenceError → Prop
  | empty (hEmpty : steps = []) : Rejected steps .empty
  | undefinedOperand {index : Nat} {step : Step} {before after : List Operand} {x : Operand}
      (hFirst : FirstFaulty steps index step) (hReads : step.reads = before ++ x :: after)
      (hBefore : ∀ y ∈ before, HasValue steps index y) (hUndefined : ¬HasValue steps index x) :
      Rejected steps (.undefinedOperand index x)
  | inputOverwritten {index : Nat} {step : Step} (hFirst : FirstFaulty steps index step)
      (hReads : ∀ x ∈ step.reads, HasValue steps index x) :
      Rejected steps (.inputOverwritten index)
  | shiftOutOfRange {index : Nat} {amount : UInt32}
      (hClean : ∀ i step, steps[i]? = some step → Clean steps i step)
      (hFirst : FirstWide widestBits steps index amount) :
      Rejected steps (.shiftOutOfRange index amount widestBits)

/-- The search knows an operand at a place just when the operand has a value there. -/
theorem mem_knownAfter_take {steps : List Step} {index : Nat} {x : Operand} :
    x ∈ knownAfter [.input] (steps.take index) ↔ HasValue steps index x := by
  rw [mem_knownAfter, List.mem_singleton]
  rfl

theorem find?_eq_none_iff_hasValue {steps : List Step} {index : Nat} {xs : List Operand} :
    xs.find? (fun x => decide (x ∉ knownAfter [.input] (steps.take index))) = none ↔
      ∀ x ∈ xs, HasValue steps index x := by
  simp [List.find?_eq_none, mem_knownAfter_take]

theorem find?_eq_some_iff_hasValue {steps : List Step} {index : Nat} {xs : List Operand}
    {x : Operand} :
    xs.find? (fun x => decide (x ∉ knownAfter [.input] (steps.take index))) = some x ↔
      ¬HasValue steps index x ∧
        ∃ before after, xs = before ++ x :: after ∧ ∀ y ∈ before, HasValue steps index y := by
  simp [List.find?_eq_some_iff_append, mem_knownAfter_take]

/-- Clean steps in front are defined, one after the other. -/
theorem defined_take {steps : List Step} (index : Nat)
    (hClean : ∀ i < index, ∀ step, steps[i]? = some step → Clean steps i step) :
    Defined [.input] (steps.take index) := by
  induction index with
  | zero => exact trivial
  | succ index ih =>
      have hEarlier := ih fun i hi => hClean i (Nat.lt_succ_of_lt hi)
      -- Past the end of the list nothing is added.
      rw [List.take_add_one, defined_append]
      refine ⟨hEarlier, ?_⟩
      cases hStep : steps[index]? with
      | none => exact trivial
      | some step =>
          obtain ⟨hReads, hDst⟩ := hClean index (Nat.lt_succ_self index) step hStep
          exact ⟨fun x hx => mem_knownAfter_take.mpr (hReads x hx), hDst, trivial⟩

/-- The scan finds nothing in steps that are all clean. -/
theorem dataflow_of_clean {steps : List Step}
    (hClean : ∀ i step, steps[i]? = some step → Clean steps i step) : dataflow steps = none := by
  have hDefined := defined_take steps.length fun i _ => hClean i
  rw [List.take_length] at hDefined
  rwa [dataflow_eq, firstFault_eq_none_iff]

/-- The scan arrives at the first step that is not clean. -/
theorem FirstFaulty.dataflow_eq {steps : List Step} {index : Nat} {step : Step}
    (hFirst : FirstFaulty steps index step) :
    dataflow steps =
      firstFault (knownAfter [.input] (steps.take index)) index
        (step :: steps.drop (index + 1)) := by
  obtain ⟨hSplit, hLength⟩ := take_append_cons_drop hFirst.position
  have hScan := firstFault_append (defined_take index hFirst.before) 0
    (step :: steps.drop (index + 1))
  rwa [hSplit, hLength, Nat.zero_add, ← Check.dataflow_eq] at hScan

theorem FirstFaulty.ne_nil {steps : List Step} {index : Nat} {step : Step}
    (hFirst : FirstFaulty steps index step) : steps ≠ [] :=
  List.ne_nil_of_mem (List.mem_of_getElem? hFirst.position)

theorem accept_of_dataflow {steps : List Step} {e : SequenceError} (hSteps : steps ≠ [])
    (hDataflow : dataflow steps = some e) : accept steps = .error e := by
  simp [accept, hSteps, hDataflow]

/-- Clean steps are judged by their shifts alone. -/
theorem accept_of_clean {steps : List Step} (hSteps : steps ≠ [])
    (hClean : ∀ i step, steps[i]? = some step → Clean steps i step) :
    accept steps = width widestBits steps := by
  simp [accept, hSteps, dataflow_of_clean hClean]

/-- The cases of a refusal exclude each other and are what the check reports. -/
theorem Rejected.accept_eq {steps : List Step} {e : SequenceError} (hRejected : Rejected steps e) :
    accept steps = .error e := by
  cases hRejected with
  | empty hEmpty =>
      rw [hEmpty]
      rfl
  | @undefinedOperand index step before after x hFirst hReads hBefore hUndefined =>
      have hFind := find?_eq_some_iff_hasValue.mpr ⟨hUndefined, before, after, hReads, hBefore⟩
      apply accept_of_dataflow hFirst.ne_nil
      rw [hFirst.dataflow_eq, firstFault, hFind]
  | @inputOverwritten index step hFirst hReads =>
      have hFind := find?_eq_none_iff_hasValue.mpr hReads
      have hDst : step.dst = .input := by
        by_contra hDst
        exact hFirst.faulty ⟨hReads, hDst⟩
      apply accept_of_dataflow hFirst.ne_nil
      rw [hFirst.dataflow_eq, firstFault, hFind]
      exact if_pos hDst
  | @shiftOutOfRange index amount hClean hFirst =>
      obtain ⟨step, hStep, -⟩ := Option.bind_eq_some_iff.mp hFirst.shifts
      have hSteps : steps ≠ [] := List.ne_nil_of_mem (List.mem_of_getElem? hStep)
      rw [accept_of_clean hSteps hClean]
      exact hFirst.width_eq

theorem WellFormed.clean {steps : List Step} (hFormed : WellFormed steps) :
    ∀ i step, steps[i]? = some step → Clean steps i step := by
  intro i step hStep
  exact ⟨hFormed.reads i step hStep, hFormed.dst step (List.mem_of_getElem? hStep)⟩

theorem WellFormed.accept_eq {steps : List Step} (hFormed : WellFormed steps) :
    accept steps = .ok () := by
  rw [accept_of_clean hFormed.nonempty hFormed.clean]
  exact widthFrom_of_fits 0 hFormed.fits

/-- When no step is the first that is not clean, every step is clean. -/
theorem clean_of_no_firstFaulty {steps : List Step}
    (hNone : ∀ index step, ¬FirstFaulty steps index step) :
    ∀ i step, steps[i]? = some step → Clean steps i step := by
  intro i
  induction i using Nat.strongRecOn with
  | ind i ih =>
      intro step hStep
      by_contra hFaulty
      exact hNone i step ⟨hStep, hFaulty, ih⟩

/-- A step that is not clean reads too early or writes to the input, and either is an error. -/
theorem FirstFaulty.exists_rejected {steps : List Step} {index : Nat} {step : Step}
    (hFirst : FirstFaulty steps index step) : ∃ e, Rejected steps e := by
  cases hFind : step.reads.find? (fun x =>
      decide (x ∉ knownAfter [.input] (steps.take index))) with
  | none => exact ⟨_, .inputOverwritten hFirst (find?_eq_none_iff_hasValue.mp hFind)⟩
  | some x =>
      obtain ⟨hUndefined, before, after, hReads, hBefore⟩ := find?_eq_some_iff_hasValue.mp hFind
      exact ⟨_, .undefinedOperand hFirst hReads hBefore hUndefined⟩

/-- Nothing is left open between the conditions and the refusals. -/
theorem wellFormed_or_rejected (steps : List Step) :
    WellFormed steps ∨ ∃ e, Rejected steps e := by
  by_cases hSteps : steps = []
  · exact .inr ⟨_, .empty hSteps⟩
  by_cases hFaulty : ∃ index step, FirstFaulty steps index step
  · obtain ⟨index, step, hFirst⟩ := hFaulty
    exact .inr hFirst.exists_rejected
  have hClean := clean_of_no_firstFaulty fun index step hFirst => hFaulty ⟨index, step, hFirst⟩
  by_cases hFits : Fits widestBits steps
  · refine .inl ⟨hSteps, fun i step hStep => (hClean i step hStep).reads, ?_, hFits⟩
    intro step hStep
    obtain ⟨i, hi⟩ := List.getElem?_of_mem hStep
    exact (hClean i step hi).dst
  · obtain ⟨index, amount, hFirst, -⟩ := widthFrom_of_not_fits 0 hFits
    exact .inr ⟨_, .shiftOutOfRange hClean hFirst⟩

end Multiplierless.Check

namespace Multiplierless.Sequence

theorem ofSteps_of_ok {steps : List Step} (hAccept : Check.accept steps = .ok ()) :
    ofSteps steps = .ok ⟨steps, hAccept⟩ := by
  unfold ofSteps
  split
  · rfl
  · next hError => exact absurd (hError.symm.trans hAccept) (by simp)

theorem ofSteps_of_error {steps : List Step} {e : SequenceError}
    (hAccept : Check.accept steps = .error e) : ofSteps steps = .error e := by
  unfold ofSteps
  split
  · next hOk => exact absurd (hOk.symm.trans hAccept) (by simp)
  · next found hError =>
      have hSame : found = e := Except.error.inj (hError.symm.trans hAccept)
      rw [hSame]

theorem wellFormed (s : Sequence) : Check.WellFormed s.steps := by
  rcases Check.wellFormed_or_rejected s.steps with hFormed | ⟨e, hRejected⟩
  · exact hFormed
  · exact absurd (s.accepted.symm.trans hRejected.accept_eq) (by simp)

/-- Every operand of a step is the input or is written by some step. -/
theorem operand_written (s : Sequence) {step : Step} (hStep : step ∈ s.steps) {x : Operand}
    (hMem : x ∈ step.operands) : x = .input ∨ ∃ writer ∈ s.steps, writer.dst = x := by
  rcases List.mem_append.mp hMem with hRead | hDst
  · obtain ⟨index, hIndex⟩ := List.getElem?_of_mem hStep
    rcases s.wellFormed.reads index step hIndex x hRead with hInput | ⟨earlier, hEarlier, hx⟩
    · exact .inl hInput
    · exact .inr ⟨earlier, List.mem_of_mem_take hEarlier, hx⟩
  · exact .inr ⟨step, hStep, (List.mem_singleton.mp hDst).symm⟩

/-- A sequence comes from the well-formed lists and holds the steps of the list. Every
other list is refused with the error that its first fault calls for, and with no
other. -/
theorem ofSteps_decides (steps : List Step) :
    ((∃ s, ofSteps steps = .ok s) ↔ Check.WellFormed steps) ∧
    (∀ s, ofSteps steps = .ok s → s.steps = steps) ∧
    ∀ e, ofSteps steps = .error e ↔ Check.Rejected steps e := by
  rcases Check.wellFormed_or_rejected steps with hFormed | ⟨found, hRejected⟩
  · have hOk := ofSteps_of_ok hFormed.accept_eq
    refine ⟨by simp [hOk, hFormed], ?_, ?_⟩
    · intro s hs
      rw [← Except.ok.inj (hOk.symm.trans hs)]
    · intro e
      simp only [hOk, reduceCtorEq, false_iff]
      intro hRejected
      exact absurd (hFormed.accept_eq.symm.trans hRejected.accept_eq) (by simp)
  · have hError := ofSteps_of_error hRejected.accept_eq
    refine ⟨?_, by simp [hError], ?_⟩
    · simp only [hError, reduceCtorEq, exists_false, false_iff]
      intro hFormed
      exact absurd (hFormed.accept_eq.symm.trans hRejected.accept_eq) (by simp)
    · intro e
      constructor
      · intro he
        rw [← Except.error.inj (hError.symm.trans he)]
        exact hRejected
      · intro he
        exact ofSteps_of_error he.accept_eq

-- The wide shift comes first in the list, the fault behind it is reported.
example : ofSteps [.shl (.temp 1) .input 200, .sub (.temp 2) (.temp 1) (.temp 9)] =
    .error (.undefinedOperand 1 (.temp 9)) := rfl

end Multiplierless.Sequence
