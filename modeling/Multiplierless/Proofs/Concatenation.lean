import Multiplierless.Proofs.Acceptance
import Multiplierless.Proofs.Validation

/-!
One sequence after another. The second one starts on registers that the first has left
behind, in the same temporaries that it uses itself. It reads the input and what it has
written, and of these the first sequence leaves the input alone. Main statement: the
steps of two sequences in a row make a sequence, in which each of the two computes what
it computes by itself.
-/

namespace Multiplierless

/-- A step sees no more of the operands than it reads. -/
theorem Step.multiple_congr {step : Step} {held other : Operand → Int}
    (hReads : ∀ x ∈ step.reads, held x = other x) : step.multiple held = step.multiple other := by
  cases step with
  | shl dst src amount => rw [multiple, multiple, hReads src (by simp [reads])]
  | sub dst lhs rhs =>
      rw [multiple, multiple, hReads lhs (by simp [reads]), hReads rhs (by simp [reads])]

namespace Check

theorem Defined.mono {known more : List Operand} {steps : List Step}
    (hDefined : Defined known steps) (hMore : ∀ x ∈ known, x ∈ more) : Defined more steps := by
  induction steps generalizing known more with
  | nil => exact trivial
  | cons step rest ih =>
      obtain ⟨hReads, hDst, hRest⟩ := hDefined
      refine ⟨fun x hx => hMore x (hReads x hx), hDst, ih hRest ?_⟩
      intro x hx
      rcases List.mem_cons.mp hx with hHead | hKnown
      · exact hHead ▸ List.mem_cons_self
      · exact List.mem_cons_of_mem _ (hMore x hKnown)

/-- What the first steps write is known to the second ones in addition, and they do
not need it. -/
theorem Defined.append {known : List Operand} {first second : List Step}
    (hFirst : Defined known first) (hSecond : Defined known second) :
    Defined known (first ++ second) := by
  refine defined_append.mpr ⟨hFirst, hSecond.mono ?_⟩
  intro x hx
  exact mem_knownAfter.mpr (.inl hx)

theorem Fits.append {bits : Nat} {first second : List Step} (hFirst : Fits bits first)
    (hSecond : Fits bits second) : Fits bits (first ++ second) :=
  List.forall_mem_append.mpr ⟨hFirst, hSecond⟩

theorem accept_of_defined {steps : List Step} (hSteps : steps ≠ [])
    (hDefined : Defined [.input] steps) (hFits : Fits widestBits steps) :
    accept steps = .ok () := by
  have hDataflow : dataflow steps = none := by
    rwa [dataflow_eq, firstFault_eq_none_iff]
  calc
    accept steps = width widestBits steps := by simp [accept, hSteps, hDataflow]
    _ = .ok () := widthFrom_of_fits 0 hFits

end Check

namespace Exact

theorem multiplesFrom_append (held : Operand → Int) (first second : List Step) :
    multiplesFrom held (first ++ second) =
      multiplesFrom held first ++ multiplesFrom (heldAfter held first) second := by
  induction first generalizing held with
  | nil => rfl
  | cons step rest ih =>
      rw [List.cons_append, multiplesFrom, ih, multiplesFrom, List.cons_append]
      rfl

/-- An operand that no step writes holds what it held. -/
theorem heldAfter_of_not_written {x : Operand} {steps : List Step}
    (hSteps : ∀ step ∈ steps, step.dst ≠ x) (held : Operand → Int) :
    heldAfter held steps x = held x := by
  induction steps generalizing held with
  | nil => rfl
  | cons step rest ih =>
      obtain ⟨hStep, hRest⟩ := List.forall_mem_cons.mp hSteps
      calc
        heldAfter held (step :: rest) x = heldAfter (step.update held) rest x := rfl
        _ = step.update held x := ih hRest (step.update held)
        _ = held x := Function.update_of_ne hStep.symm _ _

/-- Only the known operands matter to steps that are defined by them. -/
theorem multiplesFrom_congr {known : List Operand} {steps : List Step}
    (hDefined : Check.Defined known steps) {held other : Operand → Int}
    (hKnown : ∀ x ∈ known, held x = other x) :
    multiplesFrom held steps = multiplesFrom other steps := by
  induction steps generalizing known held other with
  | nil => rfl
  | cons step rest ih =>
      obtain ⟨hReads, -, hRest⟩ := hDefined
      have hStep : step.multiple held = step.multiple other :=
        Step.multiple_congr fun x hx => hKnown x (hReads x hx)
      -- A stale value in the destination is gone after the step.
      have hAfter : ∀ x ∈ step.dst :: known, step.update held x = step.update other x := by
        intro x hx
        by_cases hDst : x = step.dst
        · simp [Step.update, hDst, hStep]
        · have hOld := hKnown x ((List.mem_cons.mp hx).resolve_left hDst)
          simp [Step.update, hDst, hOld]
      rw [multiplesFrom, multiplesFrom, hStep, ih hRest hAfter]

end Exact

namespace Sequence

/-- The steps of one sequence and then those of another. -/
def append (a b : Sequence) : Sequence where
  steps := a.steps ++ b.steps
  accepted := Check.accept_of_defined (List.append_ne_nil_of_left_ne_nil a.steps_ne_nil b.steps)
    (a.defined.append b.defined) (a.fits_widest.append b.fits_widest)

theorem output_append (a b : Sequence) : (a.append b).output = b.output :=
  congrArg Step.dst (List.getLast_append_of_ne_nil _ b.steps_ne_nil)

theorem multiples_append (a b : Sequence) :
    (a.append b).multiples = a.multiples ++ b.multiples := by
  have hInput : Exact.heldAfter Exact.initial a.steps .input = 1 :=
    Exact.heldAfter_of_not_written a.defined.dst_ne_input Exact.initial
  have hKnown : ∀ x ∈ [Operand.input],
      Exact.heldAfter Exact.initial a.steps x = Exact.initial x := by
    intro x hx
    rw [List.mem_singleton.mp hx, hInput]
    rfl
  rw [multiples, append, Exact.multiplesFrom_append, Exact.multiplesFrom_congr b.defined hKnown]
  rfl

theorem multiple_append (a b : Sequence) : (a.append b).multiple = b.multiple := by
  have hLast := (a.append b).getLast?_multiples
  rw [multiples_append, List.getLast?_append, getLast?_multiples, Option.some_or] at hLast
  exact (Option.some.inj hLast).symm

/-- Nothing that the first sequence leaves in the registers shows in the second. Both
may write the same temporaries, and neither has to be multiplication by -82. -/
theorem append_runs_apart (a b : Sequence) :
    ∃ s, ofSteps (a.steps ++ b.steps) = .ok s ∧
      s.factors = a.factors ++ b.factors ∧
      s.constant = b.constant ∧
      s.output = b.output ∧
      ∀ w : Width, Check.Fits w.bits a.steps → Check.Fits w.bits b.steps → ∀ n : Word w.bits,
        (∃ r, s.eval n = .ok r ∧ b.eval n = .ok r) ∧
        ∃ first second : List (Word w.bits),
          first.length = a.length ∧ second.length = b.length ∧
          (a.evalLogged n).log = evalSpan w.bits :: List.zipWith Step.event a.steps first ∧
          (b.evalLogged n).log = evalSpan w.bits :: List.zipWith Step.event b.steps second ∧
          (s.evalLogged n).log = evalSpan w.bits ::
            (List.zipWith Step.event a.steps first ++ List.zipWith Step.event b.steps second) := by
  refine ⟨a.append b, ofSteps_of_ok (a.append b).accepted, ?_, ?_, output_append a b, ?_⟩
  · simp only [factors_eq, multiples_append, List.map_append]
  · rw [constant_eq, constant_eq, multiple_append]
  · intro w hFirst hSecond n
    have hBoth : Check.Fits w.bits (a.append b).steps := hFirst.append hSecond
    constructor
    · exact ⟨_, by rw [eval_of_fits n hBoth, multiple_append], eval_of_fits n hSecond⟩
    · have hLength : ∀ s : Sequence,
          (s.multiples.map fun v => (Word.wrap (v * n.value) : Word w.bits)).length =
            s.steps.length := by
        intro s
        rw [List.length_map, multiples, Exact.length_multiplesFrom]
      refine ⟨_, _, hLength a, hLength b, by rw [evalLogged_of_fits n hFirst],
        by rw [evalLogged_of_fits n hSecond], ?_⟩
      rw [evalLogged_of_fits n hBoth, multiples_append, List.map_append,
        ← List.zipWith_append (hLength a).symm]
      rfl

/-- Multiplication by three starts on the product that the first sequence left in `t7`, and
does not see it. -/
theorem append_runs_apart_reused :
    ∃ (b s : Sequence) (n : Word 8) (first second : List (Word 8)),
      b.steps = [.shl (.temp 7) .input 2, .sub (.temp 1) (.temp 7) .input] ∧
      n = Word.wrap 100 ∧ first = [32, -68, -16, 52, 104, -4, -8].map Word.wrap ∧
      second = [-112, 44].map Word.wrap ∧
      ofSteps (neg82.steps ++ b.steps) = .ok s ∧ s.output = .temp 1 ∧
      neg82.eval n = .ok (Word.wrap (-8)) ∧ b.eval n = .ok (Word.wrap 44) ∧
      s.eval n = .ok (Word.wrap 44) ∧
      (neg82.evalLogged n).log = evalSpan 8 :: List.zipWith Step.event neg82.steps first ∧
      (b.evalLogged n).log = evalSpan 8 :: List.zipWith Step.event b.steps second ∧
      (s.evalLogged n).log = evalSpan 8 ::
        (List.zipWith Step.event neg82.steps first ++ List.zipWith Step.event b.steps second) := by
  obtain ⟨s, hSteps, -, -, hOutput, hRuns⟩ := append_runs_apart neg82
    ⟨[.shl (.temp 7) .input 2, .sub (.temp 1) (.temp 7) .input], rfl⟩
  obtain ⟨⟨r, hBoth, hSecond⟩, first, second, -, -, hFirstLog, hSecondLog, hLog⟩ :=
    hRuns .w8 (fits_of_checkWidth rfl) (fits_of_checkWidth rfl) (Word.wrap 100)
  have hResult : Word.wrap 44 = r := Except.ok.inj hSecond
  rw [← hResult] at hBoth
  rw [← (List.cons.inj hFirstLog).2, ← (List.cons.inj hSecondLog).2] at hLog
  exact ⟨_, s, _, _, _, rfl, rfl, rfl, rfl, hSteps, hOutput, rfl, rfl, hBoth, rfl, rfl, hLog⟩

end Sequence

end Multiplierless
