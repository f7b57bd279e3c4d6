import Multiplierless.Proofs.Validation

/-!
What the scan and the machine touch. The relations below are the scan and the run
again, with every demand on the registers written out: the file keeps the size it was
made with, a register that is looked at or written lies within it, a register that is
read holds a value, and a shift is by less than the width. Main statement: the scan of
any list of steps and every run of a sequence meet these demands.
-/

namespace Multiplierless

namespace Check

/-- The scan from a table ends with `found`. Every table on the way has `size`
registers, and those of the operands of the steps that are reached are among them. -/
inductive ScansWithin (size : Nat) :
    RegisterFile Unit → Nat → List Step → Option SequenceError → Prop
  | done {table : RegisterFile Unit} {index : Nat} (hSize : table.size = size) :
      ScansWithin size table index [] none
  | undefinedOperand {table : RegisterFile Unit} {index : Nat} {step : Step} {rest : List Step}
      {x : Operand} (hSize : table.size = size) (hReads : ∀ y ∈ step.reads, y.slot < size)
      (hFirst : firstUndefined table step.reads = .ok (some x)) :
      ScansWithin size table index (step :: rest) (some (.undefinedOperand index x))
  | inputOverwritten {table : RegisterFile Unit} {index : Nat} {step : Step} {rest : List Step}
      (hSize : table.size = size) (hReads : ∀ y ∈ step.reads, y.slot < size)
      (hFirst : firstUndefined table step.reads = .ok none) (hInput : step.dst = .input) :
      ScansWithin size table index (step :: rest) (some (.inputOverwritten index))
  | next {table after : RegisterFile Unit} {index : Nat} {step : Step} {rest : List Step}
      {found : Option SequenceError} (hSize : table.size = size)
      (hReads : ∀ y ∈ step.reads, y.slot < size)
      (hFirst : firstUndefined table step.reads = .ok none) (hInput : step.dst ≠ .input)
      (hDst : step.dst.slot < size) (hWrite : table.write step.dst.slot () = .ok after)
      (hRest : ScansWithin size after (index + 1) rest found) :
      ScansWithin size table index (step :: rest) found

/-- The scan of all steps stays within a table made for them. -/
def SafeScan (steps : List Step) (found : Option SequenceError) : Prop :=
  ∃ table, (RegisterFile.empty (slotCount steps)).write Operand.input.slot () = .ok table ∧
    ScansWithin (slotCount steps) table 0 steps found

/-- A scan that starts with room for all operands keeps to its table, up to the step where
it ends. -/
theorem scansWithin_of_scan {table : RegisterFile Unit} {index : Nat} {steps : List Step}
    {found : Option SequenceError} (hScan : scan table index steps = .ok found)
    (hSlots : ∀ step ∈ steps, ∀ x ∈ step.operands, x.slot < table.size) :
    ScansWithin table.size table index steps found := by
  induction steps generalizing table index with
  | nil =>
      rw [← Except.ok.inj hScan]
      exact .done rfl
  | cons step rest ih =>
      have hStep := hSlots step (by simp)
      -- The search stops at the first operand without a value, so its success says
      -- nothing about those after it. The bounds do.
      have hReads : ∀ x ∈ step.reads, x.slot < table.size :=
        fun x hx => hStep x (List.mem_append_left _ hx)
      obtain ⟨first, hFirst, hScan⟩ := Except.bind_eq_ok_iff.mp hScan
      cases first with
      | some x =>
          rw [← Except.ok.inj hScan]
          exact .undefinedOperand rfl hReads hFirst
      | none =>
          dsimp only at hScan
          split at hScan
          · next hInput =>
              rw [← Except.ok.inj hScan]
              exact .inputOverwritten rfl hReads hFirst hInput
          · next hInput =>
              obtain ⟨after, hWrite, hScan⟩ := Except.bind_eq_ok_iff.mp hScan
              obtain ⟨hSize, -⟩ := RegisterFile.contents_of_write hWrite
              have hRest := ih hScan fun other hOther x hx => by
                rw [hSize]
                exact hSlots other (List.mem_cons_of_mem step hOther) x hx
              rw [hSize] at hRest
              exact .next rfl hReads hFirst hInput (RegisterFile.lt_size_of_write hWrite) hWrite
                hRest

/-- No list of steps makes the scan leave its table, whatever is wrong with it. -/
theorem safeScan_dataflow (steps : List Step) : SafeScan steps (dataflow steps) := by
  obtain ⟨table, hWrite, hScan⟩ :=
    Except.bind_eq_ok_iff.mp (Fault.eq_ok_valueOf (scanAll_faultless steps))
  obtain ⟨hSize, -⟩ := RegisterFile.contents_of_write hWrite
  rw [RegisterFile.size_empty] at hSize
  have hWithin := scansWithin_of_scan hScan fun step hStep x hx => by
    rw [hSize]
    exact slot_lt_slotCount hStep hx
  rw [hSize] at hWithin
  exact ⟨table, hWrite, hWithin⟩

end Check

namespace Machine

variable {bits : Nat}

/-- What a step needs of the registers that it is applied to. -/
structure Ready (regs : RegisterFile (Word bits)) (step : Step) : Prop where
  reads_within : ∀ x ∈ step.reads, x.slot < regs.size
  reads_hold : ∀ x ∈ step.reads, ∃ w, regs.contents x.slot = some w
  dst_within : step.dst.slot < regs.size
  shift_fits : ∀ amount, step.amount? = some amount → amount.toNat < bits

/-- The run from a register file ends with `results`. Every file on the way has `size`
registers, and every step finds what it needs. -/
inductive RunsWithin (size : Nat) :
    RegisterFile (Word bits) → List Step → List (Word bits) → Prop
  | done {regs : RegisterFile (Word bits)} (hSize : regs.size = size) : RunsWithin size regs [] []
  | next {regs after : RegisterFile (Word bits)} {step : Step} {rest : List Step}
      {result : Word bits} {results : List (Word bits)} (hSize : regs.size = size)
      (hReady : Ready regs step) (hApply : step.apply regs = .ok result)
      (hWrite : regs.write step.dst.slot result = .ok after)
      (hRest : RunsWithin size after rest results) :
      RunsWithin size regs (step :: rest) (result :: results)

/-- The run on `n` of all steps, on a register file made for them. -/
def SafeRun (steps : List Step) (n : Word bits) (results : List (Word bits)) : Prop :=
  ∃ regs, (RegisterFile.empty (slotCount steps)).write Operand.input.slot n = .ok regs ∧
    RunsWithin (slotCount steps) regs steps results

/-- A step has a result only if it finds the values that it reads and can shift. -/
theorem reads_of_apply {regs : RegisterFile (Word bits)} {step : Step} {result : Word bits}
    (hApply : step.apply regs = .ok result) :
    (∀ x ∈ step.reads, ∃ w, regs.contents x.slot = some w) ∧
      ∀ amount, step.amount? = some amount → amount.toNat < bits := by
  cases step with
  | shl dst src amount =>
      obtain ⟨x, hRead, hShift⟩ := Except.bind_eq_ok_iff.mp hApply
      have hSrc := RegisterFile.contents_of_read hRead
      refine ⟨by simp [Step.reads, hSrc], ?_⟩
      intro other hOther
      rw [← Option.some.inj hOther]
      exact Word.lt_of_shl hShift
  | sub dst lhs rhs =>
      obtain ⟨x, hLeft, hRest⟩ := Except.bind_eq_ok_iff.mp hApply
      obtain ⟨y, hRight, -⟩ := Except.bind_eq_ok_iff.mp hRest
      have hx := RegisterFile.contents_of_read hLeft
      have hy := RegisterFile.contents_of_read hRight
      exact ⟨by simp [Step.reads, hx, hy], by simp [Step.amount?]⟩

/-- A step that was applied and written found all that it needs. -/
theorem ready_of_apply {regs after : RegisterFile (Word bits)} {step : Step} {result : Word bits}
    (hApply : step.apply regs = .ok result)
    (hWrite : regs.write step.dst.slot result = .ok after) : Ready regs step := by
  obtain ⟨hReads, hShift⟩ := reads_of_apply hApply
  refine ⟨?_, hReads, RegisterFile.lt_size_of_write hWrite, hShift⟩
  intro x hx
  obtain ⟨w, hw⟩ := hReads x hx
  exact RegisterFile.lt_size_of_contents hw

/-- A run that goes through has met every demand on the way, since an access that does not
meet it is a fault. -/
theorem runsWithin_of_runFrom {regs : RegisterFile (Word bits)} {steps : List Step}
    {done : Logged (List (Word bits))} (hRun : runFrom regs steps = .ok done) :
    RunsWithin regs.size regs steps done.outcome := by
  induction steps generalizing regs done with
  | nil =>
      rw [← Except.ok.inj hRun]
      exact .done rfl
  | cons step rest ih =>
      obtain ⟨result, after, later, hApply, hWrite, hLater, rfl⟩ := runFrom_cons_eq_ok hRun
      obtain ⟨hSize, -⟩ := RegisterFile.contents_of_write hWrite
      have hRest := ih hLater
      rw [hSize] at hRest
      exact .next rfl (ready_of_apply hApply hWrite) hApply hWrite hRest

/-- The file keeps the size that it was made with for the steps. -/
theorem safeRun_of_run {steps : List Step} {n : Word bits} {done : Logged (List (Word bits))}
    (hRun : run steps n = .ok done) : SafeRun steps n done.outcome := by
  obtain ⟨regs, hWrite, hRun⟩ := Except.bind_eq_ok_iff.mp hRun
  obtain ⟨hSize, -⟩ := RegisterFile.contents_of_write hWrite
  rw [RegisterFile.size_empty] at hSize
  have hWithin := runsWithin_of_runFrom hRun
  rw [hSize] at hWithin
  exact ⟨regs, hWrite, hWithin⟩

end Machine

namespace Sequence

variable {bits : Nat}

theorem safeRun_results (s : Sequence) (n : Word bits) (hWidth : s.checkWidth bits = .ok ()) :
    Machine.SafeRun s.steps n (s.results n hWidth) :=
  Machine.safeRun_of_run (s.run_eq n hWidth)

/-- The validator as a composition: the checks of a new sequence, which every sequence has
passed, then the width check, and then a look at the last factor. -/
theorem validate_eq (s : Sequence) (bits : Nat) (expected : Word 64) :
    s.validate bits expected =
      (Check.accept s.steps).bind fun _ => (s.checkWidth bits).bind fun _ =>
        if s.factors.getLast? = some expected.resize then .ok ()
        else .error (.factorMismatch expected.value s.constant.value) := by
  simp only [s.accepted, getLast?_factors, Option.some.injEq]
  rfl

/-- The scan of any steps is safe, and that of a sequence finds nothing. Of a sequence, the
factors are the results of one safe run, and the constant is the last of them. The
validator is the safe scan with the checks around it, the width check and a look at that
run; each evaluation is a safe run or none at all. -/
theorem accesses_stay_within :
    (∀ steps : List Step, Check.SafeScan steps (Check.dataflow steps)) ∧
    ∀ s : Sequence,
      Check.SafeScan s.steps none ∧
      Machine.SafeRun s.steps (Word.wrap 1) s.factors ∧
      s.factors.getLast? = some s.constant ∧
      (∀ bits expected, s.validate bits expected =
        (Check.accept s.steps).bind fun _ => (s.checkWidth bits).bind fun _ =>
          if s.factors.getLast? = some expected.resize then .ok ()
          else .error (.factorMismatch expected.value s.constant.value)) ∧
      (∀ bits expected, s.validate bits expected = .ok () ↔
        Check.Fits bits s.steps ∧ s.factors.getLast? = some expected.resize) ∧
      ∀ (w : Width) (n : Word w.bits),
        (¬Check.Fits w.bits s.steps →
          ∃ e, s.evalLogged n = ⟨.error e, [evalSpan w.bits]⟩) ∧
        (Check.Fits w.bits s.steps →
          ∃ results r, Machine.SafeRun s.steps n results ∧ results.getLast? = some r ∧
            s.evalLogged n =
              ⟨.ok r, evalSpan w.bits :: List.zipWith Step.event s.steps results⟩) := by
  refine ⟨Check.safeScan_dataflow, ?_⟩
  intro s
  have hScan := Check.safeScan_dataflow s.steps
  rw [Check.dataflow_of_accept s.accepted] at hScan
  refine ⟨hScan, s.safeRun_results _ _, s.getLast?_factors, s.validate_eq, ?_, ?_⟩
  · intro bits expected
    rw [validate_eq_ok_iff, getLast?_factors, Option.some.injEq]
  · intro w n
    constructor
    · intro hFits
      obtain ⟨index, amount, -, hWidth⟩ := checkWidth_of_not_fits hFits
      exact ⟨_, evalLogged_of_error n hWidth⟩
    · intro hFits
      have hSafe := s.safeRun_results n (checkWidth_of_fits hFits)
      rw [results_eq] at hSafe
      refine ⟨_, _, hSafe, ?_, evalLogged_of_fits n hFits⟩
      rw [List.getLast?_map, getLast?_multiples]
      rfl

end Sequence

end Multiplierless
