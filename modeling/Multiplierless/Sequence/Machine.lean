import Multiplierless.Sequence.Check
import Multiplierless.Word

/-!
The machine that runs steps on words. It has one register for each slot that the
steps mention and starts with the input in its register and all others empty. Every
step is logged with its result. Main statement: a list of steps that passed its
checks runs to the end without a fault, at every width that its shifts fit.
-/

namespace Multiplierless

variable {bits : Nat}

/-- The value that a step computes from the registers. -/
def Step.apply (regs : RegisterFile (Word bits)) : Step → Except Fault (Word bits)
  | .shl _ src amount => do
      let x ← regs.read src.slot
      x.shl amount
  | .sub _ lhs rhs => do
      let x ← regs.read lhs.slot
      let y ← regs.read rhs.slot
      pure (x.sub y)

/-- What the log says of a step that was applied. -/
def Step.event (step : Step) (result : Word bits) : LogRecord :=
  .event .trace [("step", step.text), ("result", result.text)]

namespace Machine

/-- Runs the steps, lists the value that each of them wrote and logs it. -/
def runFrom (regs : RegisterFile (Word bits)) :
    List Step → Except Fault (Logged (List (Word bits)))
  | [] => .ok ⟨[], []⟩
  | step :: rest => do
      let result ← step.apply regs
      let regs ← regs.write step.dst.slot result
      let later ← runFrom regs rest
      pure ⟨result :: later.outcome, step.event result :: later.log⟩

def run (steps : List Step) (n : Word bits) : Except Fault (Logged (List (Word bits))) := do
  let regs ← (RegisterFile.empty (slotCount steps)).write Operand.input.slot n
  runFrom regs steps

/-- A run that goes through starts with the result of the first step, which is written
and logged, and goes on from the registers after it. -/
theorem runFrom_cons_eq_ok {regs : RegisterFile (Word bits)} {step : Step} {rest : List Step}
    {done : Logged (List (Word bits))} (hRun : runFrom regs (step :: rest) = .ok done) :
    ∃ result after later, step.apply regs = .ok result ∧
      regs.write step.dst.slot result = .ok after ∧ runFrom after rest = .ok later ∧
      done = ⟨result :: later.outcome, step.event result :: later.log⟩ := by
  obtain ⟨result, hApply, hRun⟩ := Except.bind_eq_ok_iff.mp hRun
  obtain ⟨after, hWrite, hRun⟩ := Except.bind_eq_ok_iff.mp hRun
  obtain ⟨later, hLater, hDone⟩ := Except.bind_eq_ok_iff.mp hRun
  exact ⟨result, after, later, hApply, hWrite, hLater, (Except.ok.inj hDone).symm⟩

/-- The log of a run has one event for each step, with the value that the step wrote. -/
theorem log_of_runFrom {regs : RegisterFile (Word bits)} {steps : List Step}
    {done : Logged (List (Word bits))} (hRun : runFrom regs steps = .ok done) :
    done.log = List.zipWith Step.event steps done.outcome := by
  induction steps generalizing regs done with
  | nil =>
      rw [← Except.ok.inj hRun]
      rfl
  | cons step rest ih =>
      obtain ⟨result, after, later, -, -, hLater, rfl⟩ := runFrom_cons_eq_ok hRun
      rw [ih hLater, List.zipWith_cons_cons]

theorem log_of_run {steps : List Step} {n : Word bits} {done : Logged (List (Word bits))}
    (hRun : run steps n = .ok done) : done.log = List.zipWith Step.event steps done.outcome := by
  obtain ⟨regs, -, hRun⟩ := Except.bind_eq_ok_iff.mp hRun
  exact log_of_runFrom hRun

/-- A table of written registers and a register file agree when they have the
same size and the same slots are written in both. -/
structure Agree (table : RegisterFile Unit) (regs : RegisterFile (Word bits)) : Prop where
  size_eq : table.size = regs.size
  written_iff : ∀ slot, (table.contents slot).isSome = (regs.contents slot).isSome

/-- A write to the same slot of both keeps the table and the registers in agreement. -/
theorem Agree.write {table : RegisterFile Unit} {regs : RegisterFile (Word bits)}
    (hAgree : Agree table regs) {slot : Nat} (n : Word bits) (hSlot : slot < table.size) :
    ∃ table' regs', table.write slot () = .ok table' ∧ regs.write slot n = .ok regs' ∧
      Agree table' regs' := by
  obtain ⟨table', hTable, hTableSize, hTableContents⟩ := RegisterFile.write_of_lt () hSlot
  obtain ⟨regs', hRegs, hRegsSize, hRegsContents⟩ :=
    RegisterFile.write_of_lt n (hAgree.size_eq ▸ hSlot)
  refine ⟨table', regs', hTable, hRegs, by rw [hTableSize, hRegsSize, hAgree.size_eq], ?_⟩
  intro other
  rw [hTableContents, hRegsContents]
  by_cases hOther : other = slot
  · simp [hOther]
  · simpa [hOther] using hAgree.written_iff other

theorem Agree.contents_of_written {table : RegisterFile Unit} {regs : RegisterFile (Word bits)}
    (hAgree : Agree table regs) {slot : Nat} (hWritten : table.isWritten slot = .ok true) :
    ∃ x, regs.contents slot = some x := by
  have hTable : (table.contents slot).isSome := by
    unfold RegisterFile.isWritten at hWritten
    split at hWritten
    · exact absurd hWritten (by simp)
    · next cell hCell =>
        simp only [Except.ok.injEq] at hWritten
        simpa [RegisterFile.contents, hCell] using hWritten
  exact Option.isSome_iff_exists.mp (hAgree.written_iff slot ▸ hTable)

/-- When the scan finds every operand of a step written, each of them can be
read from a register file that agrees with the table. -/
theorem Agree.contents_of_firstUndefined {table : RegisterFile Unit}
    {regs : RegisterFile (Word bits)} (hAgree : Agree table regs) {xs : List Operand}
    (hScan : Check.firstUndefined table xs = .ok none) :
    ∀ x ∈ xs, ∃ n, regs.contents x.slot = some n := by
  induction xs with
  | nil => simp
  | cons x rest ih =>
      obtain ⟨written, hWritten, hRest⟩ := Except.bind_eq_ok_iff.mp hScan
      cases written with
      | false => exact absurd hRest (by simp [pure, Except.pure])
      | true =>
          intro y hy
          rcases List.mem_cons.mp hy with hHead | hTail
          · subst hHead
            exact hAgree.contents_of_written hWritten
          · exact ih hRest y hTail

/-- A step has a result as soon as its operands hold values and its shift fits the word. -/
theorem apply_faultless {regs : RegisterFile (Word bits)} {step : Step}
    (hReads : ∀ x ∈ step.reads, ∃ n, regs.contents x.slot = some n)
    (hWidth : ∀ dst src amount, step = .shl dst src amount → amount.toNat < bits) :
    ∃ result, step.apply regs = .ok result := by
  cases step with
  | shl dst src amount =>
      obtain ⟨x, hx⟩ := hReads src (by simp [Step.reads])
      exact ⟨_, by
        simp only [Step.apply, RegisterFile.read_of_contents hx, bind, Except.bind]
        exact x.shl_of_lt (hWidth dst src amount rfl)⟩
  | sub dst lhs rhs =>
      obtain ⟨x, hx⟩ := hReads lhs (by simp [Step.reads])
      obtain ⟨y, hy⟩ := hReads rhs (by simp [Step.reads])
      exact ⟨x.sub y, by
        simp only [Step.apply, RegisterFile.read_of_contents hx, RegisterFile.read_of_contents hy,
          bind, Except.bind, pure, Except.pure]⟩

theorem lt_of_widthFrom {width index : Nat} {step : Step} {rest : List Step}
    (hWidth : Check.widthFrom width index (step :: rest) = .ok ()) :
    (∀ dst src amount, step = .shl dst src amount → amount.toNat < width) ∧
      Check.widthFrom width (index + 1) rest = .ok () := by
  cases step with
  | shl dst src amount =>
      rw [Check.widthFrom] at hWidth
      split at hWidth
      · exact absurd hWidth (by simp)
      · next hAmount =>
          refine ⟨?_, hWidth⟩
          intro dst' src' amount' hStep
          injection hStep with _ _ hEq
          subst hEq
          omega
  | sub dst lhs rhs =>
      rw [Check.widthFrom] at hWidth
      exact ⟨by simp, hWidth⟩

/-- The scan and the run go through the steps side by side: as long as the table and the
registers agree, what the scan has passed the run can do. The results themselves play no
part in this. -/
theorem runFrom_faultless (table : RegisterFile Unit) (regs : RegisterFile (Word bits))
    (index : Nat) (steps : List Step) (hAgree : Agree table regs)
    (hScan : Check.scan table index steps = .ok none)
    (hWidth : Check.widthFrom bits index steps = .ok ()) :
    ∃ done, runFrom regs steps = .ok done := by
  induction steps generalizing table regs index with
  | nil => exact ⟨_, rfl⟩
  | cons step rest ih =>
      obtain ⟨hAmount, hWidth⟩ := lt_of_widthFrom hWidth
      obtain ⟨first, hFirst, hScan⟩ := Except.bind_eq_ok_iff.mp hScan
      cases first with
      | some operand => exact absurd hScan (by simp [pure, Except.pure])
      | none =>
          dsimp only at hScan
          split at hScan
          · exact absurd hScan (by simp [pure, Except.pure])
          · obtain ⟨after, hTable, hScan⟩ := Except.bind_eq_ok_iff.mp hScan
            obtain ⟨result, hResult⟩ :=
              apply_faultless (hAgree.contents_of_firstUndefined hFirst) hAmount
            obtain ⟨table', regs', hTable', hRegs, hAgree'⟩ :=
              hAgree.write result (RegisterFile.lt_size_of_write hTable)
            have hSame : after = table' := Except.ok.inj (hTable.symm.trans hTable')
            subst hSame
            obtain ⟨later, hLater⟩ := ih after regs' (index + 1) hAgree' hScan hWidth
            exact ⟨⟨result :: later.outcome, step.event result :: later.log⟩, by
              simp [runFrom, hResult, hRegs, hLater, bind, Except.bind, pure, Except.pure]⟩

/-- A checked list of steps runs without a fault: every access is in bounds,
every register is written before it is read, and no shift goes too far. -/
theorem run_faultless {steps : List Step} (hAccept : Check.accept steps = .ok ())
    (hWidth : Check.width bits steps = .ok ()) (n : Word bits) :
    ∃ done, run steps n = .ok done := by
  have hEmpty : Agree (RegisterFile.empty (slotCount steps))
      (RegisterFile.empty (slotCount steps) : RegisterFile (Word bits)) :=
    ⟨by simp, by simp⟩
  obtain ⟨table, regs, hTable, hRegs, hAgree⟩ := hEmpty.write n (Check.input_slot_lt Unit steps)
  have hScan : Check.scan table 0 steps = .ok none := by
    have hAll := Fault.eq_ok_valueOf (Check.scanAll_faultless steps)
    rw [← Check.dataflow, Check.dataflow_of_accept hAccept] at hAll
    simpa [Check.scanAll, hTable, bind, Except.bind] using hAll
  obtain ⟨done, hDone⟩ := runFrom_faultless table regs 0 steps hAgree hScan hWidth
  exact ⟨done, by simp [run, hRegs, hDone, bind, Except.bind]⟩

end Machine

end Multiplierless
