import Mathlib.Logic.Function.Basic
import Multiplierless.Proofs.WordArithmetic
import Multiplierless.Sequence.Basic

/-!
The exact run of a list of steps. Every operand stands for an integer multiple of the
input, and a step computes with these multiples over the integers, where nothing
wraps. Main statement: at every width and on every input, each step of the machine
writes the wrapped product of its exact multiple and the input.
-/

namespace Multiplierless

/-- The multiple of the input that a step computes from the multiples that the
operands hold. -/
def Step.multiple (held : Operand → Int) : Step → Int
  | .shl _ src amount => held src * 2 ^ amount.toNat
  | .sub _ lhs rhs => held lhs - held rhs

/-- The multiples held after a step. Only the destination changes. -/
def Step.update (held : Operand → Int) (step : Step) : Operand → Int :=
  Function.update held step.dst (step.multiple held)

namespace Exact

/-- Before the first step the input holds itself once. What the temporaries hold
is never read. -/
def initial : Operand → Int
  | .input => 1
  | .temp _ => 0

/-- The multiples that the steps write, in order. -/
def multiplesFrom (held : Operand → Int) : List Step → List Int
  | [] => []
  | step :: rest => step.multiple held :: multiplesFrom (step.update held) rest

/-- The multiples held after all steps. -/
def heldAfter (held : Operand → Int) (steps : List Step) : Operand → Int :=
  steps.foldl Step.update held

@[simp] theorem length_multiplesFrom (held : Operand → Int) (steps : List Step) :
    (multiplesFrom held steps).length = steps.length := by
  induction steps generalizing held with
  | nil => rfl
  | cons step rest ih => simp [multiplesFrom, ih]

/-- The last multiple written is the one that the last destination holds at the
end. -/
theorem getLast?_multiplesFrom (held : Operand → Int) (steps : List Step) (hSteps : steps ≠ []) :
    (multiplesFrom held steps).getLast? =
      some (heldAfter held steps (steps.getLast hSteps).dst) := by
  induction steps generalizing held with
  | nil => exact absurd rfl hSteps
  | cons step rest ih =>
      cases rest with
      | nil => simp [multiplesFrom, heldAfter, Step.update]
      | cons next rest =>
          have hNext := ih (step.update held) (by simp)
          rw [List.getLast_cons (by simp)]
          simpa [multiplesFrom, heldAfter] using hNext

end Exact

namespace Machine

variable {bits : Nat} {held : Operand → Int} {n : Int}

/-- Whatever a register holds is the wrapped product of its operand's multiple and
the input. Registers that have not been written are not constrained. -/
def Scaled (held : Operand → Int) (n : Int) (regs : RegisterFile (Word bits)) : Prop :=
  ∀ x w, regs.contents x.slot = some w → w = Word.wrap (held x * n)

theorem Scaled.read {regs : RegisterFile (Word bits)} (hScaled : Scaled held n regs)
    {x : Operand} {w : Word bits} (hRead : regs.read x.slot = .ok w) :
    w = Word.wrap (held x * n) :=
  hScaled x w (RegisterFile.contents_of_read hRead)

/-- A step on scaled registers computes its exact multiple of the input. -/
theorem Scaled.apply {regs : RegisterFile (Word bits)} (hScaled : Scaled held n regs)
    {step : Step} {result : Word bits} (hApply : step.apply regs = .ok result) :
    result = Word.wrap (step.multiple held * n) := by
  cases step with
  | shl dst src amount =>
      obtain ⟨x, hRead, hShift⟩ := Except.bind_eq_ok_iff.mp hApply
      have hAmount : amount.toNat < bits := Word.lt_of_shl hShift
      rw [Word.shl_of_lt x hAmount, hScaled.read hRead, Word.shiftBy_wrap] at hShift
      rw [← Except.ok.inj hShift, Step.multiple, Int.mul_right_comm]
  | sub dst lhs rhs =>
      obtain ⟨x, hLeft, hRest⟩ := Except.bind_eq_ok_iff.mp hApply
      obtain ⟨y, hRight, hResult⟩ := Except.bind_eq_ok_iff.mp hRest
      rw [← Except.ok.inj hResult, hScaled.read hLeft, hScaled.read hRight, Word.sub_wrap,
        Step.multiple, Int.sub_mul]

/-- The other registers keep their multiples when one is written. -/
theorem Scaled.write {regs after : RegisterFile (Word bits)} (hScaled : Scaled held n regs)
    {x : Operand} {v : Int} (hWrite : regs.write x.slot (Word.wrap (v * n)) = .ok after) :
    Scaled (Function.update held x v) n after := by
  obtain ⟨-, hContents⟩ := RegisterFile.contents_of_write hWrite
  intro y w hw
  rw [hContents] at hw
  by_cases hOther : y = x
  · subst hOther
    simpa [eq_comm] using hw
  · rw [if_neg fun hSlot => hOther (Operand.slot_injective hSlot)] at hw
    rw [Function.update_of_ne hOther]
    exact hScaled y w hw

/-- A run that starts from scaled registers writes scaled results throughout. -/
theorem runFrom_scaled {regs : RegisterFile (Word bits)} (hScaled : Scaled held n regs)
    {steps : List Step} {done : Logged (List (Word bits))}
    (hRun : runFrom regs steps = .ok done) :
    done.outcome = (Exact.multiplesFrom held steps).map fun v => Word.wrap (v * n) := by
  induction steps generalizing held regs done with
  | nil =>
      rw [← Except.ok.inj hRun]
      rfl
  | cons step rest ih =>
      obtain ⟨result, after, later, hApply, hWrite, hLater, rfl⟩ := runFrom_cons_eq_ok hRun
      have hResult := hScaled.apply hApply
      rw [hResult] at hWrite
      dsimp only
      rw [hResult, ih (hScaled.write hWrite) hLater]
      rfl

/-- The machine loses nothing but the wrapping: each step of a run on `n` writes the
product of `n` and the multiple that the step has in the exact run, wrapped once. -/
theorem run_scaled {steps : List Step} {n : Word bits} {done : Logged (List (Word bits))}
    (hRun : run steps n = .ok done) :
    done.outcome =
      (Exact.multiplesFrom Exact.initial steps).map fun v => Word.wrap (v * n.value) := by
  obtain ⟨regs, hWrite, hRun⟩ := Except.bind_eq_ok_iff.mp hRun
  have hEmpty : Scaled Exact.initial n.value
      (RegisterFile.empty (slotCount steps) : RegisterFile (Word bits)) := by
    intro x w hw
    exact absurd hw (by simp)
  have hInput : n = Word.wrap (1 * n.value) := by simp
  rw [hInput] at hWrite
  have hScaled := hEmpty.write hWrite
  have hInitial : Function.update Exact.initial .input 1 = Exact.initial :=
    Function.update_eq_self Operand.input Exact.initial
  rw [hInitial] at hScaled
  exact runFrom_scaled hScaled hRun

end Machine

namespace Sequence

variable {bits : Nat}

/-- The exact multiple of the input that each step writes. -/
def multiples (s : Sequence) : List Int :=
  Exact.multiplesFrom Exact.initial s.steps

/-- The exact multiple of the input that the whole sequence computes. -/
def multiple (s : Sequence) : Int :=
  Exact.heldAfter Exact.initial s.steps s.output

theorem length_multiples (s : Sequence) : s.multiples.length = s.length :=
  Exact.length_multiplesFrom Exact.initial s.steps

/-- The multiple of the whole sequence is the last one that its steps write. -/
theorem getLast?_multiples (s : Sequence) : s.multiples.getLast? = some s.multiple :=
  Exact.getLast?_multiplesFrom Exact.initial s.steps s.steps_ne_nil

/-- The results of a sequence in exact terms. Everything about evaluation goes through
this equation; the registers are not looked at again. -/
theorem results_eq (s : Sequence) (n : Word bits) (hWidth : s.checkWidth bits = .ok ()) :
    s.results n hWidth = s.multiples.map fun v => Word.wrap (v * n.value) :=
  Machine.run_scaled (s.run_eq n hWidth)

/-- Each factor is the exact multiple of its step, as far as 128 bits can tell. -/
theorem factors_eq (s : Sequence) : s.factors = s.multiples.map Word.wrap := by
  have hOne : (Word.wrap 1 : Word Check.widestBits).value = 1 := by decide
  calc
    s.factors = s.multiples.map fun v => Word.wrap (v * (Word.wrap 1 : Word Check.widestBits).value) :=
      s.results_eq (Word.wrap 1) (Check.width_of_accept s.accepted)
    _ = s.multiples.map Word.wrap := by simp only [hOne, Int.mul_one]

/-- The constant is the exact multiple of the whole sequence, with the same reservation:
two multiples that differ by `2^128` have one constant. -/
theorem constant_eq (s : Sequence) : s.constant = Word.wrap s.multiple := by
  simp [constant, factors_eq, getLast?_multiples]

/-- The last result of the run on one is the constant. -/
theorem getLast?_factors (s : Sequence) : s.factors.getLast? = some s.constant := by
  rw [factors_eq, List.getLast?_map, getLast?_multiples, constant_eq]
  rfl

end Sequence

end Multiplierless
