import Multiplierless.Proofs.Dataflow
import Multiplierless.Proofs.ExactMultiples
import Multiplierless.Proofs.WidthCheck

/-!
Routines over named variables: a parameter, assignments in order, the name of the
result, and assertions about calls. A call starts with nothing bound but the
parameter, and reading an unbound name ends it without an answer. The numbers are a
parameter: words that wrap, or integers. Main statement: steps written as assignments
under names that do not clash compute the exact multiples of the steps.
-/

namespace Multiplierless.Source

inductive Expression
  | shl (x : String) (amount : Nat)
  | sub (x y : String)

structure Assignment where
  target : String
  value : Expression

/-- The routine is said to give `expected` when it is called on `input`. -/
structure Assertion where
  input : Int
  expected : Int

/-- The declared names matter only where assignments need a declaration. -/
structure Routine where
  parameter : String
  declared : List String
  body : List Assignment
  result : String
  assertions : List Assertion

/-- The numbers that a language computes with. A literal may be too large and a shift
may go too far, a subtraction always has an answer. -/
structure Arithmetic (α : Type) where
  literal : Int → Option α
  shl : α → Nat → Option α
  sub : α → α → α

namespace Arithmetic

def words (bits : Nat) : Arithmetic (Word bits) where
  literal := Word.ofInt?
  shl x amount := if hAmount : amount < bits then some (x.shiftBy amount hAmount) else none
  sub := Word.sub

/-- Integers without bounds. -/
def integers : Arithmetic Int where
  literal := some
  shl x amount := some (x <<< amount)
  sub x y := x - y

/-- The numbers `f v` behave as the integers `v` do, as far as shifts below `bound`
and subtractions show. -/
structure Carries {α : Type} (ops : Arithmetic α) (bound : Nat) (f : Int → α) : Prop where
  shl : ∀ v amount, amount < bound → ops.shl (f v) amount = some (f (v * 2 ^ amount))
  sub : ∀ v w, ops.sub (f v) (f w) = f (v - w)

theorem carries_words {bits : Nat} (n : Int) :
    Carries (words bits) bits fun v => Word.wrap (v * n) where
  shl v amount hAmount := by
    simp only [words, dif_pos hAmount, Word.shiftBy_wrap, Int.mul_right_comm]
  sub v w := by
    simp only [words, Word.sub_wrap, Int.sub_mul]

theorem carries_integers (bound : Nat) (n : Int) : Carries integers bound fun v => v * n where
  shl v amount _ := by
    simp only [integers, Int.shiftLeft_eq, Int.mul_right_comm]
  sub v w := by
    simp only [integers, Int.sub_mul]

end Arithmetic

section Execution

variable {α : Type} (ops : Arithmetic α)

def Expression.eval (env : String → Option α) : Expression → Option α
  | .shl x amount => do
      let a ← env x
      ops.shl a amount
  | .sub x y => do
      let a ← env x
      let b ← env y
      pure (ops.sub a b)

/-- Assigns in order. A name may be assigned again, its last value counts. -/
def run (env : String → Option α) : List Assignment → Option (String → Option α)
  | [] => some env
  | a :: rest => do
      let v ← a.value.eval ops env
      run (Function.update env a.target (some v)) rest

/-- The value of the result when nothing but the parameter is bound at first. -/
def Routine.call (r : Routine) (n : α) : Option α := do
  let env ← run ops (Function.update (fun _ => none) r.parameter (some n)) r.body
  env r.result

/-- The values that the assignments write, in order. -/
def written (env : String → Option α) : List Assignment → Option (List α)
  | [] => some []
  | a :: rest => do
      let v ← a.value.eval ops env
      let later ← written (Function.update env a.target (some v)) rest
      pure (v :: later)

/-- The values that a call passes through, one for each assignment. -/
def Routine.values (r : Routine) (n : α) : Option (List α) :=
  written ops (Function.update (fun _ => none) r.parameter (some n)) r.body

/-- Both numbers of the assertion can be written down, and the call gives the second
for the first. -/
def Assertion.Holds (r : Routine) (a : Assertion) : Prop :=
  ∃ n v, ops.literal a.input = some n ∧ ops.literal a.expected = some v ∧ r.call ops n = some v

end Execution

section Steps

variable (name : Operand → String)

def Expression.ofStep : Step → Expression
  | .shl _ src amount => .shl (name src) amount.toNat
  | .sub _ lhs rhs => .sub (name lhs) (name rhs)

def Assignment.ofStep (step : Step) : Assignment :=
  ⟨name step.dst, .ofStep name step⟩

/-- The routine of a list of steps with the given declarations and assertions. -/
def Routine.ofSequence (s : Sequence) (declared : List String) (assertions : List Assertion) :
    Routine where
  parameter := name .input
  declared := declared
  body := s.steps.map (.ofStep name)
  result := name s.output
  assertions := assertions

end Steps

variable {α : Type} {ops : Arithmetic α} {bound : Nat} {f : Int → α} {name : Operand → String}
  {held : Operand → Int} {known : List Operand} {env : String → Option α}

theorem eval_ofStep (hCarries : ops.Carries bound f) {step : Step}
    (hEnv : ∀ x ∈ step.reads, env (name x) = some (f (held x)))
    (hFits : ∀ amount, step.amount? = some amount → amount.toNat < bound) :
    (Expression.ofStep name step).eval ops env = some (f (step.multiple held)) := by
  cases step with
  | shl dst src amount =>
      have hSrc := hEnv src (by simp [Step.reads])
      have hShift := hCarries.shl (held src) amount.toNat (hFits amount rfl)
      simpa [Expression.ofStep, Expression.eval, hSrc, Step.multiple] using hShift
  | sub dst lhs rhs =>
      have hLeft := hEnv lhs (by simp [Step.reads])
      have hRight := hEnv rhs (by simp [Step.reads])
      simp [Expression.ofStep, Expression.eval, hLeft, hRight, hCarries.sub, Step.multiple]

/-- An assignment gives the destination a new value under its own name and changes no
other name. -/
theorem env_update_ofStep {step : Step} (hNames : ∀ x, name x = name step.dst → x = step.dst)
    (hEnv : ∀ x ∈ known, env (name x) = some (f (held x))) :
    ∀ x ∈ step.dst :: known,
      Function.update env (name step.dst) (some (f (step.multiple held))) (name x) =
        some (f (step.update held x)) := by
  intro x hx
  by_cases hDst : x = step.dst
  · simp [hDst, Step.update]
  · have hKnown : x ∈ known := (List.mem_cons.mp hx).resolve_left hDst
    have hName : name x ≠ name step.dst := fun hSame => hDst (hNames x hSame)
    rw [Function.update_of_ne hName, Step.update, Function.update_of_ne hDst, hEnv x hKnown]

/-- Every operand that had a value or is written ends with its exact multiple. -/
theorem run_ofSteps (hCarries : ops.Carries bound f) {steps : List Step}
    (hDefined : Check.Defined known steps) (hFits : Check.Fits bound steps)
    (hNames : ∀ step ∈ steps, ∀ x, name x = name step.dst → x = step.dst)
    (hEnv : ∀ x ∈ known, env (name x) = some (f (held x))) :
    ∃ after, run ops env (steps.map (.ofStep name)) = some after ∧
      ∀ x, x ∈ known ∨ x ∈ steps.map Step.dst →
        after (name x) = some (f (Exact.heldAfter held steps x)) := by
  induction steps generalizing known held env with
  | nil => exact ⟨env, rfl, by simpa [Exact.heldAfter] using hEnv⟩
  | cons step rest ih =>
      obtain ⟨hReads, -, hRest⟩ := hDefined
      obtain ⟨hStep, hFits⟩ := Check.fits_cons.mp hFits
      obtain ⟨hHead, hNames⟩ := List.forall_mem_cons.mp hNames
      have hValue := eval_ofStep hCarries (fun x hx => hEnv x (hReads x hx)) hStep
      obtain ⟨after, hRun, hHeld⟩ := ih hRest hFits hNames (env_update_ofStep hHead hEnv)
      refine ⟨after, ?_, ?_⟩
      · simpa [run, Assignment.ofStep, hValue] using hRun
      · rintro x (hKnown | hWritten)
        · exact hHeld x (.inl (List.mem_cons_of_mem step.dst hKnown))
        · rcases List.mem_cons.mp hWritten with hDst | hLater
          · exact hHeld x (.inl (by simp [hDst]))
          · exact hHeld x (.inr hLater)

/-- Every assignment writes the exact multiple of its step. -/
theorem written_ofSteps (hCarries : ops.Carries bound f) {steps : List Step}
    (hDefined : Check.Defined known steps) (hFits : Check.Fits bound steps)
    (hNames : ∀ step ∈ steps, ∀ x, name x = name step.dst → x = step.dst)
    (hEnv : ∀ x ∈ known, env (name x) = some (f (held x))) :
    written ops env (steps.map (.ofStep name)) = some ((Exact.multiplesFrom held steps).map f) := by
  induction steps generalizing known held env with
  | nil => rfl
  | cons step rest ih =>
      obtain ⟨hReads, -, hRest⟩ := hDefined
      obtain ⟨hStep, hFits⟩ := Check.fits_cons.mp hFits
      obtain ⟨hHead, hNames⟩ := List.forall_mem_cons.mp hNames
      have hValue := eval_ofStep hCarries (fun x hx => hEnv x (hReads x hx)) hStep
      have hLater := ih hRest hFits hNames (env_update_ofStep hHead hEnv)
      simp [written, Assignment.ofStep, hValue, hLater, Exact.multiplesFrom]

/-- A call starts with the input bound to itself and nothing else. -/
theorem env_initial (f : Int → α) (name : Operand → String) :
    ∀ x ∈ [Operand.input],
      Function.update (fun _ => none) (name .input) (some (f 1)) (name x) =
        some (f (Exact.initial x)) := by
  intro x hx
  rw [List.mem_singleton.mp hx, Function.update_self, Exact.initial]

/-- A call of the routine of a sequence gives the exact multiple of the sequence, as
far as the numbers can show it. -/
theorem call_ofSequence {s : Sequence} (hCarries : ops.Carries bound f)
    (hFits : Check.Fits bound s.steps)
    (hNames : ∀ step ∈ s.steps, ∀ x, name x = name step.dst → x = step.dst)
    (declared : List String) (assertions : List Assertion) :
    (Routine.ofSequence name s declared assertions).call ops (f 1) = some (f s.multiple) := by
  obtain ⟨after, hRun, hHeld⟩ :=
    run_ofSteps hCarries s.defined hFits hNames (env_initial f name)
  rw [Routine.call, Routine.ofSequence]
  simp only [hRun]
  exact hHeld s.output (.inr s.output_mem_dst)

/-- On the way the call passes through the exact multiples of the steps. -/
theorem values_ofSequence {s : Sequence} (hCarries : ops.Carries bound f)
    (hFits : Check.Fits bound s.steps)
    (hNames : ∀ step ∈ s.steps, ∀ x, name x = name step.dst → x = step.dst)
    (declared : List String) (assertions : List Assertion) :
    (Routine.ofSequence name s declared assertions).values ops (f 1) =
      some (s.multiples.map f) :=
  written_ofSteps hCarries s.defined hFits hNames (env_initial f name)

end Multiplierless.Source
