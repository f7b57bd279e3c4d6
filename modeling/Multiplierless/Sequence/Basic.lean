import Multiplierless.Product
import Multiplierless.Sequence.Machine

/-!
Sequences of steps that passed their checks. A sequence is run at a width, and
the factor it multiplies by is found by running it on one at the widest word.
Factors are therefore words of 128 bits and wrap around like all words.
-/

namespace Multiplierless

/-- A list of steps that has been accepted. The value of the last step is the
result. -/
structure Sequence where
  steps : List Step
  accepted : Check.accept steps = .ok ()
  deriving DecidableEq

namespace Sequence

def ofSteps (steps : List Step) : Except SequenceError Sequence :=
  match hAccept : Check.accept steps with
  | .ok () => .ok ⟨steps, hAccept⟩
  | .error e => .error e

/-- The seven steps of the decomposition of -82. -/
def neg82Steps : List Step :=
  [.shl (.temp 1) .input 3,
   .sub (.temp 2) (.temp 1) .input,
   .shl (.temp 3) (.temp 2) 2,
   .sub (.temp 4) (.temp 3) (.temp 2),
   .shl (.temp 5) (.temp 4) 1,
   .sub (.temp 6) .input (.temp 5),
   .shl (.temp 7) (.temp 6) 1]

def neg82 : Sequence :=
  ⟨neg82Steps, rfl⟩

instance : Inhabited Sequence :=
  ⟨neg82⟩

def length (s : Sequence) : Nat :=
  s.steps.length

def isEmpty (s : Sequence) : Bool :=
  s.steps.isEmpty

/-- One line for each step. -/
def text (s : Sequence) : String :=
  Text.unlines (s.steps.map Step.text)

/-- Shows the sequence as a value with its fields. -/
def inspect (s : Sequence) : String :=
  Text.record "Sequence" [("steps", Text.bracketed (s.steps.map Step.inspect))]

theorem steps_ne_nil (s : Sequence) : s.steps ≠ [] := by
  intro hNil
  have hAccepted := s.accepted
  rw [hNil] at hAccepted
  exact absurd hAccepted (by simp [Check.accept])

/-- The operand that holds the result. -/
def output (s : Sequence) : Operand :=
  (s.steps.getLast s.steps_ne_nil).dst

/-- Appends the operands that are not listed yet, in order. -/
def distinctFrom (seen : List Operand) : List Operand → List Operand
  | [] => seen
  | x :: rest =>
      if x ∈ seen then distinctFrom seen rest else distinctFrom (seen ++ [x]) rest

/-- The operands that are written, each of them once, in the order of their
first write. -/
def temporaries (s : Sequence) : List Operand :=
  distinctFrom [] (s.steps.map Step.dst)

/-- Checks that every shift can be done on a word of the given width. -/
def checkWidth (s : Sequence) (bits : Nat) : Except SequenceError Unit :=
  Check.width bits s.steps

/-- The run of the sequence on `n`: the value that each step writes, and the log. -/
def run {bits : Nat} (s : Sequence) (n : Word bits) (hWidth : s.checkWidth bits = .ok ()) :
    Logged (List (Word bits)) :=
  Fault.valueOf (Machine.run s.steps n) (Machine.run_faultless s.accepted hWidth n)

/-- The run of the machine is the run of the sequence. -/
theorem run_eq {bits : Nat} (s : Sequence) (n : Word bits) (hWidth : s.checkWidth bits = .ok ()) :
    Machine.run s.steps n = .ok (s.run n hWidth) :=
  Fault.eq_ok_valueOf (Machine.run_faultless s.accepted hWidth n)

/-- The value that each step writes. -/
def results {bits : Nat} (s : Sequence) (n : Word bits) (hWidth : s.checkWidth bits = .ok ()) :
    List (Word bits) :=
  (s.run n hWidth).outcome

/-- The multiple of the input that each step writes. The log of this run is not kept. -/
def factors (s : Sequence) : List (Word Check.widestBits) :=
  s.results (Word.wrap 1) (Check.width_of_accept s.accepted)

/-- The factor that the whole sequence multiplies by. -/
def constant (s : Sequence) : Word Check.widestBits :=
  s.factors.getLast?.getD (Word.wrap 1)

/-- Checks the shifts against the width, then the factor. -/
def validate (s : Sequence) (bits : Nat) (expected : Word 64) : Except SequenceError Unit := do
  s.checkWidth bits
  if s.constant = expected.resize then
    pure ()
  else
    throw (.factorMismatch expected.value s.constant.value)

def evalSpan (bits : Nat) : LogRecord :=
  .span "eval sequence" .debug [("bits", Decimal.ofNat bits)]

/-- Runs the sequence on a word. The log is that of the run, after a span. A sequence
that does not fit the width is not started. -/
def evalLogged {bits : Nat} (s : Sequence) (n : Word bits) :
    Logged (Except SequenceError (Word bits)) :=
  match hWidth : s.checkWidth bits with
  | .error e => ⟨.error e, [evalSpan bits]⟩
  | .ok () =>
      let done := s.run n hWidth
      ⟨.ok (done.outcome.getLast?.getD n), evalSpan bits :: done.log⟩

def eval {bits : Nat} (s : Sequence) (n : Word bits) : Except SequenceError (Word bits) :=
  (s.evalLogged n).outcome

end Sequence

end Multiplierless
