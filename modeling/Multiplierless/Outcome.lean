import Multiplierless.Decimal

/-!
How a computation ends and what it reports on the way. A fault is a computation that
stops without an answer. Faults are kept apart from the errors that a caller is told
about: an error describes bad input, a fault says that an operation was used outside
its domain. The log is part of the value: a logged computation gives its outcome
together with the records in the order in which they were made.
-/

/-- A computation in two parts has an answer when both parts have one, whatever it is
that can stop them. -/
theorem Except.bind_eq_ok_iff {ε α β : Type} {first : Except ε α} {next : α → Except ε β} {b : β} :
    first.bind next = .ok b ↔ ∃ a, first = .ok a ∧ next a = .ok b := by
  cases first <;> simp [Except.bind]

namespace Multiplierless

/-- Why an operation has no answer. The two register faults belong to the
machine that runs step sequences. -/
inductive Fault
  | shiftTooFar (amount : UInt32)
  | sumOverflow
  | noRegister (slot size : Nat)
  | unwritten (slot : Nat)
  deriving DecidableEq

namespace Fault

def message : Fault → String
  | shiftTooFar amount => "shift amount " ++ Decimal.ofNat amount.toNat ++ " out of range"
  | sumOverflow => "attempt to add with overflow"
  | noRegister slot size =>
      "register " ++ Decimal.ofNat slot ++ " is outside a file of " ++ Decimal.ofNat size
  | unwritten slot => "register " ++ Decimal.ofNat slot ++ " is read before it is written"

/-- The value of a computation that is known not to fault. The computation
itself is what runs, the hypothesis only rules out the other outcome. -/
def valueOf {α : Type} (run : Except Fault α) (hRun : ∃ a, run = .ok a) : α :=
  match run, hRun with
  | .ok a, _ => a
  | .error _, hRun => absurd hRun (by simp)

theorem valueOf_ok {α : Type} {run : Except Fault α} {a : α} (hOk : run = .ok a)
    (hRun : ∃ a, run = .ok a) : valueOf run hRun = a := by
  subst hOk
  rfl

/-- The value taken out is the one that the computation gave. Facts about the computation
carry over to the value by this equation alone. -/
theorem eq_ok_valueOf {α : Type} {run : Except Fault α} (hRun : ∃ a, run = .ok a) :
    run = .ok (valueOf run hRun) := by
  obtain ⟨a, hOk⟩ := hRun
  rw [valueOf_ok hOk, hOk]

end Fault

inductive Level
  | debug
  | trace
  deriving DecidableEq

def Level.name : Level → String
  | .debug => "DEBUG"
  | .trace => "TRACE"

/-- A span marks the beginning of an activity and has a name, an event stands for
itself. Fields are named texts. -/
inductive LogRecord
  | span (name : String) (level : Level) (fields : List (String × String))
  | event (level : Level) (fields : List (String × String))
  deriving DecidableEq

structure Logged (α : Type) where
  outcome : α
  log : List LogRecord

end Multiplierless
