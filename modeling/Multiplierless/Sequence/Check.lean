import Multiplierless.RegisterFile
import Multiplierless.Step

/-!
The checks on a list of steps. The dataflow scan keeps a table of the registers
written so far and reports the first step that reads an operand too early or
writes to the input. The width check reports the first shift that a word of the
given width cannot do. A list is accepted when it is not empty, has no dataflow
error and fits the widest word; dataflow errors are reported before shifts.
-/

namespace Multiplierless

/-- What can be wrong with a list of steps. Steps are numbered from zero. -/
inductive SequenceError
  | empty
  | undefinedOperand (step : Nat) (operand : Operand)
  | inputOverwritten (step : Nat)
  | shiftOutOfRange (step : Nat) (amount : UInt32) (bits : Nat)
  | factorMismatch (expected found : Int)
  deriving DecidableEq

namespace SequenceError

def message : SequenceError → String
  | empty => "sequence has no steps"
  | undefinedOperand step operand =>
      "step " ++ Decimal.ofNat step ++ " reads " ++ operand.text ++ " before it is written"
  | inputOverwritten step =>
      "step " ++ Decimal.ofNat step ++ " writes to the input operand"
  | shiftOutOfRange step amount bits =>
      "step " ++ Decimal.ofNat step ++ " shifts by " ++ Decimal.ofNat amount.toNat ++
        ", but the word is only " ++ Decimal.ofNat bits ++ " bits wide"
  | factorMismatch expected found =>
      "sequence computes n * " ++ Decimal.ofInt found ++ ", expected n * " ++
        Decimal.ofInt expected

end SequenceError

namespace Check

/-- The width of the widest word a sequence may run on. -/
def widestBits : Nat :=
  128

/-- The first operand whose register has not been written. -/
def firstUndefined (table : RegisterFile Unit) : List Operand → Except Fault (Option Operand)
  | [] => .ok none
  | x :: rest => do
      if ← table.isWritten x.slot then
        firstUndefined table rest
      else
        pure (some x)

/-- Goes through the steps in order with the table of written registers and
stops at the first dataflow error. -/
def scan (table : RegisterFile Unit) (index : Nat) :
    List Step → Except Fault (Option SequenceError)
  | [] => .ok none
  | step :: rest => do
      match ← firstUndefined table step.reads with
      | some operand => pure (some (.undefinedOperand index operand))
      | none =>
          if step.dst = .input then
            pure (some (.inputOverwritten index))
          else
            let table ← table.write step.dst.slot ()
            scan table (index + 1) rest

/-- Scans all steps from a table in which only the input is written. -/
def scanAll (steps : List Step) : Except Fault (Option SequenceError) := do
  let table ← (RegisterFile.empty (slotCount steps)).write Operand.input.slot ()
  scan table 0 steps

/-- The first shift, counted from `index`, whose amount is not below `bits`. -/
def widthFrom (bits index : Nat) : List Step → Except SequenceError Unit
  | [] => .ok ()
  | .shl _ _ amount :: rest =>
      if bits ≤ amount.toNat then
        .error (.shiftOutOfRange index amount bits)
      else
        widthFrom bits (index + 1) rest
  | .sub _ _ _ :: rest => widthFrom bits (index + 1) rest

def width (bits : Nat) (steps : List Step) : Except SequenceError Unit :=
  widthFrom bits 0 steps

theorem firstUndefined_faultless (table : RegisterFile Unit) (xs : List Operand)
    (hSlots : ∀ x ∈ xs, x.slot < table.size) : ∃ first, firstUndefined table xs = .ok first := by
  induction xs with
  | nil => exact ⟨none, rfl⟩
  | cons x rest ih =>
      rw [firstUndefined, RegisterFile.isWritten_of_lt (hSlots x (by simp))]
      cases (table.contents x.slot).isSome with
      | false => exact ⟨some x, rfl⟩
      | true => exact ih fun y hy => hSlots y (List.mem_cons_of_mem x hy)

/-- The scan goes through as long as the table has room for every operand of the steps,
whether or not it finds something wrong with them. -/
theorem scan_faultless (table : RegisterFile Unit) (index : Nat) (steps : List Step)
    (hSlots : ∀ step ∈ steps, ∀ x ∈ step.operands, x.slot < table.size) :
    ∃ found, scan table index steps = .ok found := by
  induction steps generalizing table index with
  | nil => exact ⟨none, rfl⟩
  | cons step rest ih =>
      have hStep := hSlots step (by simp)
      obtain ⟨first, hFirst⟩ := firstUndefined_faultless table step.reads
        fun x hx => hStep x (List.mem_append_left _ hx)
      rw [scan, hFirst]
      cases first with
      | some operand => exact ⟨_, rfl⟩
      | none =>
          by_cases hInput : step.dst = .input
          · exact ⟨_, if_pos hInput⟩
          · obtain ⟨after, hWrite, hSize, -⟩ := RegisterFile.write_of_lt ()
              (hStep step.dst (List.mem_append_right _ (by simp)))
            obtain ⟨found, hFound⟩ := ih after (index + 1)
              fun other hOther x hx => by
                rw [hSize]
                exact hSlots other (List.mem_cons_of_mem step hOther) x hx
            exact ⟨found, by simp [bind, Except.bind, hInput, hWrite, hFound]⟩

/-- A register file for any steps has room for the input. -/
theorem input_slot_lt (α : Type) (steps : List Step) :
    Operand.input.slot < (RegisterFile.empty (slotCount steps) : RegisterFile α).size := by
  rw [RegisterFile.size_empty]
  exact slotCount_pos steps

/-- The table is large enough for whatever the steps touch, well formed or not. -/
theorem scanAll_faultless (steps : List Step) : ∃ found, scanAll steps = .ok found := by
  obtain ⟨table, hWrite, hSize, -⟩ := RegisterFile.write_of_lt () (input_slot_lt Unit steps)
  obtain ⟨found, hFound⟩ := scan_faultless table 0 steps
    fun step hStep x hx => by
      rw [hSize, RegisterFile.size_empty]
      exact slot_lt_slotCount hStep hx
  exact ⟨found, by simp [scanAll, hWrite, bind, Except.bind, hFound]⟩

/-- The first dataflow error of a list of steps, if it has one. -/
def dataflow (steps : List Step) : Option SequenceError :=
  Fault.valueOf (scanAll steps) (scanAll_faultless steps)

/-- Accepts a list of steps or names the first thing that is wrong with it. -/
def accept (steps : List Step) : Except SequenceError Unit :=
  if steps.isEmpty then
    .error .empty
  else
    match dataflow steps with
    | some e => .error e
    | none => width widestBits steps

theorem dataflow_of_accept {steps : List Step} (hAccept : accept steps = .ok ()) :
    dataflow steps = none := by
  unfold accept at hAccept
  split at hAccept
  · exact absurd hAccept (by simp)
  · split at hAccept
    · exact absurd hAccept (by simp)
    · assumption

theorem width_of_accept {steps : List Step} (hAccept : accept steps = .ok ()) :
    width widestBits steps = .ok () := by
  unfold accept at hAccept
  split at hAccept
  · exact absurd hAccept (by simp)
  · split at hAccept
    · exact absurd hAccept (by simp)
    · exact hAccept

end Check

end Multiplierless
