import Multiplierless.Decimal
import Multiplierless.Text

/-!
Straight-line steps. A step reads one or two operands and writes one. Operands
are the input and 256 temporaries; each of them has a register slot of its own.
-/

namespace Multiplierless

/-- A value that a step reads or writes. -/
inductive Operand
  | input
  | temp (index : UInt8)
  deriving DecidableEq

namespace Operand

/-- The input comes first, then the temporaries in order. -/
def slot : Operand → Nat
  | input => 0
  | temp index => index.toNat + 1

def text : Operand → String
  | input => "n"
  | temp index => "t" ++ Decimal.ofNat index.toNat

/-- Shows the operand as a constructor with its argument. -/
def inspect : Operand → String
  | input => "Input"
  | temp index => "Temp(" ++ Decimal.ofNat index.toNat ++ ")"

/-- No two operands share a register. -/
theorem slot_injective {x y : Operand} (hSlot : x.slot = y.slot) : x = y := by
  cases x with
  | input =>
      cases y with
      | input => rfl
      | temp index => simp [slot] at hSlot
  | temp first =>
      cases y with
      | input => simp [slot] at hSlot
      | temp second =>
          have hIndex : first = second := UInt8.toNat_inj.mp (by simpa [slot] using hSlot)
          rw [hIndex]

end Operand

/-- One operation of a sequence: a left shift by a constant amount or a
subtraction. -/
inductive Step
  | shl (dst src : Operand) (amount : UInt32)
  | sub (dst lhs rhs : Operand)
  deriving DecidableEq

namespace Step

def dst : Step → Operand
  | shl dst _ _ => dst
  | sub dst _ _ => dst

/-- The operands that are read, in the order of reading. -/
def reads : Step → List Operand
  | shl _ src _ => [src]
  | sub _ lhs rhs => [lhs, rhs]

/-- Everything a step touches. -/
def operands (step : Step) : List Operand :=
  step.reads ++ [step.dst]

def text : Step → String
  | shl dst src amount =>
      dst.text ++ " = " ++ src.text ++ " << " ++ Decimal.ofNat amount.toNat
  | sub dst lhs rhs =>
      dst.text ++ " = " ++ lhs.text ++ " - " ++ rhs.text

/-- Shows the step as a constructor with its fields. -/
def inspect : Step → String
  | shl dst src amount =>
      Text.record "Shl" [("dst", dst.inspect), ("src", src.inspect),
        ("amount", Decimal.ofNat amount.toNat)]
  | sub dst lhs rhs =>
      Text.record "Sub" [("dst", dst.inspect), ("lhs", lhs.inspect), ("rhs", rhs.inspect)]

@[simp] theorem operands_shl (dst src : Operand) (amount : UInt32) :
    (shl dst src amount).operands = [src, dst] := rfl

@[simp] theorem operands_sub (dst lhs rhs : Operand) :
    (sub dst lhs rhs).operands = [lhs, rhs, dst] := rfl

end Step

/-- The least size of a register file that has a slot for the input and for all
the given operands. -/
def slotsFor : List Operand → Nat
  | [] => 1
  | x :: rest => max (x.slot + 1) (slotsFor rest)

/-- The size of the register file that a list of steps runs on. -/
def slotCount (steps : List Step) : Nat :=
  slotsFor (steps.flatMap Step.operands)

theorem slotsFor_pos (xs : List Operand) : 0 < slotsFor xs := by
  induction xs with
  | nil => decide
  | cons x rest ih => exact Nat.lt_of_lt_of_le ih (Nat.le_max_right _ _)

theorem slotCount_pos (steps : List Step) : 0 < slotCount steps :=
  slotsFor_pos _

theorem slot_lt_slotsFor {x : Operand} {xs : List Operand} (hMem : x ∈ xs) :
    x.slot < slotsFor xs := by
  induction xs with
  | nil => exact absurd hMem (by simp)
  | cons y rest ih =>
      rcases List.mem_cons.mp hMem with hHead | hRest
      · subst hHead
        exact Nat.le_max_left _ _
      · exact Nat.lt_of_lt_of_le (ih hRest) (Nat.le_max_right _ _)

/-- A register file for the steps has room for everything that they touch. -/
theorem slot_lt_slotCount {steps : List Step} {step : Step} {x : Operand}
    (hStep : step ∈ steps) (hMem : x ∈ step.operands) : x.slot < slotCount steps :=
  slot_lt_slotsFor (List.mem_flatMap.mpr ⟨step, hStep, hMem⟩)

end Multiplierless
