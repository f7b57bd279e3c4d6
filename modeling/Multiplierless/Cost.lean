import Multiplierless.Sequence.Basic

/-!
A cost model weighs the operations of a machine in cycles. Costs are 32-bit
numbers; a sum that does not fit is a fault and never a wrapped number.
-/

namespace Multiplierless

/-- Cycles for each operation. By default a small core is described: one cycle
for everything but the multiplication. -/
structure CostModel where
  add : UInt32 := 1
  sub : UInt32 := 1
  neg : UInt32 := 1
  shift : UInt32 := 1
  mult : UInt32 := 30
  deriving DecidableEq

namespace CostModel

instance : Inhabited CostModel :=
  ⟨{}⟩

def inspect (model : CostModel) : String :=
  Text.record "CostModel" [("add", Decimal.ofNat model.add.toNat),
    ("sub", Decimal.ofNat model.sub.toNat), ("neg", Decimal.ofNat model.neg.toNat),
    ("shift", Decimal.ofNat model.shift.toNat), ("mult", Decimal.ofNat model.mult.toNat)]

def stepCost (model : CostModel) : Step → UInt32
  | .shl _ _ _ => model.shift
  | .sub _ _ _ => model.sub

/-- Adds two costs when the sum fits into 32 bits. -/
def checkedAdd (x y : UInt32) : Except Fault UInt32 :=
  if x.toNat + y.toNat < UInt32.size then .ok (x + y) else .error .sumOverflow

/-- Adds up costs from left to right. -/
def sumFrom (total : UInt32) : List UInt32 → Except Fault UInt32
  | [] => .ok total
  | cost :: rest => do
      let total ← checkedAdd total cost
      sumFrom total rest

/-- The cost of running the sequence once. -/
def cost (model : CostModel) (s : Sequence) : Except Fault UInt32 :=
  sumFrom 0 (s.steps.map model.stepCost)

/-- Whether the sequence is strictly cheaper than one multiplication. -/
def beatsMultiply (model : CostModel) (s : Sequence) : Except Fault Bool := do
  let cost ← model.cost s
  pure (decide (cost < model.mult))

end CostModel

/-- The cost under the default model. -/
def Sequence.cost (s : Sequence) : Except Fault UInt32 :=
  (default : CostModel).cost s

end Multiplierless
