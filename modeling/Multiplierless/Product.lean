import Multiplierless.Word

/-!
Multiplication by the constant -82. The constant is decomposed as
`-82 = 2 * (1 - 2 * (4 * (8 - 1) - (8 - 1)))`, which takes four shifts and three
subtractions. The direct product is the yardstick for all other routines.
-/

namespace Multiplierless

/-- The constant that every routine multiplies by. -/
def multiplier : Word 64 :=
  Word.wrap (-82)

/-- The values that the decomposition passes through, in the order in which they
are computed. The last one is the product. -/
structure Decomposition (bits : Nat) where
  t1 : Word bits
  t2 : Word bits
  t3 : Word bits
  t4 : Word bits
  t5 : Word bits
  t6 : Word bits
  t7 : Word bits
  deriving DecidableEq

namespace Decomposition

/-- Every shift amount is below the least width, so no shift can fault. -/
def ofWord (w : Width) (n : Word w.bits) : Decomposition w.bits :=
  let t1 := n.shiftBy 3 (w.lt_bits (by decide))
  let t2 := t1.sub n
  let t3 := t2.shiftBy 2 (w.lt_bits (by decide))
  let t4 := t3.sub t2
  let t5 := t4.shiftBy 1 (w.lt_bits (by decide))
  let t6 := n.sub t5
  let t7 := t6.shiftBy 1 (w.lt_bits (by decide))
  ⟨t1, t2, t3, t4, t5, t6, t7⟩

def toList {bits : Nat} (d : Decomposition bits) : List (Word bits) :=
  [d.t1, d.t2, d.t3, d.t4, d.t5, d.t6, d.t7]

end Decomposition

namespace Product

/-- The product by one multiplication. -/
def direct {bits : Nat} (n : Word bits) : Word bits :=
  n.mul multiplier.resize

/-- The product by shifts and subtractions at any machine width. -/
def byShifts (w : Width) (n : Word w.bits) : Word w.bits :=
  (Decomposition.ofWord w n).t7

/-- The product by shifts and subtractions at 32 bits. -/
def byShifts32 (n : Word 32) : Word 32 :=
  let t1 := n <<< 3
  let t2 := t1 - n
  let t3 := t2 <<< 2
  let t4 := t3 - t2
  let t5 := t4 <<< 1
  let t6 := n - t5
  t6 <<< 1

end Product

end Multiplierless
