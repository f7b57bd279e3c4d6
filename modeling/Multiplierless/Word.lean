import Multiplierless.Decimal
import Multiplierless.Outcome

/-!
Fixed-width signed words. A word of `bits` bits stands for the integer in
`[-2^(bits-1), 2^(bits-1))` that its two's-complement pattern spells, and every
operation is taken modulo `2^bits`. Shifting left by the whole width or more is
the one operation without an answer.
-/

namespace Multiplierless

/-- The widths a machine offers. The native width is that of a pointer. -/
inductive Width
  | w8
  | w16
  | w32
  | w64
  | w128
  | native
  deriving DecidableEq

namespace Width

def bits : Width → Nat
  | w8 => 8
  | w16 => 16
  | w32 => 32
  | w64 => 64
  | w128 => 128
  | native => 64

theorem eight_le_bits (w : Width) : 8 ≤ w.bits := by
  cases w <;> decide

theorem lt_bits (w : Width) {amount : Nat} (hAmount : amount < 8) : amount < w.bits :=
  Nat.lt_of_lt_of_le hAmount w.eight_le_bits

end Width

abbrev Word (bits : Nat) :=
  BitVec bits

namespace Word

variable {bits : Nat}

/-- The signed integer a word stands for. -/
def value (x : Word bits) : Int :=
  x.toInt

/-- The word congruent to an integer modulo `2^bits`. -/
def wrap (v : Int) : Word bits :=
  BitVec.ofInt bits v

/-- Whether an integer lies between the least and the greatest value of a word of
this width. -/
def InRange (bits : Nat) (v : Int) : Prop :=
  (BitVec.intMin bits).toInt ≤ v ∧ v ≤ (BitVec.intMax bits).toInt

instance (bits : Nat) (v : Int) : Decidable (InRange bits v) :=
  inferInstanceAs (Decidable (_ ∧ _))

/-- The word with the given value, when there is one. -/
def ofInt? (v : Int) : Option (Word bits) :=
  if InRange bits v then some (wrap v) else none

def zero : Word bits :=
  wrap 0

/-- Carries a value to another width. A wider word holds the same value, a
narrower one keeps the low bits. -/
def resize {narrow : Nat} (x : Word bits) : Word narrow :=
  wrap x.value

/-- Left shift within the width. Bits pushed past the sign bit are dropped. -/
def shiftBy (x : Word bits) (amount : Nat) (_hAmount : amount < bits) : Word bits :=
  x <<< amount

/-- Left shift by any amount. Amounts of the whole width or more fault. -/
def shl (x : Word bits) (amount : UInt32) : Except Fault (Word bits) :=
  if hAmount : amount.toNat < bits then
    .ok (x.shiftBy amount.toNat hAmount)
  else
    .error (.shiftTooFar amount)

def sub (x y : Word bits) : Word bits :=
  x - y

def mul (x y : Word bits) : Word bits :=
  x * y

def text (x : Word bits) : String :=
  Decimal.ofInt x.value

theorem shl_of_lt (x : Word bits) {amount : UInt32} (hAmount : amount.toNat < bits) :
    x.shl amount = .ok (x.shiftBy amount.toNat hAmount) := by
  rw [shl, dif_pos hAmount]

theorem shl_of_le (x : Word bits) {amount : UInt32} (hAmount : bits ≤ amount.toNat) :
    x.shl amount = .error (.shiftTooFar amount) := by
  rw [shl, dif_neg (Nat.not_lt.mpr hAmount)]

end Word

end Multiplierless
