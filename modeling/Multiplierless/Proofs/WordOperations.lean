import Multiplierless.Proofs.WordArithmetic

/-!
The operations on words against those on integers. A word stands for a whole class of
integers, and its value is the one member of the class that is in range; this also covers
the least value, which has no counterpart of the other sign. Main statement: subtraction,
multiplication, conversion and shifts within the width give the words that stand for the
exact results, a shift outside the width faults, shifts in a row add up, and dropping high
bits after an operation is the same as dropping them before.
-/

namespace Multiplierless.Word

variable {bits wide narrow : Nat}

/-- The value of the word is the only signed residue of the integer. -/
def Represents (x : Word bits) (v : Int) : Prop :=
  ∀ r : Int, IsResidue bits v r ↔ r = x.value

theorem represents_wrap (hBits : 0 < bits) (v : Int) : (wrap v : Word bits).Represents v :=
  isResidue_iff hBits v

theorem represents_sub (hBits : 0 < bits) (x y : Word bits) :
    (x.sub y).Represents (x.value - y.value) := by
  rw [sub_eq_wrap]
  exact represents_wrap hBits _

theorem represents_mul (hBits : 0 < bits) (x y : Word bits) :
    (x.mul y).Represents (x.value * y.value) := by
  rw [mul_eq_wrap]
  exact represents_wrap hBits _

theorem represents_resize (hBits : 0 < narrow) (x : Word wide) :
    (x.resize : Word narrow).Represents x.value :=
  represents_wrap hBits x.value

theorem shl_wrap (v : Int) {amount : UInt32} (hAmount : amount.toNat < bits) :
    (wrap v : Word bits).shl amount = .ok (wrap (v * 2 ^ amount.toNat)) := by
  rw [shl_of_lt _ hAmount, shiftBy_wrap]

/-- A shift within the width is the wrapped product with a power of two. -/
theorem shl_eq_wrap (x : Word bits) {amount : UInt32} (hAmount : amount.toNat < bits) :
    x.shl amount = .ok (wrap (x.value * 2 ^ amount.toNat)) := by
  rw [← shl_wrap x.value hAmount, wrap_value]

/-- Two shifts are one shift by the sum of the amounts. The sum is taken in 32 bits, where
no width of a word is out of reach. -/
theorem shl_shl (hSize : bits ≤ UInt32.size) (x : Word bits) {a b : UInt32}
    (hSum : a.toNat + b.toNat < bits) :
    ∃ y z, x.shl a = .ok y ∧ y.shl b = .ok z ∧ x.shl (a + b) = .ok z := by
  have hAdd : (a + b).toNat = a.toNat + b.toNat := by
    rw [UInt32.toNat_add]
    exact Nat.mod_eq_of_lt (Nat.lt_of_lt_of_le hSum hSize)
  have hPower : x.value * 2 ^ (a + b).toNat = x.value * 2 ^ a.toNat * 2 ^ b.toNat := by
    rw [hAdd, Int.pow_add, Int.mul_assoc]
  refine ⟨_, _, shl_eq_wrap x (by omega), shl_wrap _ (by omega), ?_⟩
  rw [shl_eq_wrap x (by omega), hPower]

theorem resize_sub (hWidth : narrow ≤ wide) (x y : Word wide) :
    ((x.sub y).resize : Word narrow) = (x.resize : Word narrow).sub y.resize := by
  rw [sub_eq_wrap, resize_wrap hWidth, resize, resize, sub_wrap]

theorem resize_mul (hWidth : narrow ≤ wide) (x y : Word wide) :
    ((x.mul y).resize : Word narrow) = (x.resize : Word narrow).mul y.resize := by
  rw [mul_eq_wrap, resize_wrap hWidth, resize, resize, mul_wrap]

theorem resize_resize {other : Nat} (hWidth : narrow ≤ wide) (c : Word other) :
    ((c.resize : Word wide).resize : Word narrow) = c.resize :=
  resize_wrap hWidth c.value

/-- What the narrow word can be shifted by, the wide one can be shifted by too. -/
theorem resize_shl (hWidth : narrow ≤ wide) (x : Word wide) {amount : UInt32}
    (hAmount : amount.toNat < narrow) :
    ∃ y, x.shl amount = .ok y ∧ (x.resize : Word narrow).shl amount = .ok y.resize := by
  refine ⟨_, shl_eq_wrap x (Nat.lt_of_lt_of_le hAmount hWidth), ?_⟩
  rw [resize_wrap hWidth, resize, shl_wrap _ hAmount]

/-- At every width the operations are arithmetic modulo `2^bits`, and the arithmetic of a
narrower width is what is left of it in the low bits. -/
theorem operations_modular (w : Width) :
    (∀ x y : Word w.bits,
      (x.sub y).Represents (x.value - y.value) ∧ (x.mul y).Represents (x.value * y.value)) ∧
    (∀ c : Word 64, (c.resize : Word w.bits).Represents c.value) ∧
    (∀ (x : Word w.bits) (amount : UInt32),
      (amount.toNat < w.bits →
        ∃ y, x.shl amount = .ok y ∧ y.Represents (x.value * 2 ^ amount.toNat)) ∧
      (w.bits ≤ amount.toNat → x.shl amount = .error (.shiftTooFar amount))) ∧
    (∀ (x : Word w.bits) (a b : UInt32), a.toNat + b.toNat < w.bits →
      ∃ y z, x.shl a = .ok y ∧ y.shl b = .ok z ∧ x.shl (a + b) = .ok z) ∧
    ∀ v : Width, v.bits ≤ w.bits →
      (∀ x y : Word w.bits,
        (x.resize : Word v.bits).Represents x.value ∧
        ((x.sub y).resize : Word v.bits) = (x.resize : Word v.bits).sub y.resize ∧
        ((x.mul y).resize : Word v.bits) = (x.resize : Word v.bits).mul y.resize) ∧
      (∀ c : Word 64, ((c.resize : Word w.bits).resize : Word v.bits) = c.resize) ∧
      ∀ (x : Word w.bits) (amount : UInt32), amount.toNat < v.bits →
        ∃ y, x.shl amount = .ok y ∧ (x.resize : Word v.bits).shl amount = .ok y.resize := by
  have hBits : 0 < w.bits := w.lt_bits (by decide)
  have hSize : w.bits ≤ UInt32.size := by cases w <;> decide
  refine ⟨?_, represents_resize hBits, ?_, ?_, ?_⟩
  · intro x y
    exact ⟨represents_sub hBits x y, represents_mul hBits x y⟩
  · intro x amount
    constructor
    · intro hAmount
      exact ⟨_, shl_eq_wrap x hAmount, represents_wrap hBits _⟩
    · exact shl_of_le x
  · intro x a b hSum
    exact shl_shl hSize x hSum
  · intro v hWidth
    refine ⟨?_, resize_resize hWidth, ?_⟩
    · intro x y
      exact ⟨represents_resize (v.lt_bits (by decide)) x, resize_sub hWidth x y,
        resize_mul hWidth x y⟩
    · intro x amount hAmount
      exact resize_shl hWidth x hAmount

/-- At the sign bit: 64 doubled is the least value of 8 bits, -1 gets there in two shifts,
and 321 shifted by seven places wraps at 16 bits and once more at 8. -/
theorem operations_modular_at_limits :
    (∃ y : Word 8, (wrap 64 : Word 8).shl 1 = .ok y ∧ y.Represents 128 ∧ y.value = -128) ∧
    (wrap 1 : Word 8).shl 8 = .error (.shiftTooFar 8) ∧
    (∃ y z : Word 8, (wrap (-1) : Word 8).shl 3 = .ok y ∧ y.shl 4 = .ok z ∧
      (wrap (-1) : Word 8).shl 7 = .ok z ∧ z.value = -128) ∧
    ∃ y : Word 16, (wrap 321 : Word 16).shl 7 = .ok y ∧ y.value = -24448 ∧
      (wrap 65 : Word 8).shl 7 = .ok y.resize := by
  obtain ⟨-, -, hShift, hTwice, -⟩ := operations_modular .w8
  obtain ⟨-, -, -, -, hNarrow⟩ := operations_modular .w16
  obtain ⟨top, hTop, hRepresents⟩ := (hShift (wrap 64) 1).1 (by decide)
  have hFault := (hShift (wrap 1) 8).2 (by decide)
  obtain ⟨y, z, hFirst, hSecond, hBoth⟩ := hTwice (wrap (-1)) 3 4 (by decide)
  obtain ⟨wide, hWide, hLow⟩ := (hNarrow .w8 (by decide)).2.2 (wrap 321) 7 (by decide)
  refine ⟨⟨top, hTop, hRepresents, ?_⟩, hFault, ⟨y, z, hFirst, hSecond, hBoth, ?_⟩, wide, hWide,
    ?_, hLow⟩
  · rw [← Except.ok.inj hTop]
    rfl
  · rw [← Except.ok.inj hBoth]
    rfl
  · rw [← Except.ok.inj hWide]
    rfl

end Multiplierless.Word
