import Mathlib.Algebra.Group.Int.Defs
import Mathlib.Algebra.Group.Nat.Defs
import Multiplierless.Word

/-!
Words as residues. `wrap` carries subtraction, multiplication and shifting from the
integers to the words of every width, and it forgets nothing but multiples of
`2^bits`. Statements about runs use only these laws and no bit patterns.
-/

namespace Multiplierless.Word

variable {bits : Nat}

@[simp] theorem wrap_value (x : Word bits) : wrap x.value = x :=
  BitVec.ofInt_toInt

/-- The value of a wrapped integer is its signed residue. -/
theorem value_wrap (v : Int) : (wrap v : Word bits).value = v.bmod (2 ^ bits) :=
  BitVec.toInt_ofInt v

theorem value_injective {x y : Word bits} (hValue : x.value = y.value) : x = y :=
  BitVec.eq_of_toInt_eq hValue

/-- Wrapping forgets multiples of `2^bits` and nothing else. -/
theorem wrap_eq_wrap_iff (a b : Int) :
    (wrap a : Word bits) = wrap b ↔ ((2 ^ bits : Nat) : Int) ∣ a - b := by
  rw [Int.dvd_iff_bmod_eq_zero, ← Int.bmod_eq_bmod_iff_bmod_sub_eq_zero, ← value_wrap, ← value_wrap]
  exact ⟨congrArg value, value_injective⟩

/-- Says that `r` is the signed residue of `v`: a word of this width can have the value
`r`, and it differs from `v` by a multiple of `2^bits`. -/
structure IsResidue (bits : Nat) (v r : Int) : Prop where
  lower : -2 ^ (bits - 1) ≤ r
  upper : r < 2 ^ (bits - 1)
  congruent : (2 ^ bits : Int) ∣ r - v

/-- There is one residue, the value of the wrapped integer. -/
theorem isResidue_iff (hBits : 0 < bits) (v r : Int) :
    IsResidue bits v r ↔ r = (wrap v : Word bits).value := by
  constructor
  · rintro ⟨hLower, hUpper, hCongruent⟩
    have hSame : (wrap r : Word bits) = wrap v :=
      (wrap_eq_wrap_iff r v).mpr (by exact_mod_cast hCongruent)
    rw [← hSame]
    exact (BitVec.toInt_ofInt_eq_self hBits hLower hUpper).symm
  · rintro rfl
    refine ⟨BitVec.le_toInt _, BitVec.toInt_lt, ?_⟩
    have hCongruent := (wrap_eq_wrap_iff _ v).mp (wrap_value (wrap v : Word bits))
    exact_mod_cast hCongruent

theorem inRange_iff (hBits : 0 < bits) (v : Int) :
    InRange bits v ↔ -2 ^ (bits - 1) ≤ v ∧ v < 2 ^ (bits - 1) := by
  rw [InRange, BitVec.toInt_intMin_of_pos hBits, BitVec.toInt_intMax]
  omega

/-- An integer survives the wrapping just when a word can have it as its value. -/
theorem value_wrap_eq_self_iff (hBits : 0 < bits) (v : Int) :
    (wrap v : Word bits).value = v ↔ InRange bits v := by
  rw [eq_comm, ← isResidue_iff hBits, inRange_iff hBits]
  exact ⟨fun h => ⟨h.lower, h.upper⟩, fun h => ⟨h.1, h.2, by simp⟩⟩

/-- Wrapping carries subtraction from the integers to the words. -/
theorem sub_wrap (a b : Int) : (wrap a : Word bits).sub (wrap b) = wrap (a - b) := by
  simp only [sub, wrap, BitVec.sub_eq_add_neg, Int.sub_eq_add_neg, BitVec.ofInt_add,
    BitVec.ofInt_neg]

theorem sub_eq_wrap (x y : Word bits) : x.sub y = wrap (x.value - y.value) := by
  rw [← sub_wrap, wrap_value, wrap_value]

/-- Wrapping carries multiplication from the integers to the words. -/
theorem mul_wrap (a b : Int) : (wrap a : Word bits).mul (wrap b) = wrap (a * b) :=
  (BitVec.ofInt_mul a b).symm

theorem mul_eq_wrap (x y : Word bits) : x.mul y = wrap (x.value * y.value) := by
  rw [← mul_wrap, wrap_value, wrap_value]

/-- A shift is a product with a power of two, also where it drops bits. -/
theorem shiftBy_wrap (v : Int) {amount : Nat} (hAmount : amount < bits) :
    (wrap v : Word bits).shiftBy amount hAmount = wrap (v * 2 ^ amount) := by
  have hPower : BitVec.twoPow bits amount = BitVec.ofInt bits (2 ^ amount) := by
    apply BitVec.eq_of_toNat_eq
    rw [BitVec.toNat_twoPow, BitVec.toNat_ofInt]
    norm_cast
  rw [shiftBy, BitVec.shiftLeft_eq_mul_twoPow, hPower, wrap, wrap, BitVec.ofInt_mul]

theorem lt_of_shl {x y : Word bits} {amount : UInt32} (hShift : x.shl amount = .ok y) :
    amount.toNat < bits := by
  refine Nat.lt_of_not_le fun hLe => ?_
  rw [shl_of_le x hLe] at hShift
  exact absurd hShift (by simp)

/-- A wide word can stand for the integer it was wrapped from in any product that
is taken at a width no larger. -/
theorem wrap_value_mul {wide narrow : Nat} (hWidth : narrow ≤ wide) (v n : Int) :
    (wrap ((wrap v : Word wide).value * n) : Word narrow) = wrap (v * n) := by
  have hWide : ((2 ^ wide : Nat) : Int) ∣ (wrap v : Word wide).value - v := by
    rw [← wrap_eq_wrap_iff, wrap_value]
  have hNarrow : ((2 ^ narrow : Nat) : Int) ∣ ((2 ^ wide : Nat) : Int) :=
    Int.natCast_dvd_natCast.mpr (Nat.pow_dvd_pow 2 hWidth)
  rw [wrap_eq_wrap_iff, ← Int.sub_mul]
  exact Int.dvd_mul_of_dvd_left (Int.dvd_trans hNarrow hWide)

/-- Wrapping at a wide word first does not show at a narrower one. -/
theorem resize_wrap {wide narrow : Nat} (hWidth : narrow ≤ wide) (v : Int) :
    ((wrap v : Word wide).resize : Word narrow) = wrap v := by
  have hOne := wrap_value_mul hWidth v 1
  rwa [Int.mul_one, Int.mul_one] at hOne

end Multiplierless.Word
