import Multiplierless.Proofs.Evaluation

/-!
Validation against an expected constant. The validator looks at the shifts and at one
number, the factor found by running the sequence on one. Main statement: this decides
whether the sequence multiplies by the constant, first at the widest word and from
there at every width that its shifts fit.
-/

namespace Multiplierless

theorem Word.mul_resize {bits other : Nat} (n : Word bits) (c : Word other) :
    n.mul c.resize = wrap (c.value * n.value) := by
  rw [Int.mul_comm, ← mul_wrap, wrap_value, resize]

namespace Sequence

variable {bits : Nat} {expected : Word 64}

/-- Where the shifts fit, the constant decides. -/
theorem validate_of_fits (s : Sequence) (hFits : Check.Fits bits s.steps) :
    s.validate bits expected =
      if s.constant = expected.resize then .ok ()
      else .error (.factorMismatch expected.value s.constant.value) := by
  rw [validate, checkWidth_of_fits hFits]
  rfl

/-- A shift that is too wide is reported before the constant is looked at. -/
theorem validate_of_not_fits (s : Sequence) (expected : Word 64)
    (hFits : ¬Check.Fits bits s.steps) :
    ∃ index amount, Check.FirstWide bits s.steps index amount ∧
      s.validate bits expected = .error (.shiftOutOfRange index amount bits) := by
  obtain ⟨index, amount, hFirst, hWidth⟩ := checkWidth_of_not_fits hFits
  refine ⟨index, amount, hFirst, ?_⟩
  rw [validate, hWidth]
  rfl

/-- The two conditions of a valid sequence. Later statements use the validator through this
equivalence only. -/
theorem validate_eq_ok_iff (s : Sequence) :
    s.validate bits expected = .ok () ↔
      Check.Fits bits s.steps ∧ s.constant = expected.resize := by
  by_cases hFits : Check.Fits bits s.steps
  · rw [validate_of_fits s hFits]
    by_cases hConstant : s.constant = expected.resize
    · simp [hFits, hConstant]
    · simp [hConstant]
  · obtain ⟨index, amount, -, hError⟩ := validate_of_not_fits s expected hFits
    simp [hError, hFits]

/-- A sequence with the right factor multiplies by it at every width. -/
theorem eval_of_constant {s : Sequence} (hConstant : s.constant = expected.resize) {w : Width}
    (hFits : Check.Fits w.bits s.steps) (n : Word w.bits) :
    s.eval n = .ok (n.mul expected.resize) := by
  rw [constant_eq, Word.resize] at hConstant
  rw [eval_of_fits n hFits, Word.wrap_mul_congr w.bits_le_widest hConstant, Word.mul_resize]

theorem fits_widest (s : Sequence) : Check.Fits Check.widestBits s.steps :=
  fits_of_checkWidth (Check.width_of_accept s.accepted)

/-- One as the input shows the factor itself. -/
theorem constant_of_eval {s : Sequence}
    (hEval : ∀ m : Word Check.widestBits, s.eval m = .ok (m.mul expected.resize)) :
    s.constant = expected.resize := by
  have hOne := hEval (Word.wrap 1)
  have hValue : (Word.wrap 1 : Word Check.widestBits).value = 1 := by decide
  rw [eval_of_fits _ s.fits_widest, Word.mul_resize, hValue, Int.mul_one, Int.mul_one] at hOne
  rw [constant_eq]
  exact Except.ok.inj hOne

/-- The shifts are checked first; then the verdict is whether the sequence is
multiplication by the constant on all words of 128 bits. -/
theorem validate_decides_multiplication (s : Sequence) (bits : Nat) (expected : Word 64) :
    (¬Check.Fits bits s.steps →
      ∃ index amount, Check.FirstWide bits s.steps index amount ∧
        s.validate bits expected = .error (.shiftOutOfRange index amount bits)) ∧
    (Check.Fits bits s.steps →
      (s.validate bits expected = .ok () ↔
        ∀ m : Word 128, s.eval m = .ok (m.mul expected.resize)) ∧
      (¬(∀ m : Word 128, s.eval m = .ok (m.mul expected.resize)) →
        s.validate bits expected =
          .error (.factorMismatch expected.value s.constant.value))) ∧
    (s.validate bits expected = .ok () →
      ∀ w : Width, bits ≤ w.bits → ∀ n : Word w.bits,
        s.eval n = .ok (n.mul expected.resize)) := by
  have hWidest : s.constant = expected.resize ↔
      ∀ m : Word 128, s.eval m = .ok (m.mul expected.resize) := by
    constructor
    · intro hConstant
      exact eval_of_constant (w := .w128) hConstant s.fits_widest
    · exact constant_of_eval
  refine ⟨validate_of_not_fits s expected, ?_, ?_⟩
  · intro hFits
    rw [validate_eq_ok_iff, and_iff_right hFits, validate_of_fits s hFits, ← hWidest]
    exact ⟨Iff.rfl, fun hOther => if_neg hOther⟩
  · intro hValid w hBits n
    obtain ⟨hFits, hConstant⟩ := (validate_eq_ok_iff s).mp hValid
    exact eval_of_constant hConstant (hFits.mono hBits) n

end Sequence

end Multiplierless
