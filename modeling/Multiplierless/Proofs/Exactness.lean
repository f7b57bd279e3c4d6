import Multiplierless.Proofs.Validation

/-!
When factors are exact. The factors of a sequence come from a run on words of 128 bits,
the exact multiples from a run on the integers. Main statement: a factor is the signed
residue of the multiple, so it is the multiple itself just when that fits the word. The
validator compares residues, and what it accepts may be off by a multiple of `2^128`.
-/

namespace Multiplierless.Sequence

theorem value_factors (s : Sequence) :
    s.factors.map Word.value = s.multiples.map fun v => v.bmod (2 ^ 128) := by
  rw [factors_eq, List.map_map]
  exact List.map_congr_left fun v _ => Word.value_wrap v

/-- One multiple outside the range is enough to make the list of factors wrong. -/
theorem value_factors_eq_multiples_iff (s : Sequence) :
    s.factors.map Word.value = s.multiples ↔ ∀ v ∈ s.multiples, Word.InRange 128 v := by
  have hWord : ∀ v : Int, v.bmod (2 ^ 128) = v ↔ Word.InRange 128 v := by
    intro v
    rw [← Word.value_wrap_eq_self_iff (by decide), Word.value_wrap]
  calc
    s.factors.map Word.value = s.multiples ↔
        (s.multiples.map fun v => v.bmod (2 ^ 128)) = s.multiples.map id := by
      rw [value_factors, List.map_id]
    _ ↔ ∀ v ∈ s.multiples, v.bmod (2 ^ 128) = v := List.map_inj_left
    _ ↔ ∀ v ∈ s.multiples, Word.InRange 128 v := by simp only [hWord]

/-- The validator knows the multiple up to multiples of `2^128`. -/
theorem constant_eq_resize_iff (s : Sequence) (expected : Word 64) :
    s.constant = expected.resize ↔ (2 ^ 128 : Int) ∣ s.multiple - expected.value := by
  rw [constant_eq, Word.resize]
  exact Word.wrap_eq_wrap_iff s.multiple expected.value

/-- A word of 64 bits keeps its value at 128 bits. -/
theorem inRange_widest (c : Word 64) : Word.InRange 128 c.value := by
  rw [Word.inRange_iff (by decide)]
  have hLower : -2 ^ 63 ≤ c.value := BitVec.le_toInt c
  have hUpper : c.value < 2 ^ 63 := BitVec.toInt_lt
  omega

/-- Among the multiples that fit the widest word the validator is right. -/
theorem multiple_eq_iff_inRange {s : Sequence} {expected : Word 64}
    (hConstant : s.constant = expected.resize) :
    s.multiple = expected.value ↔ Word.InRange 128 s.multiple := by
  constructor
  · intro hMultiple
    rw [hMultiple]
    exact inRange_widest expected
  · intro hRange
    rw [constant_eq, Word.resize] at hConstant
    calc
      s.multiple = (Word.wrap s.multiple : Word 128).value :=
        ((Word.value_wrap_eq_self_iff (by decide) _).mpr hRange).symm
      _ = (Word.wrap expected.value : Word 128).value := congrArg Word.value hConstant
      _ = expected.value :=
        (Word.value_wrap_eq_self_iff (by decide) _).mpr (inRange_widest expected)

/-- Factors are exact as far as the multiples fit 128 bits, and an accepted sequence has
the expected multiple as far as that one does. Nothing is said here about which steps
keep their multiples small. -/
theorem factors_exact_iff (s : Sequence) :
    s.factors.map Word.value = s.multiples.map (fun v => v.bmod (2 ^ 128)) ∧
    (s.factors.map Word.value = s.multiples ↔
      ∀ v ∈ s.multiples, -2 ^ 127 ≤ v ∧ v < 2 ^ 127) ∧
    s.multiples.getLast? = some s.multiple ∧
    ∀ (bits : Nat) (expected : Word 64),
      (s.validate bits expected = .ok () ↔
        Check.Fits bits s.steps ∧ (2 ^ 128 : Int) ∣ s.multiple - expected.value) ∧
      (s.validate bits expected = .ok () →
        (s.multiple = expected.value ↔ -2 ^ 127 ≤ s.multiple ∧ s.multiple < 2 ^ 127)) := by
  have hRange : ∀ v : Int, Word.InRange 128 v ↔ -2 ^ 127 ≤ v ∧ v < 2 ^ 127 :=
    Word.inRange_iff (by decide)
  simp only [← hRange]
  refine ⟨s.value_factors, s.value_factors_eq_multiples_iff, s.getLast?_multiples, ?_⟩
  intro bits expected
  rw [validate_eq_ok_iff, constant_eq_resize_iff]
  refine ⟨Iff.rfl, ?_⟩
  rintro ⟨-, hDivides⟩
  exact multiple_eq_iff_inRange ((constant_eq_resize_iff s expected).mpr hDivides)

theorem factors_exact_neg82 :
    neg82.factors.map Word.value = [8, 7, 28, 21, 42, -41, -82] ∧
    neg82.validate 8 multiplier = .ok () ∧ neg82.multiple = multiplier.value := by
  obtain ⟨-, hExact, -, hVerdict⟩ := factors_exact_iff neg82
  have hValid : neg82.validate 8 multiplier = .ok () := rfl
  exact ⟨hExact.mpr (by decide), hValid, ((hVerdict 8 multiplier).2 hValid).mpr (by decide)⟩

/-- The input shifted by 64 places, twice. -/
def shiftedOut : Sequence :=
  ⟨[.shl (.temp 1) .input 64, .shl (.temp 1) (.temp 1) 64], rfl⟩

/-- The second factor is `2^128` and is reported as zero, and the validator takes the
sequence for multiplication by zero. -/
theorem factors_truncated :
    shiftedOut.multiples = [2 ^ 64, 2 ^ 128] ∧
    shiftedOut.factors.map Word.value = [2 ^ 64, 0] ∧
    shiftedOut.factors.map Word.value ≠ shiftedOut.multiples ∧
    shiftedOut.validate 65 (Word.wrap 0) = .ok () ∧
    shiftedOut.multiple ≠ (Word.wrap 0 : Word 64).value := by
  have hMultiples : shiftedOut.multiples = [2 ^ 64, 2 ^ 128] := by decide
  have hFactors : shiftedOut.factors.map Word.value = [2 ^ 64, 0] := by
    rw [value_factors, hMultiples]
    decide
  refine ⟨hMultiples, hFactors, ?_, rfl, by decide⟩
  rw [hMultiples, hFactors]
  decide

end Multiplierless.Sequence
