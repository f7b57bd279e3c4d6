import Multiplierless.Proofs.Validation

/-!
The decomposition of -82. Its seven values are the input times 8, 7, 28, 21, 42, -41
and -82, each wrapped once, whatever overflows on the way. Main statement: the product
by shifts and subtractions, the direct product and the run of the seven steps as a
sequence are one word, the signed residue of the exact product.
-/

namespace Multiplierless

/-- The multiples of the input that the seven steps write. -/
theorem Sequence.multiples_neg82 : neg82.multiples = [8, 7, 28, 21, 42, -41, -82] := by
  decide

theorem Sequence.multiple_neg82 : neg82.multiple = -82 := by
  decide

/-- No shift is by more than three places, so the steps fit every width. -/
theorem Sequence.fits_neg82 (w : Width) : Check.Fits w.bits neg82.steps := by
  have hFits : neg82.checkWidth 8 = .ok () := rfl
  exact (fits_of_checkWidth hFits).mono w.eight_le_bits

namespace Decomposition

/-- On a wrapped integer the seven values are its seven multiples, each wrapped once. -/
theorem toList_ofWord_wrap (w : Width) (v : Int) :
    (ofWord w (Word.wrap v)).toList = Sequence.neg82.multiples.map fun k => Word.wrap (k * v) := by
  -- Each operation is moved inside the wrapping, where it is one on integers.
  have hOne : v * 2 ^ 3 = 8 * v := by omega
  have hTwo : 8 * v - v = 7 * v := by omega
  have hThree : 7 * v * 2 ^ 2 = 28 * v := by omega
  have hFour : 28 * v - 7 * v = 21 * v := by omega
  have hFive : 21 * v * 2 ^ 1 = 42 * v := by omega
  have hSix : v - 42 * v = -41 * v := by omega
  have hSeven : -41 * v * 2 ^ 1 = -82 * v := by omega
  simp only [ofWord, toList, Word.shiftBy_wrap, Word.sub_wrap, hOne, hTwo, hThree, hFour, hFive,
    hSix, hSeven, Sequence.multiples_neg82, List.map_cons, List.map_nil]

/-- The values are the results of the seven steps. -/
theorem toList_ofWord (w : Width) (n : Word w.bits) :
    (ofWord w n).toList =
      Sequence.neg82.multiples.map fun k => Word.wrap (k * n.value) := by
  have hList := toList_ofWord_wrap w n.value
  rwa [Word.wrap_value] at hList

end Decomposition

namespace Product

theorem direct_eq_wrap {bits : Nat} (n : Word bits) : direct n = Word.wrap (-82 * n.value) :=
  Word.mul_resize n multiplier

/-- The last value of the decomposition is the wrapped product. -/
theorem byShifts_eq_wrap (w : Width) (n : Word w.bits) :
    byShifts w n = Word.wrap (-82 * n.value) := by
  have hLast := congrArg List.getLast? (Decomposition.toList_ofWord w n)
  rw [List.getLast?_map, Sequence.getLast?_multiples, Sequence.multiple_neg82] at hLast
  exact Option.some.inj hLast

theorem byShifts_eq_direct (w : Width) (n : Word w.bits) : byShifts w n = direct n := by
  rw [byShifts_eq_wrap, direct_eq_wrap]

/-- The seven steps as a sequence and the one multiplication give the same word. -/
theorem eval_neg82_eq_direct (w : Width) (n : Word w.bits) :
    Sequence.neg82.eval n = .ok (direct n) := by
  rw [Sequence.eval_of_fits n (Sequence.fits_neg82 w), Sequence.multiple_neg82, direct_eq_wrap]

/-- All routines compute the signed residue of the product, which is the product
itself when that fits, and the steps of the sequence pass through the same values as
the decomposition. -/
theorem routines_agree :
    (∀ (w : Width) (n : Word w.bits), ∃ r : Word w.bits,
      (∀ v : Int, Word.IsResidue w.bits (-82 * n.value) v ↔ v = r.value) ∧
      (-2 ^ (w.bits - 1) ≤ -82 * n.value → -82 * n.value < 2 ^ (w.bits - 1) →
        r.value = -82 * n.value) ∧
      byShifts w n = r ∧
      direct n = r ∧
      Sequence.neg82.eval n = .ok r ∧
      (Sequence.neg82.evalLogged n).log = Sequence.evalSpan w.bits ::
        List.zipWith Step.event Sequence.neg82.steps (Decomposition.ofWord w n).toList) ∧
    ∀ n : Word 32, byShifts32 n = byShifts .w32 n := by
  refine ⟨?_, fun n => rfl⟩
  intro w n
  have hBits : 0 < w.bits := Nat.lt_of_lt_of_le (by decide) w.eight_le_bits
  have hResidue := Word.isResidue_iff hBits (-82 * n.value)
  have hFits := Sequence.fits_neg82 w
  refine ⟨Word.wrap (-82 * n.value), hResidue, ?_, byShifts_eq_wrap w n, direct_eq_wrap n, ?_, ?_⟩
  · intro hLower hUpper
    exact ((hResidue _).mp ⟨hLower, hUpper, by simp⟩).symm
  · rw [Sequence.eval_of_fits n hFits, Sequence.multiple_neg82]
  · rw [Sequence.evalLogged_of_fits n hFits, Decomposition.toList_ofWord]

end Product

end Multiplierless
