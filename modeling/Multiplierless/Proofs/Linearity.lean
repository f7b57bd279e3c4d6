import Multiplierless.Proofs.Evaluation

/-!
Two evaluations of one sequence. Since every step multiplies the input by an integer of
its own, runs on different inputs and runs at different widths are tied together at each
step, however much they overflow. Main statement: the run on a difference is the
difference of the runs, the run on zero is zero throughout, and dropping high bits before
a run is the same as dropping them from each of its results.
-/

namespace Multiplierless

namespace Word

variable {bits : Nat}

theorem wrap_mul_sub (v : Int) (a b : Word bits) :
    (wrap (v * (a.sub b).value) : Word bits) =
      (wrap (v * a.value)).sub (wrap (v * b.value)) := by
  calc
    (wrap (v * (a.sub b).value) : Word bits) = wrap ((a.value - b.value) * v) := by
      rw [sub_eq_wrap, Int.mul_comm, wrap_value_mul (Nat.le_refl bits)]
    _ = (wrap (v * a.value)).sub (wrap (v * b.value)) := by
      rw [sub_wrap, Int.sub_mul, Int.mul_comm v, Int.mul_comm v]

/-- The products with a difference are the differences of the products, one by one. -/
theorem map_wrap_mul_sub (multiples : List Int) (a b : Word bits) :
    (multiples.map fun v => (wrap (v * (a.sub b).value) : Word bits)) =
      List.zipWith sub (multiples.map fun v => wrap (v * a.value))
        (multiples.map fun v => wrap (v * b.value)) := by
  simp only [List.zipWith_map, List.zipWith_self, wrap_mul_sub]

theorem wrap_mul_zero (v : Int) : (wrap (v * (zero : Word bits).value) : Word bits) = zero := by
  rw [zero, Int.mul_comm, wrap_value_mul (Nat.le_refl bits), Int.zero_mul]

/-- A product taken at a wide word and then narrowed is the product of the narrowed
input. -/
theorem resize_wrap_mul {wide narrow : Nat} (hWidth : narrow ≤ wide) (v : Int) (n : Word wide) :
    ((wrap (v * n.value) : Word wide).resize : Word narrow) =
      wrap (v * (n.resize : Word narrow).value) := by
  rw [resize_wrap hWidth, Int.mul_comm v (resize n).value, resize,
    wrap_value_mul (Nat.le_refl narrow), Int.mul_comm]

end Word

namespace Sequence

variable {bits : Nat} {s : Sequence}

theorem evaluates_sub (hFits : Check.Fits bits s.steps) (a b : Word bits) :
    ∃ as bs x y, s.Evaluates a as x ∧ s.Evaluates b bs y ∧
      s.Evaluates (a.sub b) (List.zipWith Word.sub as bs) (x.sub y) := by
  have hDifference := evaluates_of_fits (a.sub b) hFits
  rw [Word.map_wrap_mul_sub, Word.wrap_mul_sub] at hDifference
  exact ⟨_, _, _, _, evaluates_of_fits a hFits, evaluates_of_fits b hFits, hDifference⟩

theorem evaluates_zero (hFits : Check.Fits bits s.steps) :
    s.Evaluates (Word.zero : Word bits) (List.replicate s.length Word.zero) Word.zero := by
  have hZero := evaluates_of_fits (Word.zero : Word bits) hFits
  simp only [Word.wrap_mul_zero, List.map_const', length_multiples] at hZero
  exact hZero

/-- What fits the narrow word fits the wide one, and the wide run stands above the narrow
one at every step. -/
theorem evaluates_resize {wide narrow : Nat} (hWidth : narrow ≤ wide)
    (hFits : Check.Fits narrow s.steps) (n : Word wide) :
    ∃ results q, s.Evaluates n results q ∧
      s.Evaluates (n.resize : Word narrow) (results.map Word.resize) q.resize := by
  have hResults : (Word.resize ∘ fun v => (Word.wrap (v * n.value) : Word wide)) =
      fun v => (Word.wrap (v * (n.resize : Word narrow).value) : Word narrow) := by
    funext v
    exact Word.resize_wrap_mul hWidth v n
  refine ⟨_, _, evaluates_of_fits n (hFits.mono hWidth), ?_⟩
  rw [List.map_map, hResults, Word.resize_wrap_mul hWidth]
  exact evaluates_of_fits n.resize hFits

/-- Whether a sequence is evaluated depends on the width alone. Where it is, it is
additive, result by result; and where it is at a narrow width, it is at every wider one,
with results that the narrow run has the low bits of. -/
theorem eval_additive_and_natural (s : Sequence) :
    (∀ (w : Width) (m q : Word w.bits), s.eval m = .ok q →
      (∀ a b : Word w.bits, ∃ as bs x y,
        s.Evaluates a as x ∧ s.Evaluates b bs y ∧
        s.Evaluates (a.sub b) (List.zipWith Word.sub as bs) (x.sub y)) ∧
      s.Evaluates (Word.zero : Word w.bits) (List.replicate s.length Word.zero) Word.zero) ∧
    ∀ v w : Width, v.bits ≤ w.bits → ∀ (n : Word w.bits) (r : Word v.bits),
      s.eval (n.resize : Word v.bits) = .ok r →
      ∃ results q, s.Evaluates n results q ∧ q.resize = r ∧
        s.Evaluates (n.resize : Word v.bits) (results.map Word.resize) r := by
  constructor
  · intro w m q hEval
    have hFits := fits_of_eval hEval
    exact ⟨evaluates_sub hFits, evaluates_zero hFits⟩
  · intro v w hWidth n r hEval
    obtain ⟨results, q, hWide, hNarrow⟩ := evaluates_resize hWidth (fits_of_eval hEval) n
    have hSame : q.resize = r := Except.ok.inj (hNarrow.outcome.symm.trans hEval)
    rw [hSame] at hNarrow
    exact ⟨results, q, hWide, hSame, hNarrow⟩

/-- Three times the input, in one temporary that is written twice. -/
def tripled : Sequence :=
  ⟨[.shl (.temp 1) .input 2, .sub (.temp 1) (.temp 1) .input], rfl⟩

/-- At 8 bits the difference of 100 and -60 wraps, and so do the products of both. -/
theorem eval_additive_and_natural_tripled :
    tripled.eval (Word.wrap 0 : Word 8) = .ok (Word.wrap 0) ∧
    (∃ as bs x y, tripled.Evaluates (Word.wrap 100 : Word 8) as x ∧
      tripled.Evaluates (Word.wrap (-60) : Word 8) bs y ∧
      tripled.Evaluates (Word.wrap (-96) : Word 8) (List.zipWith Word.sub as bs) (x.sub y) ∧
      (x.sub y).value = -32) ∧
    tripled.eval (Word.wrap (-24) : Word 8) = .ok (Word.wrap (-72)) ∧
    ∃ results q, tripled.Evaluates (Word.wrap 1000 : Word 16) results q ∧
      tripled.Evaluates (Word.wrap (-24) : Word 8) (results.map Word.resize)
        (Word.wrap (-72)) := by
  obtain ⟨hAdditive, hNatural⟩ := eval_additive_and_natural tripled
  have hEval : tripled.eval (Word.wrap 0 : Word 8) = .ok (Word.wrap 0) := rfl
  have hNarrow : tripled.eval (Word.wrap (-24) : Word 8) = .ok (Word.wrap (-72)) := rfl
  obtain ⟨as, bs, x, y, hLeft, hRight, hDifference⟩ :=
    (hAdditive .w8 (Word.wrap 0) (Word.wrap 0) hEval).1 (Word.wrap 100) (Word.wrap (-60))
  obtain ⟨results, q, hWide, -, hResults⟩ :=
    hNatural .w8 .w16 (by decide) (Word.wrap 1000) (Word.wrap (-72)) hNarrow
  have hOutcome : x.sub y = Word.wrap (-32) := Except.ok.inj hDifference.outcome.symm
  have hValue : (x.sub y).value = -32 := by
    rw [hOutcome]
    rfl
  exact ⟨hEval, ⟨as, bs, x, y, hLeft, hRight, hDifference, hValue⟩, hNarrow, results, q, hWide,
    hResults⟩

end Sequence

end Multiplierless
