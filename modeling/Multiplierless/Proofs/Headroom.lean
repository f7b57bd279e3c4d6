import Multiplierless.Proofs.Decomposition
import Multiplierless.Proofs.Source.ReadBack

/-!
Overflow on the way to a result. A step in the middle may wrap although the result fits,
because wraps can cancel each other out. They do not where the last multiple is the
largest: whatever the last step has room for, the steps before it have room for too. Main
statement: when -82 times the input fits the word, none of the seven steps wraps, and
neither does an assignment of the routine written for them.
-/

namespace Multiplierless

/-- A product with a smaller number fits where the product with the larger one does. The
least value of a word has no counterpart among the positive ones, so two numbers of the
same size and opposite signs do not compare. -/
theorem Word.inRange_mul_of_natAbs_lt {bits : Nat} (hBits : 0 < bits) {k m n : Int}
    (hLess : k.natAbs < m.natAbs) (hRange : InRange bits (m * n)) : InRange bits (k * n) := by
  rw [inRange_iff hBits] at hRange ⊢
  by_cases hZero : n = 0
  · have hPositive : (0 : Int) < 2 ^ (bits - 1) := Int.pow_pos (by decide)
    rw [hZero, Int.mul_zero]
    omega
  · have hSmaller : (k * n).natAbs < (m * n).natAbs := by
      rw [Int.natAbs_mul, Int.natAbs_mul]
      exact Nat.mul_lt_mul_of_pos_right hLess (Int.natAbs_pos.mpr hZero)
    omega

namespace Sequence

variable {s : Sequence} {bits : Nat}

/-- Every multiple on the way is smaller in size than the last one, or equal to it. -/
def LargestLast (s : Sequence) : Prop :=
  ∀ v ∈ s.multiples, v = s.multiple ∨ v.natAbs < s.multiple.natAbs

theorem LargestLast.inRange (hLargest : s.LargestLast) (hBits : 0 < bits) {n : Int}
    (hRange : Word.InRange bits (s.multiple * n)) {v : Int} (hMem : v ∈ s.multiples) :
    Word.InRange bits (v * n) := by
  rcases hLargest v hMem with hLast | hLess
  · rw [hLast]
    exact hRange
  · exact Word.inRange_mul_of_natAbs_lt hBits hLess hRange

/-- Where the last product fits, wrapping changes none of them. -/
theorem LargestLast.value_wrap (hLargest : s.LargestLast) (hBits : 0 < bits) {n : Int}
    (hRange : Word.InRange bits (s.multiple * n)) :
    (s.multiples.map fun v => (Word.wrap (v * n) : Word bits)).map Word.value =
      s.multiples.map fun v => v * n := by
  rw [List.map_map]
  apply List.map_congr_left
  intro v hMem
  exact (Word.value_wrap_eq_self_iff hBits (v * n)).mpr (hLargest.inRange hBits hRange hMem)

theorem largestLast_neg82 : neg82.LargestLast := by
  rw [LargestLast, multiples_neg82, multiple_neg82]
  decide

end Sequence

namespace Decomposition

/-- The integers that the seven steps stand for. -/
def products (n : Int) : List Int :=
  [8 * n, 7 * n, 28 * n, 21 * n, 42 * n, -41 * n, -82 * n]

theorem products_eq (n : Int) : products n = Sequence.neg82.multiples.map fun v => v * n := by
  rw [Sequence.multiples_neg82]
  rfl

theorem inRange_of_mem_products {bits : Nat} (hBits : 0 < bits) {n : Int}
    (hRange : Word.InRange bits (-82 * n)) {p : Int} (hMem : p ∈ products n) :
    Word.InRange bits p := by
  rw [products_eq] at hMem
  obtain ⟨v, hMultiple, hProduct⟩ := List.mem_map.mp hMem
  rw [← hProduct]
  rw [← Sequence.multiple_neg82] at hRange
  exact Sequence.largestLast_neg82.inRange hBits hRange hMultiple

end Decomposition

/-- The values of a call on integers are the exact multiples of the argument. -/
theorem Emitter.Sound.values_integers {e : Emitter} {s : Sequence} (hSound : e.Sound s) (n : Int) :
    (e.routineOf s).values .integers n = some (s.multiples.map fun v => v * n) := by
  have hValues := Source.values_ofSequence (Source.Arithmetic.carries_integers routineBits n)
    hSound.fits (fun step hStep => hSound.eq_dst_of_name hStep) (e.declaredNames s) e.assertionsOf
  rw [Int.one_mul] at hValues
  exact hValues

namespace Product

open Decomposition (products)

/-- When the product fits, all seven values are exact, those of the decomposition and
those that the evaluation logs. An emitted routine computes the same integers, so in a
language with plain arithmetic on 32 bits it has no value outside the range. -/
theorem no_step_wraps :
    (∀ (w : Width) (n : Word w.bits),
      -2 ^ (w.bits - 1) ≤ -82 * n.value → -82 * n.value < 2 ^ (w.bits - 1) →
      (Decomposition.ofWord w n).toList.map Word.value = products n.value ∧
      ∃ results r, Sequence.neg82.Evaluates n results r ∧
        results.map Word.value = products n.value ∧ r.value = -82 * n.value) ∧
    ∀ (e : Emitter) (text : String), e.render .neg82 = .ok text → ∀ n : Word 32,
      -2 ^ 31 ≤ -82 * n.value → -82 * n.value < 2 ^ 31 →
      ∃ r, Source.read? e.lang text = some r ∧
        r.values .integers n.value = some (products n.value) ∧
        ∀ p ∈ products n.value, -2 ^ 31 ≤ p ∧ p < 2 ^ 31 := by
  constructor
  · intro w n hLower hUpper
    have hBits : 0 < w.bits := w.lt_bits (by decide)
    have hRange : Word.InRange w.bits (Sequence.neg82.multiple * n.value) := by
      rw [Sequence.multiple_neg82, Word.inRange_iff hBits]
      exact ⟨hLower, hUpper⟩
    have hValues := Sequence.largestLast_neg82.value_wrap hBits hRange
    rw [← Decomposition.products_eq] at hValues
    have hEvaluates := Sequence.evaluates_of_fits n (Sequence.fits_neg82 w)
    constructor
    · rw [Decomposition.toList_ofWord]
      exact hValues
    · refine ⟨_, _, hEvaluates, hValues, ?_⟩
      rw [(Word.value_wrap_eq_self_iff hBits _).mpr hRange, Sequence.multiple_neg82]
  · intro e text hRender n hLower hUpper
    obtain ⟨hSound, hText⟩ := Emitter.render_eq_ok_iff.mp hRender
    have hRange : Word.InRange 32 (-82 * n.value) :=
      (Word.inRange_iff (by decide) _).mpr ⟨hLower, hUpper⟩
    refine ⟨e.routineOf .neg82, ?_, ?_, ?_⟩
    · rw [← hText]
      exact Emitter.read?_source hSound
    · rw [Decomposition.products_eq]
      exact hSound.values_integers n.value
    · intro p hMem
      exact (Word.inRange_iff (by decide) p).mp
        (Decomposition.inRange_of_mem_products (by decide) hRange hMem)

/-- The largest input of 32 bits whose product fits, and the least one of 16 bits. -/
theorem no_step_wraps_at_limits :
    (∃ results r, Sequence.neg82.Evaluates (Word.wrap (-399) : Word 16) results r ∧
      results.map Word.value = [-3192, -2793, -11172, -8379, -16758, 16359, 32718] ∧
      r.value = 32718) ∧
    ∃ e : Emitter, e = { lang := .c, harness := true } ∧
      e.render .neg82 = .ok (e.source .neg82) ∧
      ∃ r, Source.read? .c (e.source .neg82) = some r ∧
        r.values .integers 26188824 = some [209510592, 183321768, 733287072, 549965304,
          1099930608, -1073741784, -2147483568] := by
  obtain ⟨hWords, hSource⟩ := no_step_wraps
  obtain ⟨-, results, r, hEvaluates, hResults, hValue⟩ :=
    hWords .w16 (Word.wrap (-399)) (by decide) (by decide)
  obtain ⟨routine, hRead, hValues, -⟩ :=
    hSource { lang := .c, harness := true } _ rfl (Word.wrap 26188824) (by decide) (by decide)
  exact ⟨⟨results, r, hEvaluates, hResults, hValue⟩, _, rfl, rfl, routine, hRead, hValues⟩

end Product

end Multiplierless
