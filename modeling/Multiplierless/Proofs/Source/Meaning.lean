import Mathlib.Data.List.Nodup
import Multiplierless.Proofs.Source.ReadBack

/-!
What emitted source computes. The text is read back and called on numbers of the
language: words of 32 bits, or integers without bounds. Main statements: on words
every emitted routine is multiplication by -82; on integers it is multiplication by
the exact multiple of the sequence. The validator knows that multiple modulo `2^128`
only, so on integers the routine may be off by a power of two.
-/

namespace Multiplierless.Emitter

open Source

variable {e : Emitter} {s : Sequence}

/-- Every call has an answer, so no name is read before it is bound. -/
theorem Sound.call_words (hSound : e.Sound s) (n : Word 32) :
    (e.routineOf s).call (.words 32) n = some (Product.direct n) := by
  have hFits : Check.Fits 32 s.steps := hSound.fits
  have hCall := call_ofSequence (Arithmetic.carries_words n.value) hFits
    (fun step hStep => hSound.eq_dst_of_name hStep) (e.declaredNames s) e.assertionsOf
  have hConstant := hSound.constant
  rw [Sequence.constant_eq, Word.resize] at hConstant
  rw [Int.one_mul, Word.wrap_value, Word.wrap_mul_congr (by decide) hConstant,
    ← Word.mul_resize] at hCall
  exact hCall

theorem Sound.call_integers (hSound : e.Sound s) (n : Int) :
    (e.routineOf s).call .integers n = some (s.multiple * n) := by
  have hCall := call_ofSequence (Arithmetic.carries_integers routineBits n) hSound.fits
    (fun step hStep => hSound.eq_dst_of_name hStep) (e.declaredNames s) e.assertionsOf
  rwa [Int.one_mul] at hCall

/-- A sound sequence is multiplication by -82 up to a multiple of `2^128`. -/
theorem Sound.dvd_multiple (hSound : e.Sound s) : (2 ^ 128 : Int) ∣ s.multiple - -82 := by
  have hConstant := hSound.constant
  rw [Sequence.constant_eq, Word.resize] at hConstant
  exact (Word.wrap_eq_wrap_iff _ _).mp hConstant

/-- Assignments are to declared names, each of them declared once. -/
theorem Sound.count_declaredNames (hSound : e.Sound s) (hLang : e.lang = .c) {step : Step}
    (hStep : step ∈ s.steps) : (e.declaredNames s).count (e.name step.dst) = 1 := by
  have hMem : step.dst ∈ s.temporaries :=
    Sequence.mem_temporaries.mpr (List.mem_map_of_mem hStep)
  have hNodup : (s.temporaries.map e.name).Nodup := by
    refine s.nodup_temporaries.map_on ?_
    intro x _ y hy hName
    obtain ⟨other, hOther, hDst⟩ := List.mem_map.mp (Sequence.mem_temporaries.mp hy)
    rw [← hDst] at hName ⊢
    exact hSound.eq_dst_of_name hOther x hName
  rw [declaredNames, hLang]
  exact List.count_eq_one_of_mem hNodup (List.mem_map_of_mem hMem)

theorem input_assertionsOf (e : Emitter) :
    e.assertionsOf.map Assertion.input = if e.harness then [1, 2, 3, 4, 5, 6] else [] := by
  unfold assertionsOf
  cases e.harness <;> rfl

/-- The inputs of the assertions and their products fit 32 bits. -/
theorem literal_of_mem_harnessInputs :
    ∀ k ∈ harnessInputs, Word.ofInt? k = some (Word.wrap k : Word 32) ∧
      Word.ofInt? (k * multiplier.value) = some (Product.direct (Word.wrap k : Word 32)) := by
  decide

theorem mem_assertionsOf {a : Assertion} (hMem : a ∈ e.assertionsOf) :
    ∃ k ∈ harnessInputs, assertionOf k = a := by
  unfold assertionsOf at hMem
  split at hMem
  · exact List.mem_map.mp hMem
  · exact absurd hMem (by simp)

theorem pos_of_mem_harnessInputs : ∀ k ∈ harnessInputs, 0 < k := by
  decide

/-- One assertion about an input other than zero tells whether the multiple is right. -/
theorem Sound.holds_integers_iff (hSound : e.Sound s) {k : Nat} (hk : 0 < k) :
    (assertionOf k).Holds .integers (e.routineOf s) ↔ s.multiple = -82 := by
  have hMultiplier : multiplier.value = -82 := by decide
  have hNonzero : (k : Int) ≠ 0 := by omega
  constructor
  · rintro ⟨n, v, hInput, hExpected, hCall⟩
    have hn : (k : Int) = n := Option.some.inj hInput
    have hv : k * multiplier.value = v := Option.some.inj hExpected
    rw [← hn, ← hv, hSound.call_integers, hMultiplier, Int.mul_comm (k : Int)] at hCall
    exact Int.eq_of_mul_eq_mul_right hNonzero (Option.some.inj hCall)
  · intro hMultiple
    refine ⟨k, k * multiplier.value, rfl, rfl, ?_⟩
    rw [hSound.call_integers, hMultiple, hMultiplier, Int.mul_comm]

/-- Source for words of 32 bits, read as assignments over names, multiplies by -82 as
the direct product and the sequence itself do. Where names have to be declared, they
are, once each. All assertions in the text are true of the routine. -/
theorem source_multiplies_on_words {text : String} (hRender : e.render s = .ok text) :
    ∃ r, Source.read? e.lang text = some r ∧ r.parameter = e.symbol ∧ r.body.length = s.length ∧
      (∀ n : Word 32, r.call (.words 32) n = some (Product.direct n) ∧
        s.eval n = .ok (Product.direct n)) ∧
      (e.lang = .c → ∀ a ∈ r.body,
        r.declared.count a.target = 1 ∧ a.target ≠ r.parameter) ∧
      r.assertions.map Assertion.input = (if e.harness then [1, 2, 3, 4, 5, 6] else []) ∧
      ∀ a ∈ r.assertions, a.Holds (.words 32) r := by
  obtain ⟨hSound, hText⟩ := render_eq_ok_iff.mp hRender
  refine ⟨e.routineOf s, hText ▸ read?_source hSound, rfl, List.length_map .., ?_, ?_,
    input_assertionsOf e, ?_⟩
  · intro n
    exact ⟨hSound.call_words n, Sequence.eval_of_constant (w := .w32) hSound.constant hSound.fits n⟩
  · intro hC a ha
    obtain ⟨step, hStep, hAssignment⟩ := List.mem_map.mp ha
    rw [← hAssignment]
    refine ⟨hSound.count_declaredNames hC hStep, ?_⟩
    intro hParameter
    have hInput := hSound.eq_dst_of_name hStep .input hParameter.symm
    exact s.defined.dst_ne_input step hStep hInput.symm
  · intro a ha
    obtain ⟨k, hk, hAssertion⟩ := mem_assertionsOf ha
    obtain ⟨hInput, hExpected⟩ := literal_of_mem_harnessInputs k hk
    rw [← hAssertion]
    exact ⟨_, _, hInput, hExpected, hSound.call_words _⟩

/-- The parameter is named like a temporary that the sequence does not have. -/
theorem source_multiplies_on_words_neg82 :
    ∃ e : Emitter, e = { lang := .c, harness := true, symbol := "t8" } ∧
      e.render .neg82 = .ok (e.source .neg82) ∧
      ∃ r, Source.read? .c (e.source .neg82) = some r ∧ r.parameter = "t8" ∧
        r.call (.words 32) (Word.wrap 3) = some (Word.wrap (-246)) ∧
        ∀ a ∈ r.assertions, a.Holds (.words 32) r := by
  obtain ⟨r, hRead, hParameter, -, hCall, -, -, hAssertions⟩ := source_multiplies_on_words
    (e := { lang := .c, harness := true, symbol := "t8" }) (s := .neg82) rfl
  exact ⟨_, rfl, rfl, r, hRead, hParameter, (hCall (Word.wrap 3)).1, hAssertions⟩

/-- On integers the source is exact just when the multiple of the sequence is. The
same holds of each assertion in the text. -/
theorem source_exact_on_integers_iff {text : String} (hRender : e.render s = .ok text) :
    ∃ r, Source.read? e.lang text = some r ∧ r.parameter = e.symbol ∧ r.body.length = s.length ∧
      (∀ n : Int, r.call .integers n = some (s.multiple * n)) ∧
      (2 ^ 128 : Int) ∣ s.multiple - -82 ∧
      ((∀ n : Int, r.call .integers n = some (-82 * n)) ↔ s.multiple = -82) ∧
      r.assertions.map Assertion.input = (if e.harness then [1, 2, 3, 4, 5, 6] else []) ∧
      ∀ a ∈ r.assertions, a.Holds .integers r ↔ s.multiple = -82 := by
  obtain ⟨hSound, hText⟩ := render_eq_ok_iff.mp hRender
  refine ⟨e.routineOf s, hText ▸ read?_source hSound, rfl, List.length_map .., hSound.call_integers,
    hSound.dvd_multiple, ?_, input_assertionsOf e, ?_⟩
  · constructor
    · intro hExact
      have hOne := (hSound.call_integers 1).symm.trans (hExact 1)
      simpa using hOne
    · intro hMultiple n
      rw [hSound.call_integers n, hMultiple]
  · intro a ha
    obtain ⟨k, hk, hAssertion⟩ := mem_assertionsOf ha
    rw [← hAssertion]
    exact hSound.holds_integers_iff (pos_of_mem_harnessInputs k hk)

theorem source_exact_on_integers_neg82 :
    ∃ e : Emitter, e = { lang := .python, harness := true, symbol := "x" } ∧
      e.render .neg82 = .ok (e.source .neg82) ∧
      ∃ r, Source.read? .python (e.source .neg82) = some r ∧ r.parameter = "x" ∧
        (∀ n : Int, r.call .integers n = some (-82 * n)) ∧
        ∀ a ∈ r.assertions, a.Holds .integers r := by
  obtain ⟨r, hRead, hParameter, -, -, -, hExact, -, hAssertions⟩ := source_exact_on_integers_iff
    (e := { lang := .python, harness := true, symbol := "x" }) (s := .neg82) rfl
  have hMultiple : Sequence.neg82.multiple = -82 := by decide
  exact ⟨_, rfl, rfl, r, hRead, hParameter, hExact.mpr hMultiple,
    fun a ha => (hAssertions a ha).mpr hMultiple⟩

/-- The seven steps, and after them the input shifted by 128 places is taken away from
their result. No single shift is by 32 or more. -/
def neg82LessPower : Sequence :=
  ⟨Sequence.neg82Steps ++
    [.shl (.temp 8) .input 31,
     .shl (.temp 8) (.temp 8) 31,
     .shl (.temp 8) (.temp 8) 31,
     .shl (.temp 8) (.temp 8) 31,
     .shl (.temp 8) (.temp 8) 4,
     .sub (.temp 9) (.temp 7) (.temp 8)], rfl⟩

/-- The validator cannot tell the power from zero, and the emitted routine on integers
is off by it, in its own assertions too. -/
theorem source_inexact_on_integers :
    ∃ e : Emitter, e = { lang := .python, harness := true } ∧
      e.render neg82LessPower = .ok (e.source neg82LessPower) ∧
      ∃ r, Source.read? .python (e.source neg82LessPower) = some r ∧
        r.call .integers 1 = some (-82 - 2 ^ 128) ∧ r.call .integers 1 ≠ some (-82 * 1) ∧
        r.assertions.length = 6 ∧ ∀ a ∈ r.assertions, ¬a.Holds .integers r := by
  have hSound : ({ lang := .python, harness := true } : Emitter).Sound neg82LessPower :=
    check_eq_ok_iff.mp rfl
  have hMultiple : neg82LessPower.multiple = -82 - 2 ^ 128 := by decide
  have hCall := hSound.call_integers 1
  rw [hMultiple, Int.mul_one] at hCall
  have hRead := read?_source hSound
  refine ⟨{ lang := .python, harness := true }, rfl, render_eq_ok_iff.mpr ⟨hSound, rfl⟩,
    Emitter.routineOf { lang := .python, harness := true } neg82LessPower, hRead, hCall,
    ?_, rfl, ?_⟩
  · rw [hCall]
    decide
  · intro a ha hHolds
    obtain ⟨k, hk, hAssertion⟩ :=
      mem_assertionsOf (e := { lang := .python, harness := true }) ha
    rw [← hAssertion, hSound.holds_integers_iff (pos_of_mem_harnessInputs k hk), hMultiple] at hHolds
    exact absurd hHolds (by decide)

end Multiplierless.Emitter
