import Multiplierless.Proofs.Dataflow
import Multiplierless.Proofs.Source.Token
import Multiplierless.Proofs.Temporaries
import Multiplierless.Proofs.Validation
import Multiplierless.Source.Emission

/-!
Names in a routine. Different temporaries have different names, and a parameter that
passes its check has none of theirs. Main statement: emission takes exactly the
sequences that are multiplication by -82 at 32 bits together with such a parameter,
and then gives the source.
-/

namespace Multiplierless

open Source Source.Token Multiplierless.Symbol

theorem Symbol.continuesName_of_startsName {c : Char} (hStart : startsName c = true) :
    continuesName c = true := by
  rw [startsName, Bool.or_eq_true] at hStart
  rw [continuesName, Char.isAlphanum, Bool.or_eq_true, Bool.or_eq_true]
  rcases hStart with hAlpha | hUnderscore
  · exact .inl (.inl hAlpha)
  · exact .inr hUnderscore

theorem Symbol.continuesName_of_isDigit {c : Char} (hDigit : c.isDigit = true) :
    continuesName c = true := by
  simp [continuesName, Char.isAlphanum, hDigit]

theorem Source.isWord_of_isName {text : String} (hName : isName text = true) : IsWord text := by
  unfold isName at hName
  unfold IsWord
  cases hList : text.toList with
  | nil => simp [hList] at hName
  | cons c rest =>
      rw [hList, Bool.and_eq_true, List.all_eq_true] at hName
      refine ⟨by simp, ?_⟩
      intro d hd
      rcases List.mem_cons.mp hd with hHead | hRest
      · rw [hHead]
        exact continuesName_of_startsName hName.1
      · exact hName.2 d hRest

namespace Decimal

theorem continuesName_of_mem_ofNat {n : Nat} {c : Char} (hMem : c ∈ (ofNat n).toList) :
    continuesName c = true := by
  rw [toList_ofNat] at hMem
  exact continuesName_of_isDigit (Nat.isDigit_of_mem_toDigits (by decide) (by decide) hMem)

theorem isWord_ofNat (n : Nat) : IsWord (ofNat n) := by
  refine ⟨?_, fun _ hMem => continuesName_of_mem_ofNat hMem⟩
  rw [toList_ofNat]
  exact Nat.toDigits_ne_nil

theorem ofNat_injective {m n : Nat} (hText : ofNat m = ofNat n) : m = n := by
  have hDigits := digits?_ofNat m
  rw [hText, digits?_ofNat] at hDigits
  exact (Option.some.inj hDigits).symm

end Decimal

namespace Operand

theorem isName_text (x : Operand) : isName x.text = true := by
  cases x with
  | input => decide
  | temp index =>
      have hList : (temp index).text.toList = 't' :: (Decimal.ofNat index.toNat).toList := by
        simp [text]
      simp only [isName, hList, Bool.and_eq_true, List.all_eq_true]
      exact ⟨by decide, fun c hMem => Decimal.continuesName_of_mem_ofNat hMem⟩

theorem temp_text_injective {first second : UInt8}
    (hText : (temp first).text = (temp second).text) : first = second := by
  apply UInt8.toNat_inj.mp
  apply Decimal.ofNat_injective
  exact String.append_right_inj "t" |>.mp hText

theorem text_temp_ne_input (index : UInt8) : (temp index).text ≠ input.text := by
  intro hText
  have hLetters := congrArg String.toList hText
  simp [text] at hLetters

/-- Different operands have different names. -/
theorem text_injective : Function.Injective text := by
  intro x y hText
  cases x with
  | input =>
      cases y with
      | input => rfl
      | temp index => exact absurd hText.symm (text_temp_ne_input index)
  | temp first =>
      cases y with
      | input => exact absurd hText (text_temp_ne_input first)
      | temp second => rw [temp_text_injective hText]

end Operand

/-- The check of a name passes the identifiers that no assigned operand has as its name. -/
theorem Symbol.flaw?_eq_none_iff (assigned : List Operand) (symbol : String) :
    flaw? assigned symbol = none ↔ isName symbol = true ∧ ∀ x ∈ assigned, x.text ≠ symbol := by
  unfold flaw? isName
  cases symbol.toList with
  | nil => simp
  | cons c rest =>
      cases hStart : startsName c with
      | false => simp [hStart]
      | true =>
          cases hFind : rest.find? (fun c => !continuesName c) with
          | some d =>
              have hMem := List.mem_of_find?_eq_some hFind
              have hApart : continuesName d = false := by simpa using List.find?_some hFind
              simp only [hStart, hFind, if_true, reduceCtorEq, Bool.true_and, false_iff, not_and]
              intro hAll
              rw [List.all_eq_true.mp hAll d hMem] at hApart
              exact absurd hApart (by simp)
          | none =>
              have hAll : rest.all continuesName = true := by
                simpa [List.find?_eq_none, List.all_eq_true] using hFind
              simp [hStart, hFind, hAll]

namespace Emitter

/-- What emission asks of a sequence and a parameter. -/
structure Sound (e : Emitter) (s : Sequence) : Prop where
  fits : Check.Fits routineBits s.steps
  constant : s.constant = multiplier.resize
  symbol : isName e.symbol = true
  fresh : ∀ step ∈ s.steps, step.dst.text ≠ e.symbol

/-- The checks before an emission ask for a sound pair of sequence and parameter, and for
nothing else. -/
theorem check_eq_ok_iff {e : Emitter} {s : Sequence} : e.check s = .ok () ↔ e.Sound s := by
  have hFresh : (∀ x ∈ s.temporaries, x.text ≠ e.symbol) ↔
      ∀ step ∈ s.steps, step.dst.text ≠ e.symbol := by
    simp [Sequence.mem_temporaries]
  constructor
  · intro hCheck
    unfold check at hCheck
    split at hCheck
    · exact absurd hCheck (by simp)
    · next hValid =>
        split at hCheck
        · exact absurd hCheck (by simp)
        · next hFlaw =>
            obtain ⟨hFits, hConstant⟩ := (Sequence.validate_eq_ok_iff s).mp hValid
            obtain ⟨hName, hOther⟩ := (flaw?_eq_none_iff _ _).mp hFlaw
            exact ⟨hFits, hConstant, hName, hFresh.mp hOther⟩
  · intro hSound
    have hValid := (Sequence.validate_eq_ok_iff s).mpr ⟨hSound.fits, hSound.constant⟩
    have hFlaw := (flaw?_eq_none_iff s.temporaries e.symbol).mpr
      ⟨hSound.symbol, hFresh.mpr hSound.fresh⟩
    simp [check, hValid, hFlaw]

/-- There is a source just when the pair is sound, and then it is the text of the lines. -/
theorem render_eq_ok_iff {e : Emitter} {s : Sequence} {text : String} :
    e.render s = .ok text ↔ e.Sound s ∧ e.source s = text := by
  rw [← check_eq_ok_iff]
  unfold render
  split
  · next hCheck => simp [hCheck]
  · next hCheck => simp [hCheck]

/-- Rendering adds the text to what the check says. -/
theorem render_eq_map_check (e : Emitter) (s : Sequence) :
    e.render s = (e.check s).map fun _ => e.source s := by
  rw [render]
  cases e.check s <;> rfl

theorem render_eq_error_iff {e : Emitter} {s : Sequence} {cause : EmitError} :
    e.render s = .error cause ↔ e.check s = .error cause := by
  rw [render_eq_map_check]
  cases e.check s <;> simp [Except.map]

variable {e : Emitter} {s : Sequence}

theorem Sound.isName_name (hSound : e.Sound s) (x : Operand) : isName (e.name x) = true := by
  cases x with
  | input => exact hSound.symbol
  | temp index => exact Operand.isName_text (.temp index)

theorem Sound.isWord_name (hSound : e.Sound s) (x : Operand) : IsWord (e.name x) :=
  isWord_of_isName (hSound.isName_name x)

/-- No other operand has the name of one that is written. -/
theorem Sound.eq_dst_of_name (hSound : e.Sound s) {step : Step} (hStep : step ∈ s.steps)
    (x : Operand) (hName : e.name x = e.name step.dst) : x = step.dst := by
  have hFresh := hSound.fresh step hStep
  cases hDst : step.dst with
  | input => exact absurd hDst (s.defined.dst_ne_input step hStep)
  | temp index =>
      rw [hDst] at hName hFresh
      cases x with
      | input => exact absurd hName.symm hFresh
      | temp other => rw [Operand.temp_text_injective hName]

end Emitter

end Multiplierless
