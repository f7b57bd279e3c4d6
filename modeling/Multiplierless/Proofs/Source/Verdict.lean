import Multiplierless.Proofs.Quoting
import Multiplierless.Proofs.Source.Name

/-!
The verdict of an emission. The conditions are on the shifts, on the constant and on the
characters of the parameter's name, and each of them has an error of its own. Main
statement: the source is given when all conditions hold, and otherwise the error of the
first one that fails, in the order in which they are listed. Neither the language nor
the harness has a part in it.
-/

namespace Multiplierless

open Source Multiplierless.Symbol

namespace Symbol

/-- A letter of the ASCII alphabet in either case, or an underscore. -/
def IsLetter (c : Char) : Prop :=
  ('A' ≤ c ∧ c ≤ 'Z') ∨ ('a' ≤ c ∧ c ≤ 'z') ∨ c = '_'

def IsLetterOrDigit (c : Char) : Prop :=
  IsLetter c ∨ ('0' ≤ c ∧ c ≤ '9')

/-- A letter and then any number of letters and digits. -/
def IsIdentifier (symbol : String) : Prop :=
  ∃ first rest, symbol.toList = first :: rest ∧ IsLetter first ∧ ∀ c ∈ rest, IsLetterOrDigit c

/-- The name of a temporary that the sequence writes. -/
def IsTaken (s : Sequence) (symbol : String) : Prop :=
  ∃ index : UInt8, (∃ step ∈ s.steps, step.dst = .temp index) ∧
    symbol = "t" ++ Decimal.ofNat index.toNat

/-- What is wrong with a name. A taken name is an identifier, so no name has two flaws. -/
inductive Flawed (s : Sequence) (symbol : String) : SymbolFlaw → Prop
  | empty (hEmpty : symbol = "") : Flawed s symbol .empty
  | badStart {c : Char} {rest : List Char} (hSymbol : symbol.toList = c :: rest)
      (hStart : ¬IsLetter c) : Flawed s symbol (.badStart c)
  | badCharacter {first c : Char} {before after : List Char}
      (hSymbol : symbol.toList = first :: (before ++ c :: after)) (hStart : IsLetter first)
      (hBefore : ∀ d ∈ before, IsLetterOrDigit d) (hBad : ¬IsLetterOrDigit c) :
      Flawed s symbol (.badCharacter c)
  | taken (hTaken : IsTaken s symbol) : Flawed s symbol .taken

theorem startsName_iff {c : Char} : startsName c = true ↔ IsLetter c := by
  have hAlpha : c.isAlpha =
      (decide ('A' ≤ c ∧ c ≤ 'Z') || decide ('a' ≤ c) && decide (c ≤ 'z')) := rfl
  simp [startsName, hAlpha, IsLetter, or_assoc]

theorem continuesName_iff {c : Char} : continuesName c = true ↔ IsLetterOrDigit c := by
  have hAlphanum : c.isAlphanum = (c.isAlpha || decide ('0' ≤ c) && decide (c ≤ '9')) := rfl
  rw [IsLetterOrDigit, ← startsName_iff]
  simp [continuesName, startsName, hAlphanum, or_right_comm]

/-- The check of names takes the identifiers, whose characters are given as ranges. -/
theorem isName_iff {symbol : String} : isName symbol = true ↔ IsIdentifier symbol := by
  unfold isName IsIdentifier
  cases symbol.toList with
  | nil => simp
  | cons c rest =>
      simp only [Bool.and_eq_true, List.all_eq_true, startsName_iff, continuesName_iff]
      constructor
      · intro hName
        exact ⟨c, rest, rfl, hName⟩
      · rintro ⟨first, others, hSymbol, hName⟩
        obtain ⟨hFirst, hOthers⟩ := List.cons.inj hSymbol
        rw [hFirst, hOthers]
        exact hName

/-- The search for a character that no name has stops at the first one. -/
theorem find?_eq_some_iff {chars : List Char} {c : Char} :
    chars.find? (fun d => !continuesName d) = some c ↔
      ¬IsLetterOrDigit c ∧
        ∃ before after, chars = before ++ c :: after ∧ ∀ d ∈ before, IsLetterOrDigit d := by
  simp [List.find?_eq_some_iff_append, ← continuesName_iff]

theorem isTaken_iff {s : Sequence} {symbol : String} :
    IsTaken s symbol ↔ ∃ step ∈ s.steps, step.dst.text = symbol := by
  constructor
  · rintro ⟨index, ⟨step, hStep, hDst⟩, hName⟩
    exact ⟨step, hStep, hDst ▸ hName.symm⟩
  · rintro ⟨step, hStep, hName⟩
    cases hDst : step.dst with
    | input => exact absurd hDst (s.defined.dst_ne_input step hStep)
    | temp index =>
        rw [hDst] at hName
        exact ⟨index, ⟨step, hStep, hDst⟩, hName.symm⟩

theorem any_temporaries_iff {s : Sequence} {symbol : String} :
    (s.temporaries.any fun x => x.text = symbol) = true ↔ IsTaken s symbol := by
  simp [isTaken_iff, Sequence.mem_temporaries]

theorem IsTaken.isIdentifier {s : Sequence} {symbol : String} (hTaken : IsTaken s symbol) :
    IsIdentifier symbol := by
  obtain ⟨step, -, hName⟩ := isTaken_iff.mp hTaken
  rw [← isName_iff, ← hName]
  exact Operand.isName_text step.dst

/-- Whatever is wrong with a name is what the check reports. -/
theorem Flawed.flaw?_eq {s : Sequence} {symbol : String} {flaw : SymbolFlaw}
    (hFlawed : Flawed s symbol flaw) : flaw? s.temporaries symbol = some flaw := by
  cases hFlawed with
  | empty hEmpty =>
      rw [hEmpty]
      rfl
  | badStart hSymbol hStart => simp [flaw?, hSymbol, startsName_iff, hStart]
  | @badCharacter first c before after hSymbol hStart hBefore hBad =>
      have hFind := find?_eq_some_iff.mpr ⟨hBad, before, after, rfl, hBefore⟩
      simp [flaw?, hSymbol, startsName_iff, hStart, hFind]
  | taken hTaken =>
      -- The comparison with the temporaries is reached, because their names are identifiers.
      obtain ⟨first, rest, hSymbol, hStart, hRest⟩ := hTaken.isIdentifier
      have hFind : rest.find? (fun d => !continuesName d) = none := by
        simpa [List.find?_eq_none, continuesName_iff] using hRest
      simp only [flaw?, hSymbol, startsName_iff, hStart, hFind, any_temporaries_iff, hTaken, if_true]

/-- What the check reports is wrong with the name. -/
theorem flawed_of_flaw? {s : Sequence} {symbol : String} {flaw : SymbolFlaw}
    (hFlaw : flaw? s.temporaries symbol = some flaw) : Flawed s symbol flaw := by
  unfold flaw? at hFlaw
  split at hFlaw
  · next hSymbol =>
      rw [← Option.some.inj hFlaw]
      exact .empty (String.toList_eq_nil_iff.mp hSymbol)
  · next first rest hSymbol =>
      split at hFlaw
      · next hStart =>
          split at hFlaw
          · next c hFind =>
              obtain ⟨hBad, before, after, hRest, hBefore⟩ := find?_eq_some_iff.mp hFind
              rw [← Option.some.inj hFlaw]
              exact .badCharacter (hRest ▸ hSymbol) (startsName_iff.mp hStart) hBefore hBad
          · split at hFlaw
            · next hAny =>
                rw [← Option.some.inj hFlaw]
                exact .taken (any_temporaries_iff.mp hAny)
            · exact absurd hFlaw (by simp)
      · next hStart =>
          rw [← Option.some.inj hFlaw]
          exact .badStart hSymbol (mt startsName_iff.mpr hStart)

end Symbol

namespace Sequence

theorem constant_eq_multiplier_iff {s : Sequence} :
    s.constant = multiplier.resize ↔ s.constant.value = -82 := by
  have hValue : (multiplier.resize : Word Check.widestBits).value = -82 := by decide
  rw [← hValue]
  exact ⟨congrArg Word.value, Word.value_injective⟩

end Sequence

namespace Emitter

/-- What an emission is refused with. Each case asks that those before it do not
apply. -/
inductive Refused (symbol : String) (s : Sequence) : EmitError → Prop
  | shiftOutOfRange {index : Nat} {amount : UInt32}
      (hFirst : Check.FirstWide 32 s.steps index amount) :
      Refused symbol s (.sequence (.shiftOutOfRange index amount 32))
  | factorMismatch (hFits : Check.Fits 32 s.steps) (hConstant : s.constant.value ≠ -82) :
      Refused symbol s (.sequence (.factorMismatch (-82) s.constant.value))
  | badSymbol {flaw : SymbolFlaw} (hFits : Check.Fits 32 s.steps)
      (hConstant : s.constant.value = -82) (hFlawed : Symbol.Flawed s symbol flaw) :
      Refused symbol s (.badSymbol symbol flaw)

variable {e : Emitter} {s : Sequence}

theorem check_of_invalid {cause : SequenceError}
    (hValidate : s.validate routineBits multiplier = .error cause) :
    e.check s = .error (.sequence cause) := by
  rw [check, hValidate]

/-- For a sequence that multiplies by -82 the name decides. -/
theorem check_of_valid (hFits : Check.Fits 32 s.steps) (hConstant : s.constant.value = -82) :
    e.check s = (flaw? s.temporaries e.symbol).elim (.ok ())
      fun flaw => .error (.badSymbol e.symbol flaw) := by
  have hValid : s.validate routineBits multiplier = .ok () :=
    (Sequence.validate_eq_ok_iff s).mpr
      ⟨hFits, Sequence.constant_eq_multiplier_iff.mpr hConstant⟩
  rw [check, hValid]
  cases flaw? s.temporaries e.symbol <;> rfl

/-- The error that the conditions call for is the one that the check gives. -/
theorem Refused.check_eq {cause : EmitError} (hRefused : Refused e.symbol s cause) :
    e.check s = .error cause := by
  cases hRefused with
  | shiftOutOfRange hFirst =>
      apply check_of_invalid
      have hWidth : s.checkWidth routineBits = _ := hFirst.width_eq
      rw [Sequence.validate, hWidth]
      rfl
  | factorMismatch hFits hConstant =>
      apply check_of_invalid
      have hFits : Check.Fits routineBits s.steps := hFits
      rw [Sequence.validate_of_fits s hFits,
        if_neg (mt Sequence.constant_eq_multiplier_iff.mp hConstant)]
      rfl
  | badSymbol hFits hConstant hFlawed =>
      rw [check_of_valid hFits hConstant, hFlawed.flaw?_eq]
      rfl

/-- An error of the check is the one that the conditions call for. -/
theorem refused_of_check {cause : EmitError} (hCheck : e.check s = .error cause) :
    Refused e.symbol s cause := by
  by_cases hFits : Check.Fits 32 s.steps
  · by_cases hConstant : s.constant.value = -82
    · rw [check_of_valid hFits hConstant] at hCheck
      cases hFlaw : flaw? s.temporaries e.symbol with
      | none => exact absurd hCheck (by simp [hFlaw])
      | some flaw =>
          rw [hFlaw] at hCheck
          rw [← Except.error.inj hCheck]
          exact .badSymbol hFits hConstant (flawed_of_flaw? hFlaw)
    · have hRefused : Refused e.symbol s _ := .factorMismatch hFits hConstant
      rw [← Except.error.inj (hRefused.check_eq.symm.trans hCheck)]
      exact hRefused
  · obtain ⟨index, amount, hFirst, -⟩ := Sequence.checkWidth_of_not_fits hFits
    have hRefused : Refused e.symbol s _ := .shiftOutOfRange hFirst
    rw [← Except.error.inj (hRefused.check_eq.symm.trans hCheck)]
    exact hRefused

/-- Soundness with its conditions written out. -/
theorem sound_iff :
    e.Sound s ↔ Check.Fits 32 s.steps ∧ s.constant.value = -82 ∧
      Symbol.IsIdentifier e.symbol ∧ ¬Symbol.IsTaken s e.symbol := by
  rw [← Sequence.constant_eq_multiplier_iff, ← isName_iff, isTaken_iff]
  constructor
  · rintro ⟨hFits, hConstant, hName, hFresh⟩
    refine ⟨hFits, hConstant, hName, ?_⟩
    rintro ⟨step, hStep, hText⟩
    exact hFresh step hStep hText
  · rintro ⟨hFits, hConstant, hName, hFresh⟩
    exact ⟨hFits, hConstant, hName, fun step hStep hText => hFresh ⟨step, hStep, hText⟩⟩

/-- Emission succeeds under four conditions and otherwise says which of them failed
first. There is one text for each reason to refuse a name, with the character in it
where one is at fault, and it tells the flaw apart from all others. Reserved words are not looked for: they pass as identifiers. -/
theorem render_decides (e : Emitter) (s : Sequence) :
    ((∃ text, e.render s = .ok text) ↔
      Check.Fits 32 s.steps ∧ s.constant.value = -82 ∧
        Symbol.IsIdentifier e.symbol ∧ ¬Symbol.IsTaken s e.symbol) ∧
    (∀ cause, e.render s = .error cause ↔ Refused e.symbol s cause) ∧
    (SymbolFlaw.empty.reason = "empty" ∧
      (∀ c, (SymbolFlaw.badStart c).reason = "cannot start with " ++ Text.quotedChar c) ∧
      (∀ c, (SymbolFlaw.badCharacter c).reason = "contains " ++ Text.quotedChar c) ∧
      SymbolFlaw.taken.reason = "collides with a temporary") ∧
    Function.Injective SymbolFlaw.reason ∧
    ∀ (lang : Language) (harness : Bool),
      (Emitter.render ⟨lang, harness, e.symbol⟩ s).map (fun _ => ()) =
        (e.render s).map (fun _ => ()) := by
  refine ⟨?_, ?_, ⟨rfl, fun _ => rfl, fun _ => rfl, rfl⟩, SymbolFlaw.reason_injective, ?_⟩
  · rw [← sound_iff]
    simp [render_eq_ok_iff]
  · intro cause
    rw [render_eq_error_iff]
    exact ⟨refused_of_check, Refused.check_eq⟩
  · intro lang harness
    -- The check looks at the symbol only, so both sides are the same check.
    have hCheck : Emitter.check ⟨lang, harness, e.symbol⟩ s = e.check s := rfl
    rw [render_eq_map_check, render_eq_map_check, hCheck]
    cases e.check s <;> rfl

-- A name is compared as it is written: these numbers are not those of a temporary.
example : flaw? Sequence.neg82.temporaries "t1" = some .taken ∧
    flaw? Sequence.neg82.temporaries "t01" = none ∧
    flaw? Sequence.neg82.temporaries "t256" = none := by decide

end Emitter

end Multiplierless
