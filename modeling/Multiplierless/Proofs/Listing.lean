import Multiplierless.Proofs.Source.Name

/-!
Listings of steps. A listing has one line for each step, `d = s << k` or `d = l - r`, and
every line ends with a newline. The grammar is given first and says nothing about printing;
numbers in it may have leading zeros. The reader cuts the text at newlines and the lines at
blanks. Main statement: it takes exactly the texts of the grammar, and it gives back every
list of steps that was printed, whether a sequence can be built from the list or not.
-/

namespace Multiplierless.Listing

open Source Source.Token Multiplierless.Symbol

/-- One or more digits that stand for the number. -/
structure Numeral (source : String) (n : Nat) : Prop where
  nonempty : source.toList ≠ []
  digits : ∀ c ∈ source.toList, c.isDigit = true
  value : Nat.ofDigitChars 10 source.toList 0 = n

/-- The input is a letter, a temporary a letter and the number of its index. -/
inductive SpellsOperand : String → Operand → Prop
  | input : SpellsOperand "n" .input
  | temp {digits : String} {index : UInt8} (hIndex : Numeral digits index.toNat) :
      SpellsOperand ("t" ++ digits) (.temp index)

inductive SpellsStep : String → Step → Prop
  | shl {d s k : String} {dst src : Operand} {amount : UInt32} (hDst : SpellsOperand d dst)
      (hSrc : SpellsOperand s src) (hAmount : Numeral k amount.toNat) :
      SpellsStep (d ++ " = " ++ s ++ " << " ++ k) (.shl dst src amount)
  | sub {d l r : String} {dst lhs rhs : Operand} (hDst : SpellsOperand d dst)
      (hLeft : SpellsOperand l lhs) (hRight : SpellsOperand r rhs) :
      SpellsStep (d ++ " = " ++ l ++ " - " ++ r) (.sub dst lhs rhs)

/-- The lines of the steps in order, the last one ended like the others. -/
inductive Spells : String → List Step → Prop
  | nil : Spells "" []
  | cons {line rest : String} {step : Step} {steps : List Step} (hLine : SpellsStep line step)
      (hRest : Spells rest steps) : Spells (line ++ "\n" ++ rest) (step :: steps)

/-- Reads a number that has to be below the bound. -/
def below? (bound : Nat) (chars : List Char) : Option Nat :=
  (Decimal.digits? chars).filter (· < bound)

def operand? : List Char → Option Operand
  | ['n'] => some .input
  | 't' :: digits => (below? UInt8.size digits).map fun index => .temp (UInt8.ofNat index)
  | _ => none

/-- Reads a line from its words. Two blanks in a row have an empty word between them, which
no line has. -/
def step? (line : List Char) : Option Step :=
  match line.splitOn ' ' with
  | [d, ['='], s, ['<', '<'], k] => do
      let dst ← operand? d
      let src ← operand? s
      let amount ← below? UInt32.size k
      some (.shl dst src (UInt32.ofNat amount))
  | [d, ['='], l, ['-'], r] => do
      let dst ← operand? d
      let lhs ← operand? l
      let rhs ← operand? r
      some (.sub dst lhs rhs)
  | _ => none

/-- Reads steps up to the empty line that follows the last newline. -/
def steps? : List (List Char) → Option (List Step)
  | [] => none
  | [[]] => some []
  | line :: rest => do
      let step ← step? line
      let later ← steps? rest
      some (step :: later)

/-- The steps that a listing spells. -/
def read? (text : String) : Option (List Step) :=
  steps? (text.toList.splitOn '\n')

section Operands

theorem digits?_eq_some_iff (source : String) (n : Nat) :
    Decimal.digits? source.toList = some n ↔ Numeral source n := by
  unfold Decimal.digits?
  constructor
  · intro hRead
    split at hRead
    · next hDigits =>
        exact ⟨hDigits.1, List.all_eq_true.mp hDigits.2, Option.some.inj hRead⟩
    · exact absurd hRead (by simp)
  · rintro ⟨hNonempty, hDigits, hValue⟩
    rw [if_pos ⟨hNonempty, List.all_eq_true.mpr hDigits⟩, hValue]

theorem below?_eq_some_iff (bound : Nat) (source : String) (n : Nat) :
    below? bound source.toList = some n ↔ Numeral source n ∧ n < bound := by
  rw [below?, Option.filter_eq_some_iff, digits?_eq_some_iff, decide_eq_true_iff]

/-- The same for characters that are not yet a text. -/
theorem numeral_of_below? {bound n : Nat} {chars : List Char}
    (hRead : below? bound chars = some n) : Numeral (String.ofList chars) n ∧ n < bound := by
  rw [← below?_eq_some_iff, String.toList_ofList]
  exact hRead

/-- The reader of operands takes the names of the grammar and no others. -/
theorem operand?_eq_some_iff (source : String) (x : Operand) :
    operand? source.toList = some x ↔ SpellsOperand source x := by
  constructor
  · intro hRead
    unfold operand? at hRead
    split at hRead
    · next hList =>
        have hSource : source = "n" := String.toList_inj.mp hList
        rw [hSource, ← Option.some.inj hRead]
        exact .input
    · next digits hList =>
        have hSource : source = "t" ++ String.ofList digits := by
          apply String.toList_inj.mp
          simp [hList]
        obtain ⟨index, hIndex, rfl⟩ := Option.map_eq_some_iff.mp hRead
        obtain ⟨hNumeral, hBound⟩ := numeral_of_below? hIndex
        rw [← UInt8.toNat_ofNat_of_lt' hBound] at hNumeral
        rw [hSource]
        exact .temp hNumeral
    · exact absurd hRead (by simp)
  · intro hSpells
    cases hSpells with
    | input => rfl
    | @temp digits index hIndex =>
        have hList : ("t" ++ digits).toList = 't' :: digits.toList := by simp
        have hRead := (below?_eq_some_iff UInt8.size digits _).mpr ⟨hIndex, index.toNat_lt⟩
        rw [hList, operand?, hRead, Option.map_some, UInt8.ofNat_toNat]

theorem spells_of_operand? {chars : List Char} {x : Operand} (hRead : operand? chars = some x) :
    SpellsOperand (String.ofList chars) x := by
  rw [← operand?_eq_some_iff, String.toList_ofList]
  exact hRead

theorem Numeral.isWord {source : String} {n : Nat} (hNumeral : Numeral source n) :
    IsWord source :=
  ⟨hNumeral.nonempty, fun c hMem => continuesName_of_isDigit (hNumeral.digits c hMem)⟩

theorem SpellsOperand.isWord {source : String} {x : Operand} (hSpells : SpellsOperand source x) :
    IsWord source := by
  cases hSpells with
  | input => exact isWord_of_isName (Operand.isName_text .input)
  | temp hIndex =>
      have hLetter : "t".toList.all continuesName = true := by decide
      refine ⟨by simp, ?_⟩
      simp only [String.toList_append, List.forall_mem_append]
      exact ⟨List.all_eq_true.mp hLetter, hIndex.isWord.2⟩

end Operands

section Lines

/-- A line is put together from its words again. -/
theorem eq_of_splitOn {line : String} {d l mark r : List Char}
    (hWords : line.toList.splitOn ' ' = [d, ['='], l, mark, r]) (gap : String)
    (hGap : gap.toList = ' ' :: (mark ++ [' '])) :
    line = String.ofList d ++ " = " ++ String.ofList l ++ gap ++ String.ofList r := by
  have hLine : [' '].intercalate (line.toList.splitOn ' ') = line.toList :=
    List.intercalate_splitOn ' '
  rw [hWords] at hLine
  apply String.toList_inj.mp
  rw [← hLine]
  simp [List.intercalate, hGap]

/-- Words hold no blanks, so a line falls into its five words again. -/
theorem splitOn_line {d l r : String} (hDst : IsWord d) (hLeft : IsWord l) (hRight : IsWord r)
    (gap : String) (mark : List Char) (hGap : gap.toList = ' ' :: (mark ++ [' ']))
    (hMark : ' ' ∉ mark) :
    (d ++ " = " ++ l ++ gap ++ r).toList.splitOn ' ' =
      [d.toList, ['='], l.toList, mark, r.toList] := by
  have hLine : (d ++ " = " ++ l ++ gap ++ r).toList =
      [' '].intercalate [d.toList, ['='], l.toList, mark, r.toList] := by
    simp [List.intercalate, hGap]
  have hBlank : continuesName ' ' = false := by decide
  rw [hLine]
  apply List.splitOn_intercalate
  · simp [hDst.not_mem hBlank, hLeft.not_mem hBlank, hMark, hRight.not_mem hBlank]
  · simp

/-- A line that is read as a step is a line of the grammar. -/
theorem spells_of_step? {line : List Char} {step : Step} (hRead : step? line = some step) :
    SpellsStep (String.ofList line) step := by
  rw [← String.toList_ofList (l := line)] at hRead
  unfold step? at hRead
  split at hRead
  · next d s k hWords =>
      simp only [Option.bind_eq_bind, Option.bind_eq_some_iff, Option.some.injEq] at hRead
      obtain ⟨dst, hDst, src, hSrc, amount, hAmount, rfl⟩ := hRead
      obtain ⟨hNumeral, hBound⟩ := numeral_of_below? hAmount
      rw [← UInt32.toNat_ofNat_of_lt' hBound] at hNumeral
      rw [eq_of_splitOn hWords " << " rfl]
      exact .shl (spells_of_operand? hDst) (spells_of_operand? hSrc) hNumeral
  · next d l r hWords =>
      simp only [Option.bind_eq_bind, Option.bind_eq_some_iff, Option.some.injEq] at hRead
      obtain ⟨dst, hDst, lhs, hLeft, rhs, hRight, rfl⟩ := hRead
      rw [eq_of_splitOn hWords " - " rfl]
      exact .sub (spells_of_operand? hDst) (spells_of_operand? hLeft) (spells_of_operand? hRight)
  · exact absurd hRead (by simp)

/-- A line of the grammar is read as its step. -/
theorem step?_of_spells {line : String} {step : Step} (hSpells : SpellsStep line step) :
    step? line.toList = some step := by
  cases hSpells with
  | @shl d s k dst src amount hDst hSrc hAmount =>
      have hWords := splitOn_line hDst.isWord hSrc.isWord hAmount.isWord " << " ['<', '<'] rfl
        (by decide)
      have hNumber := (below?_eq_some_iff UInt32.size k _).mpr ⟨hAmount, amount.toNat_lt⟩
      rw [← operand?_eq_some_iff] at hDst hSrc
      rw [step?, hWords]
      simp [hDst, hSrc, hNumber]
  | @sub d l r dst lhs rhs hDst hLeft hRight =>
      have hWords := splitOn_line hDst.isWord hLeft.isWord hRight.isWord " - " ['-'] rfl
        (by decide)
      rw [← operand?_eq_some_iff] at hDst hLeft hRight
      rw [step?, hWords]
      simp [hDst, hLeft, hRight]

theorem SpellsStep.newline_not_mem {line : String} {step : Step}
    (hSpells : SpellsStep line step) : '\n' ∉ line.toList := by
  have hNewline : continuesName '\n' = false := by decide
  cases hSpells with
  | shl hDst hSrc hAmount =>
      simp [hDst.isWord.not_mem hNewline, hSrc.isWord.not_mem hNewline,
        hAmount.isWord.not_mem hNewline]
  | sub hDst hLeft hRight =>
      simp [hDst.isWord.not_mem hNewline, hLeft.isWord.not_mem hNewline,
        hRight.isWord.not_mem hNewline]

end Lines

section Texts

/-- The empty line is no step, so a step is never taken for the end. -/
theorem steps?_cons {line : List Char} {step : Step} (hLine : step? line = some step)
    (rest : List (List Char)) : steps? (line :: rest) = (steps? rest).map (step :: ·) := by
  have hNonempty : line ≠ [] := by
    rintro rfl
    have hEmpty : step? [] = none := rfl
    exact absurd (hEmpty.symm.trans hLine) (by simp)
  rw [steps?, hLine]
  · cases steps? rest <;> rfl
  · simp [hNonempty]

/-- Said of the lines joined again, so that the induction needs nothing about cutting. -/
theorem spells_of_steps? {lines : List (List Char)} {steps : List Step}
    (hRead : steps? lines = some steps) :
    Spells (String.ofList (['\n'].intercalate lines)) steps := by
  fun_induction steps? lines generalizing steps with
  | case1 => exact absurd hRead (by simp)
  | case2 =>
      rw [← Option.some.inj hRead]
      exact .nil
  | case3 line rest hEnd ih =>
      simp only [Option.bind_eq_bind, Option.bind_eq_some_iff, Option.some.injEq] at hRead
      obtain ⟨step, hLine, later, hLater, rfl⟩ := hRead
      have hRest : rest ≠ [] := by
        rintro rfl
        exact absurd hLater (by simp [steps?])
      rw [List.intercalate_cons_of_ne_nil hRest, String.ofList_append, String.ofList_append]
      exact .cons (spells_of_step? hLine) (ih hLater)

/-- A text of the grammar is read line by line. -/
theorem steps?_of_spells {text : String} {steps : List Step} (hSpells : Spells text steps) :
    steps? (text.toList.splitOn '\n') = some steps := by
  induction hSpells with
  | nil => rfl
  | @cons line rest step steps hLine hRest ih =>
      have hList : (line ++ "\n" ++ rest).toList = line.toList ++ '\n' :: rest.toList := by simp
      rw [hList, List.splitOn_append_cons_self_of_not_mem hLine.newline_not_mem,
        steps?_cons (step?_of_spells hLine), ih, Option.map_some]

/-- The reader takes exactly the texts of the grammar. -/
theorem read?_eq_some_iff (text : String) (steps : List Step) :
    read? text = some steps ↔ Spells text steps := by
  constructor
  · intro hRead
    have hSpells := spells_of_steps? hRead
    rw [List.intercalate_splitOn, String.ofList_toList] at hSpells
    exact hSpells
  · exact steps?_of_spells

end Texts

section Printing

theorem numeral_ofNat (n : Nat) : Numeral (Decimal.ofNat n) n :=
  (digits?_eq_some_iff _ n).mp (Decimal.digits?_ofNat n)

theorem spellsOperand_text (x : Operand) : SpellsOperand x.text x := by
  cases x with
  | input => exact .input
  | temp index => exact .temp (numeral_ofNat index.toNat)

theorem spellsStep_text (step : Step) : SpellsStep step.text step := by
  cases step with
  | shl dst src amount =>
      exact .shl (spellsOperand_text dst) (spellsOperand_text src) (numeral_ofNat amount.toNat)
  | sub dst lhs rhs =>
      exact .sub (spellsOperand_text dst) (spellsOperand_text lhs) (spellsOperand_text rhs)

/-- What is printed for steps is a text of the grammar. -/
theorem spells_unlines (steps : List Step) : Spells (Text.unlines (steps.map Step.text)) steps := by
  induction steps with
  | nil => exact .nil
  | cons step rest ih => exact .cons (spellsStep_text step) ih

theorem read?_unlines (steps : List Step) :
    read? (Text.unlines (steps.map Step.text)) = some steps :=
  (read?_eq_some_iff _ steps).mpr (spells_unlines steps)

end Printing

/-- The reader decides the grammar, and it undoes printing for any steps at all. So the text
of a sequence shows its steps. -/
theorem text_determines_steps :
    (∀ text steps, read? text = some steps ↔ Spells text steps) ∧
    (∀ steps, read? (Text.unlines (steps.map Step.text)) = some steps) ∧
    (∀ s : Sequence, read? s.text = some s.steps) ∧
    ∀ s t : Sequence, s.text = t.text ↔ s.steps = t.steps := by
  have hText : ∀ s : Sequence, read? s.text = some s.steps := fun s => read?_unlines s.steps
  refine ⟨read?_eq_some_iff, read?_unlines, hText, ?_⟩
  intro s t
  constructor
  · intro hSame
    have hSteps := hText s
    rw [hSame, hText t] at hSteps
    exact (Option.some.inj hSteps).symm
  · intro hSteps
    rw [Sequence.text, hSteps, Sequence.text]

-- The index and the amount are the largest there are; one more is no number of a listing.
example : read? "t255 = n << 4294967295\nt1 = t12 - n\n" =
    some [.shl (.temp 255) .input 4294967295, .sub (.temp 1) (.temp 12) .input] := by
  decide

example : read? "t256 = n << 3\n" = none := by
  decide

end Multiplierless.Listing
