import Multiplierless.Proofs.Source.Name
import Multiplierless.Proofs.Source.Reader

/-!
Reading emitted source. Main statement: the reader takes the source of every sound
emission, whatever the language, and finds the steps as assignments, the result, the
declared names and the assertions that were asked for.
-/

namespace Multiplierless.Emitter

open Source Source.Token Source.Reader

/-- The assertion about an input of the routine. -/
def assertionOf (n : Nat) : Assertion :=
  ⟨n, n * multiplier.value⟩

def assertionsOf (e : Emitter) : List Assertion :=
  if e.harness then harnessInputs.map assertionOf else []

/-- The names that have to be declared. -/
def declaredNames (e : Emitter) (s : Sequence) : List String :=
  match e.lang with
  | .c => s.temporaries.map e.name
  | .python => []
  | .rust => []

/-- What the source of a sequence spells. -/
def routineOf (e : Emitter) (s : Sequence) : Source.Routine :=
  .ofSequence e.name s (e.declaredNames s) e.assertionsOf

/-- A number is read back, and the tokens after it are left. -/
theorem integer?_lex (v : Int) (rest : Line) :
    integer? (lex (Decimal.ofInt v) ++ rest) = some (v, rest) := by
  cases v with
  | ofNat n =>
      rw [Decimal.ofInt, lex_of_isWord (Decimal.isWord_ofNat n)]
      simp [integer?, Decimal.digits?_ofNat]
  | negSucc n =>
      rw [Decimal.ofInt, lex_append_of_endsApart _ (by decide),
        lex_of_isWord (Decimal.isWord_ofNat (n + 1))]
      have hMinus : lex "-" = [.mark '-'] := by decide
      simp [hMinus, integer?, Decimal.digits?_ofNat, Int.negSucc_eq]

variable {e : Emitter} {s : Sequence}

/-- The signature is read back as the name of the parameter. -/
theorem signature?_lex (hSound : e.Sound s) :
    signature? e.lang (lex e.signature) = some e.symbol := by
  have hWord : lex e.symbol = [.word e.symbol] := lex_of_isWord (isWord_of_isName hSound.symbol)
  unfold signature
  cases e.lang with
  | c | python | rust =>
      rw [lex_append_of_startsApart _ (by decide), lex_append_of_endsApart _ (by decide), hWord]
      rfl

theorem names?_lex {names : List String} (hNames : names ≠ [])
    (hWords : ∀ x ∈ names, IsWord x) : names? (lex (", ".intercalate names ++ ";")) = some names := by
  induction names with
  | nil => exact absurd rfl hNames
  | cons x rest ih =>
      have hWord : lex x = [.word x] := lex_of_isWord (hWords x (by simp))
      cases rest with
      | nil =>
          rw [String.intercalate_singleton, lex_append_of_startsApart _ (by decide), hWord]
          rfl
      | cons y rest =>
          have hRest := ih (by simp) fun z hz => hWords z (List.mem_cons_of_mem x hz)
          have hComma : lex ", " = [.mark ','] := by decide
          rw [String.intercalate_cons_cons, String.append_assoc,
            lex_between _ _ (by decide) (by decide), hWord, hComma]
          simp [names?, hRest]

/-- The tokens of the right-hand side of a step are read as its expression. -/
theorem expression?_lex (hSound : e.Sound s) (step : Step) (rest : Line) :
    expression? e.lang (lex (e.expression step) ++ rest) = some (.ofStep e.name step, rest) := by
  have hWord : ∀ x, lex (e.name x) = [.word (e.name x)] :=
    fun x => lex_of_isWord (hSound.isWord_name x)
  cases step with
  | shl dst src amount =>
      have hShift : lex " << " = [.mark '<', .mark '<'] := by decide
      rw [expression, lex_between _ _ (by decide) (by decide), hWord, hShift,
        lex_of_isWord (Decimal.isWord_ofNat _)]
      cases e.lang <;> simp [expression?, Decimal.digits?_ofNat, Expression.ofStep]
  | sub dst lhs rhs =>
      rw [expression, difference]
      cases e.lang with
      | c | python =>
          have hMinus : lex " - " = [.mark '-'] := by decide
          rw [lex_between _ _ (by decide) (by decide), hWord, hWord, hMinus]
          rfl
      | rust =>
          have hCall : lex ".wrapping_sub(" = [.mark '.', .word "wrapping_sub", .mark '('] := by decide
          have hEnd : lex ")" = [.mark ')'] := by decide
          rw [lex_append_of_startsApart _ (by decide), lex_between _ _ (by decide) (by decide),
            hWord, hWord, hCall, hEnd]
          rfl

/-- The line of a step is read back as its assignment. -/
theorem assignment?_lex (hSound : e.Sound s) (step : Step) :
    assignment? e.lang (lex (e.assignment step)) = some (.ofStep e.name step) := by
  have hWord : lex (e.name step.dst) = [.word (e.name step.dst)] :=
    lex_of_isWord (hSound.isWord_name step.dst)
  have hValue := expression?_lex hSound step (terminator e.lang)
  have hAssigned : assigned? e.lang (lex (e.assignment step)) =
      some (e.name step.dst, lex (e.expression step) ++ terminator e.lang) := by
    unfold assignment
    cases e.lang with
    | c | rust =>
        rw [lex_append_of_startsApart _ (by decide), lex_between _ _ (by decide) (by decide),
          lex_append_of_endsApart _ (by decide), hWord]
        rfl
    | python =>
        rw [lex_between _ _ (by decide) (by decide), lex_append_of_endsApart _ (by decide), hWord,
          terminator, List.append_nil]
        rfl
  simp [assignment?, hAssigned, hValue, hSound.isName_name, Assignment.ofStep]

/-- The line of the result is no assignment, so the body ends there. -/
theorem body?_lex_ending (hSound : e.Sound s) (x : Operand) (rest : List Line) :
    body? e.lang ((e.ending x).map lex ++ rest) = some ([], e.name x, closing e.lang ++ rest) := by
  have hWord : lex (e.name x) = [.word (e.name x)] := lex_of_isWord (hSound.isWord_name x)
  unfold ending
  cases e.lang with
  | c =>
      rw [List.map_cons, lex_append_of_startsApart _ (by decide),
        lex_append_of_endsApart _ (by decide), hWord]
      rfl
  | python =>
      rw [List.map_cons, lex_append_of_endsApart _ (by decide), hWord]
      rfl
  | rust =>
      -- A lone name could be the word that starts an assignment, but nothing follows.
      have hAssignment : assignment? .rust [.word (e.name x)] = none := by
        simp [assignment?, assigned?]
      have hLine : lex ("    " ++ e.name x) = [.word (e.name x)] := by
        rw [lex_append_of_endsApart _ (by decide), hWord]
        rfl
      rw [List.map_cons, hLine, List.cons_append, body?, hAssignment]
      rfl

/-- The lines of the steps and of the result are read back, and the lines after them are
left. -/
theorem body?_lex (hSound : e.Sound s) (steps : List Step) (x : Operand) (rest : List Line) :
    body? e.lang (steps.map (fun step => lex (e.assignment step)) ++
        ((e.ending x).map lex ++ rest)) =
      some (steps.map (.ofStep e.name), e.name x, closing e.lang ++ rest) := by
  induction steps with
  | nil => exact body?_lex_ending hSound x rest
  | cons step later ih =>
      rw [List.map_cons, List.cons_append, body?, assignment?_lex hSound step]
      simp [ih]

/-- The declared names are read back in their order. -/
theorem declaration?_lex (hSound : e.Sound s) (rest : List Line) :
    declaration? e.lang ((e.declarations s).map lex ++ rest) = some (e.declaredNames s, rest) := by
  have hTemporaries : s.temporaries.map e.name ≠ [] := by
    intro hNil
    have hOutput := Sequence.mem_temporaries.mpr s.output_mem_dst
    rw [List.map_eq_nil_iff.mp hNil] at hOutput
    exact absurd hOutput (by simp)
  have hNames := names?_lex hTemporaries (by simp [hSound.isWord_name])
  unfold declarations declaredNames
  cases e.lang with
  | c =>
      have hInt : lex "  int " = [.word "int"] := by decide
      rw [List.map_cons, String.append_assoc, lex_append_of_endsApart _ (by decide), hInt]
      simp [declaration?, hNames]
  | python => rfl
  | rust => rfl

/-- An assertion is read back as its input and the product that is expected. -/
theorem assertion?_lex (e : Emitter) (n : Nat) :
    assertion? e.lang (lex (e.assertion n)) = some (assertionOf n) := by
  have hInput := integer?_lex n
  have hExpected := integer?_lex (n * multiplier.value)
  have hTokens : lex (e.assertion n) = assertionOpening e.lang ++ (lex (Decimal.ofInt n) ++
      (assertionMiddle e.lang ++ (lex (Decimal.ofInt (n * multiplier.value)) ++
        (.mark ')' :: terminator e.lang)))) := by
    unfold assertion
    cases e.lang with
    | c | python | rust =>
        rw [lex_append_of_startsApart _ (by decide), lex_between _ _ (by decide) (by decide),
          lex_append_of_endsApart _ (by decide)]
        simp only [List.append_assoc]
        rfl
  rw [hTokens]
  simp [assertion?, List.dropPrefix?_append_of_beq, hInput, hExpected, assertionOf]

section Lines

theorem newline_not_mem_ofNat (n : Nat) : '\n' ∉ (Decimal.ofNat n).toList :=
  (Decimal.isWord_ofNat n).not_mem (by decide)

theorem newline_not_mem_ofInt (v : Int) : '\n' ∉ (Decimal.ofInt v).toList := by
  cases v with
  | ofNat n => exact newline_not_mem_ofNat n
  | negSucc n => simp [Decimal.ofInt, newline_not_mem_ofNat]

theorem newline_not_mem_intercalate (texts : List String)
    (hTexts : ∀ text ∈ texts, '\n' ∉ text.toList) : '\n' ∉ (", ".intercalate texts).toList := by
  induction texts with
  | nil => simp
  | cons first rest ih =>
      have hFirst := hTexts first (by simp)
      have hRest := ih fun text hText => hTexts text (List.mem_cons_of_mem first hText)
      cases rest with
      | nil => simpa using hFirst
      | cons second rest =>
          rw [String.intercalate_cons_cons]
          simp only [String.toList_append, List.mem_append, not_or]
          exact ⟨⟨hFirst, by decide⟩, hRest⟩

theorem newline_not_mem_routine (hSound : e.Sound s) :
    ∀ line ∈ e.routine s, '\n' ∉ line.toList := by
  have hName : ∀ x, '\n' ∉ (e.name x).toList :=
    fun x => (hSound.isWord_name x).not_mem (by decide)
  have hSymbol : '\n' ∉ e.symbol.toList := hName .input
  have hTemporaries := newline_not_mem_intercalate (s.temporaries.map e.name) (by simp [hName])
  have hMultiplier : '\n' ∉ multiplier.text.toList := newline_not_mem_ofInt _
  unfold routine signature declarations ending
  simp only [List.forall_mem_append, List.forall_mem_cons, List.forall_mem_map]
  refine ⟨⟨⟨?_, ?_, ?_⟩, ?_⟩, ?_⟩
  · cases e.lang <;> simp [Language.comment, hMultiplier]
  · cases e.lang <;> simp [hSymbol]
  · cases e.lang with
    | c => simpa using hTemporaries
    | python => simp
    | rust => simp
  · intro step _
    unfold assignment expression difference
    cases step <;> cases e.lang <;> simp [hName, newline_not_mem_ofNat]
  · cases e.lang <;> simp [hName]

/-- No line of a source holds a newline, so the text falls into the same lines again. -/
theorem newline_not_mem_lines (hSound : e.Sound s) :
    ∀ line ∈ e.lines s, '\n' ∉ line.toList := by
  have hRoutine := newline_not_mem_routine hSound
  have hAssertion : ∀ n, '\n' ∉ (e.assertion n).toList := by
    intro n
    unfold assertion product
    cases e.lang <;> simp [newline_not_mem_ofNat, newline_not_mem_ofInt]
  unfold lines
  split
  · simp only [List.forall_mem_append, List.forall_mem_cons]
    refine ⟨⟨?_, hRoutine⟩, by simp, ?_⟩
    · unfold preamble
      cases e.lang <;> simp
    · unfold assertions
      cases e.lang <;> simp [or_imp, forall_and, hAssertion]
  · exact hRoutine

end Lines

/-- The line that ends the assertions is none of them. -/
theorem assertion?_of_closing {lang : Language} {line : Line} {rest : List Line}
    (hEnd : line :: rest = closing lang ++ [[]]) : assertion? lang line = none := by
  cases lang with
  | c | python | rust =>
      rw [(List.cons.inj hEnd).1]
      rfl

theorem assertions?_lex (e : Emitter) (inputs : List Nat) :
    assertions? e.lang (inputs.map (fun n => lex (e.assertion n)) ++ (closing e.lang ++ [[]])) =
      some (inputs.map assertionOf) := by
  induction inputs with
  | nil => cases e.lang <;> rfl
  | cons n later ih =>
      have hLine := assertion?_lex e n
      rw [List.map_cons, List.cons_append, assertions?, if_neg, hLine]
      · simp [ih]
      · intro hEnd
        rw [assertion?_of_closing hEnd] at hLine
        exact absurd hLine (by simp)

/-- The lines after the routine, up to the end of the text. -/
def trailer (e : Emitter) : List Line :=
  if e.harness then [] :: (e.assertions.map lex ++ [[]]) else [[]]

theorem map_lex_assertions (e : Emitter) :
    e.assertions.map lex = harnessOpening e.lang ++
      (harnessInputs.map (fun n => lex (e.assertion n)) ++ closing e.lang) := by
  unfold assertions
  cases e.lang <;> rfl

/-- What follows the routine is read back as its assertions, or as none. -/
theorem harness?_trailer (e : Emitter) : harness? e.lang e.trailer = some e.assertionsOf := by
  unfold trailer assertionsOf
  cases e.harness with
  | false => rfl
  | true =>
      have hAssertions := assertions?_lex e harnessInputs
      rw [if_pos rfl, if_pos rfl, map_lex_assertions, List.append_assoc, List.append_assoc, harness?,
        List.dropPrefix?_append_of_beq _ BEq.rfl]
      · exact hAssertions
      · simp

theorem afterPreamble_lines (e : Emitter) (s : Sequence) :
    afterPreamble e.lang ((e.lines s).map lex ++ [[]]) = (e.routine s).map lex ++ e.trailer := by
  unfold lines trailer
  cases e.harness with
  | false =>
      rw [if_neg (by simp), if_neg (by simp)]
      unfold routine
      cases e.lang <;> rfl
  | true =>
      rw [if_pos rfl, if_pos rfl]
      unfold preamble routine
      cases e.lang with
      | c | python | rust =>
          simp only [List.nil_append, List.cons_append, List.append_assoc, List.map_cons,
            List.map_append]
          rfl

theorem isComment_lex (e : Emitter) :
    isComment e.lang (lex (e.lang.comment ++ " Multiply by " ++ multiplier.text ++
      " using the fewest operations")) = true := by
  cases e.lang <;> rfl

/-- The reader undoes emission. -/
theorem read?_source (hSound : e.Sound s) : read? e.lang (e.source s) = some (e.routineOf s) := by
  have hBody := body?_lex hSound s.steps s.output e.trailer
  have hDeclaration := declaration?_lex hSound
    (s.steps.map (fun step => lex (e.assignment step)) ++ ((e.ending s.output).map lex ++ e.trailer))
  rw [read?, source, lines_unlines _ (newline_not_mem_lines hSound), afterPreamble_lines, routine]
  simp only [List.map_append, List.map_cons, List.map_map, List.cons_append, List.append_assoc,
    Function.comp_def]
  simp only [signature?_lex hSound, hDeclaration, hBody,
    List.dropPrefix?_append_of_beq, BEq.rfl, harness?_trailer,
    isComment_lex, hSound.symbol, Option.bind_eq_bind, Option.bind_some, and_self, if_true]
  rfl

end Multiplierless.Emitter
