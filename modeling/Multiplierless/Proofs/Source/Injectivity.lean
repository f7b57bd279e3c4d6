import Multiplierless.Proofs.Acceptance
import Multiplierless.Proofs.Source.ReadBack

/-!
Nothing is lost in the source. The reader of one language takes the text of no other,
and within a language the routine that it reads shows the parameter, the assertions and
the steps. Main statement: equal texts come from equal options and equal steps, also
when a parameter looks like a temporary that some other sequence has.
-/

namespace Multiplierless

namespace Source

variable {name : Operand → String}

theorem step_eq_of_ofStep {first second : Step}
    (hNames : ∀ x ∈ first.operands, ∀ y ∈ second.operands, name x = name y → x = y)
    (hSame : Assignment.ofStep name first = Assignment.ofStep name second) : first = second := by
  injection hSame with hTarget hValue
  cases first with
  | shl dst src amount =>
      cases second with
      | shl dst' src' amount' =>
          injection hValue with hSource hAmount
          rw [hNames dst (by simp) dst' (by simp) hTarget, hNames src (by simp) src' (by simp) hSource,
            UInt32.toNat_inj.mp hAmount]
      | sub dst' lhs rhs => exact absurd hValue (by simp [Expression.ofStep])
  | sub dst lhs rhs =>
      cases second with
      | shl dst' src amount => exact absurd hValue (by simp [Expression.ofStep])
      | sub dst' lhs' rhs' =>
          injection hValue with hLeft hRight
          rw [hNames dst (by simp) dst' (by simp) hTarget, hNames lhs (by simp) lhs' (by simp) hLeft,
            hNames rhs (by simp) rhs' (by simp) hRight]

/-- Steps written alike are the same when their operands are told apart by name. -/
theorem steps_eq_of_map_ofStep {first second : List Step}
    (hNames : ∀ a ∈ first, ∀ x ∈ a.operands, ∀ b ∈ second, ∀ y ∈ b.operands,
      name x = name y → x = y)
    (hSame : first.map (.ofStep name) = second.map (Assignment.ofStep name)) : first = second := by
  induction first generalizing second with
  | nil => exact (List.map_eq_nil_iff.mp hSame.symm).symm
  | cons a first ih =>
      cases second with
      | nil => exact absurd hSame (by simp)
      | cons b second =>
          rw [List.map_cons, List.map_cons, List.cons.injEq] at hSame
          have hHead : a = b := step_eq_of_ofStep
            (fun x hx y hy => hNames a (by simp) x hx b (by simp) y hy) hSame.1
          have hTail : first = second := ih
            (fun c hc x hx d hd => hNames c (List.mem_cons_of_mem a hc) x hx d
              (List.mem_cons_of_mem b hd)) hSame.2
          rw [hHead, hTail]

namespace Reader

/-- The word that a signature begins with. -/
def signatureWord : Language → String
  | .c => "int"
  | .python => "def"
  | .rust => "pub"

theorem signatureWord_injective {first second : Language}
    (hWord : signatureWord first = signatureWord second) : first = second := by
  cases first <;> cases second <;> simp [signatureWord] at hWord ⊢

theorem head?_of_signature? {lang : Language} {line : Line} {x : String}
    (hSignature : signature? lang line = some x) :
    line.head? = some (.word (signatureWord lang)) := by
  unfold signature? at hSignature
  split at hSignature
  · rfl
  · rfl
  · rfl
  · exact absurd hSignature (by simp)

end Reader

end Source

namespace Emitter

open Source Source.Token Source.Reader

variable {e : Emitter} {s : Sequence}

/-- Each language begins a signature with a word of its own. -/
theorem signature?_lex_of_ne (hSound : e.Sound s) {lang : Language} (hLang : lang ≠ e.lang) :
    signature? lang (lex e.signature) = none := by
  rw [Option.eq_none_iff_forall_ne_some]
  intro x hSignature
  have hOwn := head?_of_signature? (signature?_lex hSound)
  rw [head?_of_signature? hSignature] at hOwn
  exact hLang (signatureWord_injective (by simpa using hOwn))

/-- No reader takes the comment of a routine for what assertions need in front. -/
theorem afterPreamble_routine (lang : Language) (e : Emitter) (s : Sequence) (rest : List Line) :
    afterPreamble lang ((e.routine s).map lex ++ rest) = (e.routine s).map lex ++ rest := by
  unfold routine
  cases lang <;> cases e.lang <;> rfl

/-- Only where assertions need something in front does a source not begin with the
routine. -/
theorem lines_eq_routine_append (hTop : ¬(e.harness = true ∧ e.lang = .c)) (s : Sequence) :
    ∃ rest, e.lines s = e.routine s ++ rest := by
  unfold lines
  split
  · next hHarness =>
      refine ⟨"" :: e.assertions, ?_⟩
      unfold preamble
      split
      · next hC => exact absurd ⟨hHarness, hC⟩ hTop
      · rfl
      · rfl
  · exact ⟨[], (List.append_nil _).symm⟩

/-- Where a reader of another language looks for the signature, it finds that of the
routine or, below an inclusion that it does not know, an empty line. -/
theorem afterPreamble_lines_of_ne {lang : Language} (hLang : lang ≠ e.lang) (s : Sequence) :
    ∃ top line rest, afterPreamble lang ((e.lines s).map lex ++ [[]]) = top :: line :: rest ∧
      (line = [] ∨ line = lex e.signature) := by
  by_cases hTop : e.harness = true ∧ e.lang = .c
  · obtain ⟨hHarness, hC⟩ := hTop
    rw [lines, if_pos hHarness, preamble, hC]
    rw [hC] at hLang
    cases lang with
    | c => exact absurd rfl hLang
    | python | rust => exact ⟨_, _, _, rfl, .inl rfl⟩
  · obtain ⟨rest, hLines⟩ := lines_eq_routine_append hTop s
    rw [hLines, List.map_append, List.append_assoc, afterPreamble_routine]
    exact ⟨_, _, _, rfl, .inr rfl⟩

/-- No reader of another language takes the source. -/
theorem read?_source_of_ne (hSound : e.Sound s) {lang : Language} (hLang : lang ≠ e.lang) :
    read? lang (e.source s) = none := by
  obtain ⟨top, line, rest, hLines, hLine⟩ := afterPreamble_lines_of_ne hLang s
  have hSignature : signature? lang line = none := by
    rcases hLine with hEmpty | hOther
    · rw [hEmpty]
      cases lang <;> rfl
    · rw [hOther]
      exact signature?_lex_of_ne hSound hLang
  rw [read?, source, lines_unlines _ (newline_not_mem_lines hSound), hLines]
  simp only [hSignature]
  rfl

/-- Whether there are assertions shows in what is read. -/
theorem harness_eq_of_assertionsOf {first second : Emitter}
    (hSame : first.assertionsOf = second.assertionsOf) : first.harness = second.harness := by
  unfold assertionsOf at hSame
  cases hFirst : first.harness <;> cases hSecond : second.harness
  · rfl
  · simp [hFirst, hSecond, harnessInputs] at hSame
  · simp [hFirst, hSecond, harnessInputs] at hSame
  · rfl

/-- Operands that two sequences mention under one parameter have different names, or
they are the same: a temporary that is mentioned is also written. -/
theorem Sound.operand_eq_of_name {first second : Sequence} (hFirst : e.Sound first)
    (hSecond : e.Sound second) {a b : Step} (ha : a ∈ first.steps) (hb : b ∈ second.steps)
    {x y : Operand} (hx : x ∈ a.operands) (hy : y ∈ b.operands) (hName : e.name x = e.name y) :
    x = y := by
  rcases second.operand_written hb hy with hInput | ⟨writer, hWriter, hDst⟩
  · rcases first.operand_written ha hx with hOther | ⟨writer, hWriter, hDst⟩
    · rw [hInput, hOther]
    · rw [← hDst] at hName ⊢
      exact (hFirst.eq_dst_of_name hWriter y hName.symm).symm
  · rw [← hDst] at hName ⊢
    exact hSecond.eq_dst_of_name hWriter x hName

variable {e₁ e₂ : Emitter} {s₁ s₂ : Sequence}

/-- Equal sources are in one language. -/
theorem Sound.lang_eq (hFirst : e₁.Sound s₁) (hSecond : e₂.Sound s₂)
    (hText : e₁.source s₁ = e₂.source s₂) : e₁.lang = e₂.lang := by
  by_contra hLang
  have hRead := read?_source hFirst
  rw [hText, read?_source_of_ne hSecond hLang] at hRead
  exact absurd hRead (by simp)

/-- One reader takes both texts, so they spell one routine. -/
theorem Sound.routineOf_eq (hFirst : e₁.Sound s₁) (hSecond : e₂.Sound s₂)
    (hText : e₁.source s₁ = e₂.source s₂) : e₁.routineOf s₁ = e₂.routineOf s₂ := by
  have hRead := read?_source hFirst
  rw [hText, hFirst.lang_eq hSecond hText, read?_source hSecond] at hRead
  exact (Option.some.inj hRead).symm

/-- The text of an emission determines the options and the steps. -/
theorem render_injective {text : String} (hFirst : e₁.render s₁ = .ok text)
    (hSecond : e₂.render s₂ = .ok text) :
    e₁.lang = e₂.lang ∧ e₁.harness = e₂.harness ∧ e₁.symbol = e₂.symbol ∧ s₁.steps = s₂.steps := by
  obtain ⟨hFirst, hText⟩ := render_eq_ok_iff.mp hFirst
  obtain ⟨hSecond, hOther⟩ := render_eq_ok_iff.mp hSecond
  rw [← hOther] at hText
  have hRoutine := hFirst.routineOf_eq hSecond hText
  have hLang := hFirst.lang_eq hSecond hText
  have hHarness := harness_eq_of_assertionsOf (congrArg Routine.assertions hRoutine)
  have hSymbol : e₁.symbol = e₂.symbol := congrArg Routine.parameter hRoutine
  have hBody : s₁.steps.map (.ofStep e₁.name) = s₂.steps.map (Assignment.ofStep e₂.name) :=
    congrArg Routine.body hRoutine
  -- Names stand for the same operands only under the same parameter, so the options
  -- come first and the steps last.
  have hSame : e₁ = e₂ := by
    cases e₁
    cases e₂
    rw [Emitter.mk.injEq]
    exact ⟨hLang, hHarness, hSymbol⟩
  subst hSame
  refine ⟨rfl, rfl, rfl, steps_eq_of_map_ofStep ?_ hBody⟩
  intro a ha x hx b hb y hy
  exact hFirst.operand_eq_of_name hSecond ha hb hx hy

/-- The seven steps and the default sequence, with a parameter that is named like a
temporary of neither. -/
theorem render_injective_neg82 :
    ∃ e : Emitter, e = { lang := .rust, harness := true, symbol := "t8" } ∧
      e.render .neg82 = .ok (e.source .neg82) ∧ e.render default = .ok (e.source .neg82) ∧
      e.symbol = "t8" ∧ Sequence.neg82.steps = (default : Sequence).steps := by
  have hFirst : ({ lang := .rust, harness := true, symbol := "t8" } : Emitter).render .neg82 =
      .ok (Emitter.source { lang := .rust, harness := true, symbol := "t8" } .neg82) := rfl
  have hSecond : ({ lang := .rust, harness := true, symbol := "t8" } : Emitter).render default =
      .ok (Emitter.source { lang := .rust, harness := true, symbol := "t8" } .neg82) := rfl
  obtain ⟨-, -, -, hSteps⟩ := render_injective hFirst hSecond
  exact ⟨_, rfl, hFirst, hSecond, rfl, hSteps⟩

end Emitter

end Multiplierless
