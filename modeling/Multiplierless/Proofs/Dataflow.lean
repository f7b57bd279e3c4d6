import Multiplierless.Sequence.Basic

/-!
The dataflow scan without its table. The table of written registers stands for the
operands that have a value so far, and the scan says nothing about it but the first
fault. Main statements: the scan finds the same fault as a search with a list of
known operands, and it finds none exactly when every step reads known operands only
and leaves the input alone.
-/

namespace Multiplierless.Check

/-- The first dataflow fault when the operands in `known` have a value. -/
def firstFault (known : List Operand) (index : Nat) : List Step → Option SequenceError
  | [] => none
  | step :: rest =>
      match step.reads.find? (fun x => decide (x ∉ known)) with
      | some operand => some (.undefinedOperand index operand)
      | none =>
          if step.dst = .input then some (.inputOverwritten index)
          else firstFault (step.dst :: known) (index + 1) rest

/-- Every step reads operands that have a value by then, and writes a temporary. -/
def Defined (known : List Operand) : List Step → Prop
  | [] => True
  | step :: rest =>
      (∀ x ∈ step.reads, x ∈ known) ∧ step.dst ≠ .input ∧ Defined (step.dst :: known) rest

theorem Defined.dst_ne_input {known : List Operand} {steps : List Step}
    (hDefined : Defined known steps) : ∀ step ∈ steps, step.dst ≠ .input := by
  induction steps generalizing known with
  | nil => simp
  | cons step rest ih =>
      obtain ⟨-, hStep, hRest⟩ := hDefined
      intro other hOther
      rcases List.mem_cons.mp hOther with hHead | hTail
      · rw [hHead]
        exact hStep
      · exact ih hRest other hTail

/-- The written registers of the table are those of the known operands. -/
def Marks (table : RegisterFile Unit) (known : List Operand) : Prop :=
  ∀ x : Operand, (table.contents x.slot).isSome = decide (x ∈ known)

/-- A write marks one more operand and no other. -/
theorem Marks.write {table after : RegisterFile Unit} {known : List Operand}
    (hMarks : Marks table known) {x : Operand} (hWrite : table.write x.slot () = .ok after) :
    after.size = table.size ∧ Marks after (x :: known) := by
  obtain ⟨hSize, hContents⟩ := RegisterFile.contents_of_write hWrite
  refine ⟨hSize, ?_⟩
  intro y
  rw [hContents]
  by_cases hOther : y = x
  · simp [hOther]
  · rw [if_neg fun hSlot => hOther (Operand.slot_injective hSlot), hMarks y]
    simp [hOther]

/-- The search in the table is a search among the known operands. -/
theorem firstUndefined_eq {table : RegisterFile Unit} {known : List Operand}
    (hMarks : Marks table known) (xs : List Operand) (hSlots : ∀ x ∈ xs, x.slot < table.size) :
    firstUndefined table xs = .ok (xs.find? fun x => decide (x ∉ known)) := by
  induction xs with
  | nil => rfl
  | cons x rest ih =>
      have hRest := ih fun y hy => hSlots y (List.mem_cons_of_mem x hy)
      rw [firstUndefined, RegisterFile.isWritten_of_lt (hSlots x (by simp)), hMarks x]
      by_cases hKnown : x ∈ known
      · simpa [hKnown, bind, Except.bind] using hRest
      · simp [hKnown, bind, Except.bind, pure, Except.pure]

/-- The table never has to be consulted beyond the operands that it marks. -/
theorem scan_eq {table : RegisterFile Unit} {known : List Operand} (hMarks : Marks table known)
    (index : Nat) (steps : List Step)
    (hSlots : ∀ step ∈ steps, ∀ x ∈ step.operands, x.slot < table.size) :
    scan table index steps = .ok (firstFault known index steps) := by
  induction steps generalizing table known index with
  | nil => rfl
  | cons step rest ih =>
      have hStep := hSlots step (by simp)
      rw [scan, firstUndefined_eq hMarks _ fun x hx => hStep x (List.mem_append_left _ hx),
        firstFault]
      cases step.reads.find? (fun x => decide (x ∉ known)) with
      | some operand => rfl
      | none =>
          by_cases hInput : step.dst = .input
          · simp [hInput, bind, Except.bind, pure, Except.pure]
          · obtain ⟨after, hWrite, -, -⟩ := RegisterFile.write_of_lt ()
              (hStep step.dst (List.mem_append_right _ (by simp)))
            obtain ⟨hSize, hAfter⟩ := hMarks.write hWrite
            have hRest := ih hAfter (index + 1) fun other hOther x hx => by
              rw [hSize]
              exact hSlots other (List.mem_cons_of_mem step hOther) x hx
            simpa [hInput, hWrite, bind, Except.bind] using hRest

/-- The scan of all steps begins with the input as the only known operand. -/
theorem dataflow_eq (steps : List Step) : dataflow steps = firstFault [.input] 0 steps := by
  obtain ⟨table, hWrite, hSize, -⟩ := RegisterFile.write_of_lt () (input_slot_lt Unit steps)
  have hEmpty : Marks (RegisterFile.empty (slotCount steps)) [] := by
    intro x
    simp
  have hScan := scan_eq (hEmpty.write hWrite).2 0 steps fun step hStep x hx => by
    rw [hSize, RegisterFile.size_empty]
    exact slot_lt_slotCount hStep hx
  apply Fault.valueOf_ok
  simpa [scanAll, hWrite, bind, Except.bind] using hScan

/-- The search ends without a fault just when the steps are defined by what is known. -/
theorem firstFault_eq_none_iff (known : List Operand) (index : Nat) (steps : List Step) :
    firstFault known index steps = none ↔ Defined known steps := by
  induction steps generalizing known index with
  | nil => simp [firstFault, Defined]
  | cons step rest ih =>
      rw [firstFault, Defined]
      cases hFind : step.reads.find? (fun x => decide (x ∉ known)) with
      | some operand =>
          have hMem := List.mem_of_find?_eq_some hFind
          have hUnknown := List.find?_some hFind
          simp only [reduceCtorEq, false_iff]
          intro hDefined
          exact of_decide_eq_true hUnknown (hDefined.1 operand hMem)
      | none =>
          have hReads : ∀ x ∈ step.reads, x ∈ known := by
            simpa [List.find?_eq_none] using hFind
          by_cases hInput : step.dst = .input
          · simp [hInput]
          · simp only [hInput, if_false, ih, ne_eq, not_false_eq_true, true_and]
            exact ⟨fun hRest => ⟨hReads, hRest⟩, fun hDefined => hDefined.2⟩

end Multiplierless.Check

namespace Multiplierless.Sequence

/-- What acceptance has established about the reads and writes of a sequence. -/
theorem defined (s : Sequence) : Check.Defined [.input] s.steps := by
  rw [← Check.firstFault_eq_none_iff [.input] 0, ← Check.dataflow_eq]
  exact Check.dataflow_of_accept s.accepted

theorem output_mem_dst (s : Sequence) : s.output ∈ s.steps.map Step.dst :=
  List.mem_map_of_mem (List.getLast_mem s.steps_ne_nil)

end Multiplierless.Sequence
