import Multiplierless.Outcome

/-!
A row of registers that start out empty. Reading an empty register, and reading
or writing past the end of the row, are faults: no access falls back on a
default.
-/

namespace Multiplierless

structure RegisterFile (α : Type) where
  cells : Array (Option α)

namespace RegisterFile

variable {α : Type}

def empty (size : Nat) : RegisterFile α :=
  ⟨Array.replicate size none⟩

def size (regs : RegisterFile α) : Nat :=
  regs.cells.size

/-- What a slot holds, without regard to the bounds. This is the view that
statements use, a run goes through the checked operations. -/
def contents (regs : RegisterFile α) (slot : Nat) : Option α :=
  regs.cells[slot]?.join

def isWritten (regs : RegisterFile α) (slot : Nat) : Except Fault Bool :=
  match regs.cells[slot]? with
  | none => .error (.noRegister slot regs.size)
  | some cell => .ok cell.isSome

def read (regs : RegisterFile α) (slot : Nat) : Except Fault α :=
  match regs.cells[slot]? with
  | none => .error (.noRegister slot regs.size)
  | some none => .error (.unwritten slot)
  | some (some a) => .ok a

def write (regs : RegisterFile α) (slot : Nat) (a : α) : Except Fault (RegisterFile α) :=
  if hSlot : slot < regs.cells.size then
    .ok ⟨regs.cells.set slot (some a) hSlot⟩
  else
    .error (.noRegister slot regs.size)

@[simp] theorem size_empty (size : Nat) : (empty size : RegisterFile α).size = size := by
  simp [RegisterFile.size, empty]

@[simp] theorem contents_empty (size slot : Nat) :
    (empty size : RegisterFile α).contents slot = none := by
  by_cases hSlot : slot < size <;> simp [contents, empty, hSlot]

theorem isWritten_of_lt {regs : RegisterFile α} {slot : Nat} (hSlot : slot < regs.size) :
    regs.isWritten slot = .ok (regs.contents slot).isSome := by
  have hCells : slot < regs.cells.size := hSlot
  simp [isWritten, contents, Array.getElem?_eq_getElem hCells]

theorem read_of_contents {regs : RegisterFile α} {slot : Nat} {a : α}
    (hContents : regs.contents slot = some a) : regs.read slot = .ok a := by
  unfold contents at hContents
  unfold read
  split
  · next hCell => simp [hCell] at hContents
  · next hCell => simp [hCell] at hContents
  · next b hCell =>
      simp only [hCell, Option.join_some, Option.some.injEq] at hContents
      rw [hContents]

/-- Only a value that was written is ever read. -/
theorem contents_of_read {regs : RegisterFile α} {slot : Nat} {a : α}
    (hRead : regs.read slot = .ok a) : regs.contents slot = some a := by
  unfold read at hRead
  split at hRead
  · exact absurd hRead (by simp)
  · exact absurd hRead (by simp)
  · next b hCell =>
      rw [← Except.ok.inj hRead]
      simp [contents, hCell]

theorem lt_size_of_contents {regs : RegisterFile α} {slot : Nat} {a : α}
    (hContents : regs.contents slot = some a) : slot < regs.size := by
  refine Nat.lt_of_not_le fun hLe => ?_
  have hCell : regs.cells[slot]? = none := Array.getElem?_eq_none hLe
  simp [contents, hCell] at hContents

theorem lt_size_of_write {regs after : RegisterFile α} {slot : Nat} {a : α}
    (hWrite : regs.write slot a = .ok after) : slot < regs.size := by
  unfold write at hWrite
  split at hWrite
  · assumption
  · exact absurd hWrite (by simp)

/-- A write within the bounds changes one slot and nothing else. -/
theorem write_of_lt {regs : RegisterFile α} {slot : Nat} (a : α) (hSlot : slot < regs.size) :
    ∃ after, regs.write slot a = .ok after ∧ after.size = regs.size ∧
      ∀ other, after.contents other = if other = slot then some a else regs.contents other := by
  have hCells : slot < regs.cells.size := hSlot
  refine ⟨⟨regs.cells.set slot (some a) hCells⟩, dif_pos hCells, ?_, ?_⟩
  · simp [size]
  · intro other
    by_cases hOther : other = slot
    · subst hOther
      simp [contents]
    · simp [contents, hOther, Ne.symm hOther]

/-- The same of a write that went through, whatever the bounds. -/
theorem contents_of_write {regs after : RegisterFile α} {slot : Nat} {a : α}
    (hWrite : regs.write slot a = .ok after) : after.size = regs.size ∧
      ∀ other, after.contents other = if other = slot then some a else regs.contents other := by
  obtain ⟨written, hWritten, hSize, hContents⟩ := write_of_lt a (lt_size_of_write hWrite)
  have hSame : written = after := Except.ok.inj (hWritten.symm.trans hWrite)
  rw [← hSame]
  exact ⟨hSize, hContents⟩

end RegisterFile

end Multiplierless
