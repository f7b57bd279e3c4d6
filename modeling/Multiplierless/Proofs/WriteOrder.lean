import Mathlib.Data.List.Nodup
import Mathlib.Data.List.Perm.Subperm
import Multiplierless.Proofs.Acceptance
import Multiplierless.Proofs.Source.Name

/-!
The temporaries of a sequence against its steps. A routine declares this list and checks
its parameter against it, which is enough only if no step touches anything else but the
input. Main statement: the list holds the written operands in the order of their first
writes, it covers whatever the steps read, and no two names in it are the same.
-/

namespace Multiplierless.Sequence

variable {s : Sequence}

/-- The index of the first step that writes the operand, or the number of steps when none
does. -/
def firstWrite (s : Sequence) (x : Operand) : Nat :=
  s.steps.findIdx fun step => step.dst = x

theorem idxOf_map_dst (s : Sequence) (x : Operand) :
    (s.steps.map Step.dst).idxOf x = s.firstWrite x := by
  rw [List.idxOf, List.findIdx_map]
  rfl

/-- The list holds what the sequence writes, each operand once, and those that are written
first stand first. -/
structure InWriteOrder (s : Sequence) (xs : List Operand) : Prop where
  nodup : xs.Nodup
  mem_iff : ∀ x, x ∈ xs ↔ ∃ step ∈ s.steps, step.dst = x
  order : ∀ x ∈ xs, ∀ y ∈ xs, xs.idxOf x < xs.idxOf y ↔ s.firstWrite x < s.firstWrite y

theorem inWriteOrder_temporaries (s : Sequence) : s.InWriteOrder s.temporaries where
  nodup := s.nodup_temporaries
  mem_iff x := by rw [mem_temporaries, List.mem_map]
  order x _ y _ := by
    rw [temporaries, idxOf_distinctFrom_lt_iff, List.nil_append, idxOf_map_dst, idxOf_map_dst]

theorem input_not_mem_temporaries (s : Sequence) : .input ∉ s.temporaries := by
  intro hMem
  obtain ⟨step, hStep, hDst⟩ := (s.inWriteOrder_temporaries.mem_iff .input).mp hMem
  exact s.wellFormed.dst step hStep hDst

/-- What a step reads is the input or has been written before, so it is listed. -/
theorem mem_temporaries_of_read {step : Step} (hStep : step ∈ s.steps) {x : Operand}
    (hRead : x ∈ step.reads) : x = .input ∨ x ∈ s.temporaries := by
  rw [s.inWriteOrder_temporaries.mem_iff]
  exact s.operand_written hStep (List.mem_append_left _ hRead)

theorem length_temporaries_le_of_subset {xs : List Operand} (hSubset : s.temporaries ⊆ xs) :
    s.temporaries.length ≤ xs.length :=
  (s.nodup_temporaries.subperm hSubset).length_le

theorem length_temporaries_le (s : Sequence) : s.temporaries.length ≤ s.length := by
  have hSubset : s.temporaries ⊆ s.steps.map Step.dst := fun _ hx => mem_temporaries.mp hx
  have hLength := length_temporaries_le_of_subset hSubset
  rw [List.length_map] at hLength
  exact hLength

/-- There are only so many names. -/
theorem length_temporaries_le_names (s : Sequence) : s.temporaries.length ≤ 256 := by
  have hSubset : s.temporaries ⊆
      (List.range 256).map fun index => Operand.temp (UInt8.ofNat index) := by
    intro x hx
    cases x with
    | input => exact absurd hx s.input_not_mem_temporaries
    | temp index =>
        apply List.mem_map.mpr
        exact ⟨index.toNat, List.mem_range.mpr index.toNat_lt, by rw [UInt8.ofNat_toNat]⟩
  have hLength := length_temporaries_le_of_subset hSubset
  rw [List.length_map, List.length_range] at hLength
  exact hLength

/-- A declaration of these names and a check of the parameter against them leave out no
name that the steps use and repeat none. -/
theorem temporaries_in_write_order (s : Sequence) :
    s.InWriteOrder s.temporaries ∧
    .input ∉ s.temporaries ∧
    (∀ step ∈ s.steps, ∀ x ∈ step.reads, x = .input ∨ x ∈ s.temporaries) ∧
    s.output ∈ s.temporaries ∧
    1 ≤ s.temporaries.length ∧ s.temporaries.length ≤ min s.length 256 ∧
    (s.temporaries.map Operand.text).Nodup := by
  have hOutput : s.output ∈ s.temporaries := mem_temporaries.mpr s.output_mem_dst
  refine ⟨s.inWriteOrder_temporaries, s.input_not_mem_temporaries, ?_, hOutput, ?_, ?_, ?_⟩
  · intro step hStep x hRead
    exact mem_temporaries_of_read hStep hRead
  · exact List.length_pos_of_mem hOutput
  · exact Nat.le_min.mpr ⟨s.length_temporaries_le, s.length_temporaries_le_names⟩
  · exact s.nodup_temporaries.map Operand.text_injective

-- The second write to the same temporary changes nothing.
example : temporaries ⟨[.shl (.temp 9) .input 1, .shl (.temp 0) .input 2,
    .sub (.temp 9) (.temp 0) (.temp 9)], rfl⟩ = [.temp 9, .temp 0] := by
  decide

end Multiplierless.Sequence
