import Mathlib.Data.List.Basic
import Multiplierless.Sequence.Basic

/-!
The list of temporaries that a sequence writes. It holds the destinations of the
steps, each of them once, in the order in which they are met first.
-/

namespace Multiplierless.Sequence

/-- Leaving out repeats loses no operand and adds none. -/
theorem mem_distinctFrom {seen xs : List Operand} {x : Operand} :
    x ∈ distinctFrom seen xs ↔ x ∈ seen ∨ x ∈ xs := by
  induction xs generalizing seen with
  | nil => simp [distinctFrom]
  | cons y rest ih =>
      rw [distinctFrom]
      split
      · next hSeen =>
          rw [ih, List.mem_cons]
          constructor
          · rintro (hOld | hRest)
            · exact .inl hOld
            · exact .inr (.inr hRest)
          · rintro (hOld | hNew | hRest)
            · exact .inl hOld
            · exact .inl (hNew ▸ hSeen)
            · exact .inr hRest
      · rw [ih, List.mem_append, List.mem_singleton, List.mem_cons, or_assoc]

theorem nodup_distinctFrom {seen : List Operand} (hSeen : seen.Nodup) (xs : List Operand) :
    (distinctFrom seen xs).Nodup := by
  induction xs generalizing seen with
  | nil => exact hSeen
  | cons y rest ih =>
      rw [distinctFrom]
      split
      · exact ih hSeen
      · next hNew =>
          apply ih
          rw [List.nodup_append]
          refine ⟨hSeen, by simp, ?_⟩
          intro a ha b hb hSame
          rw [List.mem_singleton.mp hb] at hSame
          exact hNew (hSame ▸ ha)

/-- An operand that is already listed does not move the others apart. -/
theorem idxOf_lt_skip {seen rest : List Operand} {y : Operand} (hSeen : y ∈ seen)
    (a b : Operand) :
    (seen ++ rest).idxOf a < (seen ++ rest).idxOf b ↔
      (seen ++ y :: rest).idxOf a < (seen ++ y :: rest).idxOf b := by
  -- What is listed keeps its index, and everything after it moves by one place.
  have hIndex : ∀ x : Operand,
      (seen ++ y :: rest).idxOf x = (seen ++ rest).idxOf x ∧
        (seen ++ rest).idxOf x < seen.length ∨
      (seen ++ y :: rest).idxOf x = (seen ++ rest).idxOf x + 1 ∧
        seen.length ≤ (seen ++ rest).idxOf x := by
    intro x
    by_cases hx : x ∈ seen
    · have hLess := List.idxOf_lt_length_of_mem hx
      have hBefore : (seen ++ rest).idxOf x = seen.idxOf x := List.idxOf_append_of_mem hx
      have hAfter : (seen ++ y :: rest).idxOf x = seen.idxOf x := List.idxOf_append_of_mem hx
      omega
    · have hOther : y ≠ x := fun hSame => hx (hSame ▸ hSeen)
      have hBefore : (seen ++ rest).idxOf x = seen.length + rest.idxOf x :=
        List.idxOf_append_of_notMem hx
      have hAfter : (seen ++ y :: rest).idxOf x = seen.length + (rest.idxOf x + 1) := by
        rw [List.idxOf_append_of_notMem hx, List.idxOf_cons_ne rest hOther]
      omega
  have ha := hIndex a
  have hb := hIndex b
  omega

/-- Operands stand in the order in which they are met first. -/
theorem idxOf_distinctFrom_lt_iff (seen xs : List Operand) (a b : Operand) :
    (distinctFrom seen xs).idxOf a < (distinctFrom seen xs).idxOf b ↔
      (seen ++ xs).idxOf a < (seen ++ xs).idxOf b := by
  induction xs generalizing seen with
  | nil => rw [distinctFrom, List.append_nil]
  | cons y rest ih =>
      rw [distinctFrom]
      split
      · next hSeen => rw [ih, idxOf_lt_skip hSeen]
      · rw [ih, List.append_assoc, List.singleton_append]

/-- The list holds the destinations of the steps and nothing else. -/
theorem mem_temporaries {s : Sequence} {x : Operand} :
    x ∈ s.temporaries ↔ x ∈ s.steps.map Step.dst := by
  simp [temporaries, mem_distinctFrom]

theorem nodup_temporaries (s : Sequence) : s.temporaries.Nodup :=
  nodup_distinctFrom List.nodup_nil _

end Multiplierless.Sequence
