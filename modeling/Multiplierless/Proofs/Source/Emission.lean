import Multiplierless.Proofs.Source.Name

/-!
What an emission leaves in its sink. Line after line or all at once, a sink ends up the
same and gives the same verdict. Main statements: an emission whose source is sound is
one write of that source, and a buffer that is too small for it ends up with as much of
its beginning as there was room for.
-/

namespace Multiplierless

namespace Sink

/-- Two writes in a row are one write, and a failure in the first ends both. -/
theorem write_append (sink : Sink) (first second : ByteArray) :
    sink.write (first ++ second) =
      match sink.write first with
      | (.ok (), after) => after.write second
      | (.error e, after) => (.error e, after) := by
  obtain ⟨stored, room, refusal⟩ := sink
  cases room with
  | none => simp [write, ByteArray.append_assoc]
  | some room =>
      by_cases hFirst : first.size ≤ room
      · by_cases hSecond : second.size ≤ room - first.size
        · have hBoth : first.size + second.size ≤ room := by omega
          simp [write, hFirst, hSecond, hBoth, ByteArray.append_assoc, Nat.sub_sub]
        · have hBoth : ¬first.size + second.size ≤ room := by omega
          -- The first part is within the room, so cutting does not touch it.
          have hWhole : first.extract 0 room = first := by
            have hMax := @ByteArray.extract_zero_max_size first room
            rwa [Nat.max_eq_left hFirst] at hMax
          simp [write, hFirst, hSecond, hBoth, ByteArray.append_assoc, ByteArray.extract_append,
            hWhole]
      · have hBoth : ¬first.size + second.size ≤ room := by omega
        have hRoom : room - first.size = 0 := by omega
        simp [write, hFirst, hBoth, ByteArray.extract_append, hRoom]

theorem write_empty (sink : Sink) : sink.write .empty = (.ok (), sink) := by
  obtain ⟨stored, room, refusal⟩ := sink
  cases room <;> simp [write]

/-- Line after line is one write of the whole text. -/
theorem writeLines_eq_write (sink : Sink) (lines : List String) :
    sink.writeLines lines = sink.write (Text.unlines lines).toUTF8 := by
  induction lines generalizing sink with
  | nil => exact (write_empty sink).symm
  | cons line rest ih =>
      have hBytes : (Text.unlines (line :: rest)).toUTF8 =
          (line ++ "\n").toUTF8 ++ (Text.unlines rest).toUTF8 := by
        simp only [Text.unlines_cons, String.toUTF8_eq_toByteArray, String.toByteArray_append]
      rw [hBytes, write_append, writeLines]
      rcases sink.write (line ++ "\n").toUTF8 with ⟨outcome, after⟩
      cases outcome with
      | error e => rfl
      | ok done => exact ih after

/-- A buffer holds the beginning of what is written to it, and refuses a write that does
not fit. -/
theorem write_buffer (limit : Nat) (bytes : ByteArray) :
    ∃ after, after.stored = bytes.extract 0 (min limit bytes.size) ∧
      (buffer limit).write bytes =
        (if bytes.size ≤ limit then .ok () else .error .bufferFull, after) := by
  by_cases hSize : bytes.size ≤ limit
  · refine ⟨⟨bytes, some (limit - bytes.size), .bufferFull⟩, ?_, ?_⟩
    · rw [Nat.min_eq_right hSize]
      exact ByteArray.extract_zero_size.symm
    · simp [buffer, write, hSize]
  · refine ⟨⟨bytes.extract 0 limit, some 0, .bufferFull⟩, ?_, ?_⟩
    · rw [Nat.min_eq_left (Nat.le_of_not_le hSize)]
    · simp [buffer, write, hSize]

end Sink

namespace Emitter

variable {e : Emitter} {s : Sequence} {source : String}

/-- An emission writes the source once and passes on what the sink says to it. -/
theorem emit_eq_write (hRender : e.render s = .ok source) (sink : Sink) :
    e.emit s sink =
      match sink.write source.toUTF8 with
      | (.error cause, after) => ⟨.error (.write cause), after, [e.emitSpan]⟩
      | (.ok (), after) => ⟨.ok (), after, [e.emitSpan, emittedEvent s]⟩ := by
  obtain ⟨hSound, hSource⟩ := render_eq_ok_iff.mp hRender
  rw [emit, check_eq_ok_iff.mpr hSound, Sink.writeLines_eq_write, ← hSource]
  rfl

/-- What is rendered is what an unlimited sink takes. -/
theorem emit_of_render (hRender : e.render s = .ok source) (sink : Sink)
    (hRoom : sink.room = none) :
    e.emit s sink =
      ⟨.ok (), { sink with stored := sink.stored ++ source.toUTF8 },
        [e.emitSpan, emittedEvent s]⟩ := by
  have hWrite : sink.write source.toUTF8 =
      (.ok (), { sink with stored := sink.stored ++ source.toUTF8 }) := by
    rw [Sink.write, hRoom]
  rw [emit_eq_write hRender, hWrite]

/-- Without a source to write the sink is not touched. -/
theorem emit_of_render_error {cause : EmitError} (hRender : e.render s = .error cause)
    (sink : Sink) : e.emit s sink = ⟨.error cause, sink, [e.emitSpan]⟩ := by
  rw [emit, render_eq_error_iff.mp hRender]

/-- Rendering is emission into a sink without a limit: the verdict is that of the emission,
and the source is spelled by the bytes that the sink ends up with. -/
theorem render_eq_emit (e : Emitter) (s : Sequence) :
    (e.render s).map String.toUTF8 =
      (e.emit s .unlimited).outcome.map fun _ => (e.emit s .unlimited).sink.stored := by
  cases hRender : e.render s with
  | error cause =>
      rw [emit_of_render_error hRender]
      rfl
  | ok source =>
      rw [emit_of_render hRender .unlimited rfl]
      simp [Sink.unlimited, Except.map]

/-- The log ends with the event just when the emission went through. -/
theorem log_emit (e : Emitter) (s : Sequence) (sink : Sink) :
    ((e.emit s sink).outcome = .ok () → (e.emit s sink).log = [e.emitSpan, emittedEvent s]) ∧
      ((e.emit s sink).outcome ≠ .ok () → (e.emit s sink).log = [e.emitSpan]) := by
  unfold emit
  split
  · simp
  · split <;> simp

/-- A buffer of any size gets the beginning of the source that it has room for. A source
that fits exactly is a success; what is refused before the first byte leaves the buffer
empty. -/
theorem emit_into_buffer (e : Emitter) (s : Sequence) (limit : Nat) :
    (∀ text, e.render s = .ok text →
      (e.emit s (.buffer limit)).sink.stored =
        text.toUTF8.extract 0 (min limit text.utf8ByteSize) ∧
      ((e.emit s (.buffer limit)).outcome = .ok () ↔ text.utf8ByteSize ≤ limit) ∧
      (limit < text.utf8ByteSize →
        (e.emit s (.buffer limit)).outcome = .error (.write .bufferFull))) ∧
    (∀ cause, e.render s = .error cause →
      (e.emit s (.buffer limit)).outcome = .error cause ∧
      (e.emit s (.buffer limit)).sink.stored = .empty) ∧
    ((e.emit s (.buffer limit)).outcome = .ok () →
      (e.emit s (.buffer limit)).log = [e.emitSpan, emittedEvent s]) ∧
    ((e.emit s (.buffer limit)).outcome ≠ .ok () →
      (e.emit s (.buffer limit)).log = [e.emitSpan]) := by
  refine ⟨?_, ?_, log_emit e s (.buffer limit)⟩
  · intro text hRender
    obtain ⟨after, hStored, hWrite⟩ := Sink.write_buffer limit text.toUTF8
    have hSize : text.toUTF8.size = text.utf8ByteSize := String.size_toByteArray
    rw [hSize] at hStored hWrite
    rw [emit_eq_write hRender, hWrite]
    by_cases hFits : text.utf8ByteSize ≤ limit
    · rw [if_pos hFits]
      exact ⟨hStored, iff_of_true rfl hFits, fun hShort => absurd hFits (Nat.not_le.mpr hShort)⟩
    · rw [if_neg hFits]
      exact ⟨hStored, iff_of_false (by simp) hFits, fun _ => rfl⟩
  · intro cause hRender
    rw [emit_of_render_error hRender]
    exact ⟨rfl, rfl⟩

/-- The same source is cut after ten bytes and fits a buffer of its size. Under a bad name
there is none. -/
theorem emit_into_buffer_cut :
    ∃ e bad : Emitter, e = { lang := .python } ∧ bad = { lang := .python, symbol := "9n" } ∧
      e.render .neg82 = .ok (e.source .neg82) ∧ 10 < (e.source .neg82).utf8ByteSize ∧
      (e.emit .neg82 (.buffer 10)).sink.stored = "# Multiply".toUTF8 ∧
      (e.emit .neg82 (.buffer 10)).outcome = .error (.write .bufferFull) ∧
      (e.emit .neg82 (.buffer (e.source .neg82).utf8ByteSize)).log =
        [e.emitSpan, emittedEvent .neg82] ∧
      (bad.emit .neg82 (.buffer 10)).outcome = .error (.badSymbol "9n" (.badStart '9')) ∧
      (bad.emit .neg82 (.buffer 10)).sink.stored = .empty := by
  have hLong : 10 < (Emitter.source { lang := .python } .neg82).utf8ByteSize := by
    decide +kernel
  obtain ⟨hCut, -⟩ := emit_into_buffer { lang := .python } .neg82 10
  obtain ⟨hStored, -, hRefused⟩ := hCut _ rfl
  obtain ⟨hWhole, -, hLog, -⟩ := emit_into_buffer { lang := .python } .neg82
    (Emitter.source { lang := .python } .neg82).utf8ByteSize
  obtain ⟨-, hFits, -⟩ := hWhole _ rfl
  obtain ⟨-, hBad, -⟩ := emit_into_buffer { lang := .python, symbol := "9n" } .neg82 10
  refine ⟨{ lang := .python }, { lang := .python, symbol := "9n" }, rfl, rfl, rfl, hLong, ?_,
    hRefused hLong, hLog (hFits.mpr (Nat.le_refl _)), hBad _ rfl⟩
  rw [hStored]
  decide +kernel

end Emitter

end Multiplierless
