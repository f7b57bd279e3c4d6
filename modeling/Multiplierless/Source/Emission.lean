import Multiplierless.Source.Emitter
import Multiplierless.Source.Sink
import Multiplierless.Source.Symbol

/-!
Emission of a routine. Only a sequence that multiplies by -82 on 32-bit words is
written, and only under a sound parameter name; both are checked before the first
byte. The sequence is checked before the name.
-/

namespace Multiplierless

inductive EmitError
  | sequence (e : SequenceError)
  | badSymbol (symbol : String) (flaw : SymbolFlaw)
  | write (e : WriteError)
  deriving DecidableEq

namespace EmitError

def message : EmitError → String
  | sequence e => "cannot emit an invalid sequence: " ++ e.message
  | badSymbol symbol flaw =>
      "invalid input symbol " ++ Text.quoted symbol ++ ": " ++ flaw.reason
  | write e => "failed to write generated source: " ++ e.message

/-- The message of the error that caused this one, if another one did. -/
def cause? : EmitError → Option String
  | sequence e => some e.message
  | badSymbol _ _ => none
  | write e => some e.message

end EmitError

/-- How an emission ended, what the sink holds after it, and what was logged. -/
structure Emission where
  outcome : Except EmitError Unit
  sink : Sink
  log : List LogRecord

namespace Emitter

/-- The width that emitted routines compute at. -/
def routineBits : Nat :=
  32

def check (e : Emitter) (s : Sequence) : Except EmitError Unit :=
  match s.validate routineBits multiplier with
  | .error cause => .error (.sequence cause)
  | .ok () =>
      match Symbol.flaw? s.temporaries e.symbol with
      | some flaw => .error (.badSymbol e.symbol flaw)
      | none => .ok ()

/-- The source of the routine. It is what an emission leaves in a sink without a limit, as
`render_eq_emit` shows, and is given here without going through bytes. -/
def render (e : Emitter) (s : Sequence) : Except EmitError String :=
  match e.check s with
  | .error cause => .error cause
  | .ok () => .ok (e.source s)

def emitSpan (e : Emitter) : LogRecord :=
  .span "emit" .debug [("lang", e.lang.title), ("harness", Text.truth e.harness)]

def emittedEvent (s : Sequence) : LogRecord :=
  .event .debug [("message", "emitted routine"), ("steps", Decimal.ofNat s.length)]

/-- Writes the routine to a sink. Nothing is written unless the checks pass. -/
def emit (e : Emitter) (s : Sequence) (sink : Sink) : Emission :=
  match e.check s with
  | .error cause => ⟨.error cause, sink, [e.emitSpan]⟩
  | .ok () =>
      match sink.writeLines (e.lines s) with
      | (.error cause, sink) => ⟨.error (.write cause), sink, [e.emitSpan]⟩
      | (.ok (), sink) => ⟨.ok (), sink, [e.emitSpan, emittedEvent s]⟩

/-- The source together with the log of its emission. -/
def renderLogged (e : Emitter) (s : Sequence) : Logged (Except EmitError String) :=
  ⟨e.render s, (e.emit s .unlimited).log⟩

end Emitter

end Multiplierless
