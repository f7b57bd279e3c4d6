import Multiplierless.Decimal
import Multiplierless.Text

/-!
Places that take bytes. A sink may have room for a limited number of them only;
a write that does not fit stores what does and then fails.
-/

namespace Multiplierless

/-- An error of the operating system: its number and its text. -/
structure OsError where
  code : Nat
  text : String
  deriving DecidableEq

namespace OsError

def noSuchFile : OsError :=
  ⟨2, "No such file or directory"⟩

def notADirectory : OsError :=
  ⟨20, "Not a directory"⟩

def isADirectory : OsError :=
  ⟨21, "Is a directory"⟩

def noSpace : OsError :=
  ⟨28, "No space left on device"⟩

def nameTooLong : OsError :=
  ⟨36, "File name too long"⟩

def message (e : OsError) : String :=
  e.text ++ " (os error " ++ Decimal.ofNat e.code ++ ")"

end OsError

/-- Why a sink did not take everything. -/
inductive WriteError
  | bufferFull
  | os (e : OsError)
  deriving DecidableEq

def WriteError.message : WriteError → String
  | .bufferFull => "failed to write whole buffer"
  | .os e => e.message

/-- The bytes taken so far, how many more there is room for, and the error that a
write gives which finds too little room. No number stands for unlimited room. -/
structure Sink where
  stored : ByteArray
  room : Option Nat
  refusal : WriteError

namespace Sink

def unlimited : Sink :=
  ⟨.empty, none, .bufferFull⟩

/-- A buffer of a fixed number of bytes. -/
def buffer (limit : Nat) : Sink :=
  ⟨.empty, some limit, .bufferFull⟩

/-- A sink that takes nothing, for the reason that the operating system gives. -/
def refusing (e : OsError) : Sink :=
  ⟨.empty, some 0, .os e⟩

/-- A device on which there is no space left. -/
def fullDevice : Sink :=
  .refusing .noSpace

/-- Appends bytes as far as there is room for them. -/
def write (sink : Sink) (bytes : ByteArray) : Except WriteError Unit × Sink :=
  match sink.room with
  | none => (.ok (), { sink with stored := sink.stored ++ bytes })
  | some room =>
      if bytes.size ≤ room then
        (.ok (), { sink with stored := sink.stored ++ bytes, room := some (room - bytes.size) })
      else
        (.error sink.refusal,
          { sink with stored := sink.stored ++ bytes.extract 0 room, room := some 0 })

/-- Writes line after line, each with its newline, and stops at the first write
that fails. -/
def writeLines (sink : Sink) : List String → Except WriteError Unit × Sink
  | [] => (.ok (), sink)
  | line :: rest =>
      match sink.write (line ++ "\n").toUTF8 with
      | (.ok (), sink) => sink.writeLines rest
      | (.error e, sink) => (.error e, sink)

end Sink

end Multiplierless
