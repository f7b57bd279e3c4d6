import Multiplierless.CommandLine.Report

/-!
The program itself. Everything is decided by pure functions; here the report is
handed to the streams, and a file that a command asks for is opened in the real
file system.
-/

namespace Multiplierless.CommandLine

/-- The number and the text of an error that the operating system gave. -/
def osErrorOf : IO.Error → OsError
  | .alreadyExists _ code text => ⟨code.toNat, text⟩
  | .otherError code text => ⟨code.toNat, text⟩
  | .resourceBusy code text => ⟨code.toNat, text⟩
  | .resourceVanished code text => ⟨code.toNat, text⟩
  | .unsupportedOperation code text => ⟨code.toNat, text⟩
  | .hardwareFault code text => ⟨code.toNat, text⟩
  | .unsatisfiedConstraints code text => ⟨code.toNat, text⟩
  | .illegalOperation code text => ⟨code.toNat, text⟩
  | .protocolError code text => ⟨code.toNat, text⟩
  | .timeExpired code text => ⟨code.toNat, text⟩
  | .interrupted _ code text => ⟨code.toNat, text⟩
  | .noFileOrDirectory _ code text => ⟨code.toNat, text⟩
  | .invalidArgument _ code text => ⟨code.toNat, text⟩
  | .permissionDenied _ code text => ⟨code.toNat, text⟩
  | .resourceExhausted _ code text => ⟨code.toNat, text⟩
  | .inappropriateType _ code text => ⟨code.toNat, text⟩
  | .noSuchThing _ code text => ⟨code.toNat, text⟩
  | .unexpectedEof => ⟨0, "unexpected end of file"⟩
  | .userError text => ⟨0, text⟩

/-- Prints a report and gives its exit code. -/
def deliver (report : Report) : IO UInt32 := do
  let stdout ← IO.getStdout
  stdout.write report.stdout
  stdout.flush
  let stderr ← IO.getStderr
  stderr.write report.stderr
  stderr.flush
  return report.exit.toUInt32

/-- Writes what a report has for its files to one open file. -/
def fill (handle : IO.FS.Handle) (report : Report) : IO Unit := do
  for (_, content) in report.files do
    handle.write content
  handle.flush

/-- Writes the routine to a file of the real file system. Only opening the file and
handing over the bytes is done here. A write that fails there is a write to a sink that
refuses, with the reason that was given. -/
def save (e : Emitter) (path : String) : IO Report := do
  match ← (IO.FS.Handle.mk path .write).toBaseIO with
  | .error cause => return .failed "" (.create path (osErrorOf cause))
  | .ok handle =>
      let target := Target.file [path]
      let report := writtenReport e path target .unlimited
      match ← (fill handle report).toBaseIO with
      | .ok () => return report
      | .error cause => return writtenReport e path target (.refusing (osErrorOf cause))

end Multiplierless.CommandLine

open Multiplierless.CommandLine in
/-- Runs the command that the arguments ask for. Without a file to save, no file tree is
looked at. -/
def main (arguments : List String) : IO UInt32 := do
  match Command.read arguments with
  | .ok (.emit e (some path)) => deliver (← save e path)
  | _ => deliver (run ⟨[], []⟩ arguments)
