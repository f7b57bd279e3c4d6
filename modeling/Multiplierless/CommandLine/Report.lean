import Multiplierless.CommandLine.Command
import Multiplierless.Cost
import Multiplierless.FileTree
import Multiplierless.Source.Emission

/-!
What running a command leaves behind: an exit code, two streams and the files that
got new content. A command that has to save a file is run against a file tree,
all others need none.
-/

namespace Multiplierless.CommandLine

/-- Why a command that was understood did not succeed. -/
inductive Failure
  | outsideWord (v : Int) (bits : Nat)
  | sequence (e : SequenceError)
  | disagreement (n result interpreted direct : Int)
  | create (path : String) (e : OsError)
  | save (path : String) (e : EmitError)
  | emission (e : EmitError)
  deriving DecidableEq

namespace Failure

/-- What went wrong. -/
def headline : Failure → String
  | outsideWord v bits =>
      Decimal.ofInt v ++ " does not fit in a " ++ Decimal.ofNat bits ++ "-bit word"
  | sequence e => e.message
  | disagreement n result interpreted direct =>
      Decimal.ofInt n ++ " * -82: sequence gave " ++ Decimal.ofInt result ++
        ", interpreter " ++ Decimal.ofInt interpreted ++ ", direct " ++ Decimal.ofInt direct
  | create path _ => "failed to create " ++ path
  | save path _ => "failed to write " ++ path
  | emission e => e.message

/-- Why it went wrong, from the nearest cause to the first. -/
def causes : Failure → List String
  | outsideWord _ _ => []
  | sequence _ => []
  | disagreement _ _ _ _ => []
  | create _ e => [e.message]
  | save _ e => e.message :: e.cause?.toList
  | emission e => e.cause?.toList

def numbered (index : Nat) : List String → List String
  | [] => []
  | cause :: rest =>
      (Text.padLeft 5 (Decimal.ofNat index) ++ ": " ++ cause) :: numbered (index + 1) rest

/-- A single cause is indented, several are numbered. -/
def causeLines : List String → List String
  | [] => []
  | [cause] => ["", "Caused by:", "    " ++ cause]
  | several => "" :: "Caused by:" :: numbered 0 several

/-- The text of a failure on the error stream. -/
def text (failure : Failure) : String :=
  Text.unlines (("Error: " ++ failure.headline) :: causeLines failure.causes)

end Failure

structure Report where
  exit : Nat
  stdout : ByteArray
  stderr : ByteArray
  files : List (Place × ByteArray)

namespace Report

/-- The report of a command that printed a text and did nothing else. -/
def printed (text : String) : Report :=
  ⟨0, text.toUTF8, .empty, []⟩

/-- The report of a command that failed after it had printed a text. -/
def failed (text : String) (failure : Failure) : Report :=
  ⟨1, text.toUTF8, failure.text.toUTF8, []⟩

end Report

/-- The line for one number, if the number fits. All three ways to compute the
product have to agree. -/
def productLine (w : Width) (v : Int) : Except Failure String :=
  match (Word.ofInt? v : Option (Word w.bits)) with
  | none => .error (.outsideWord v w.bits)
  | some n =>
      let result := Product.byShifts w n
      match Sequence.neg82.eval n with
      | .error e => .error (.sequence e)
      | .ok interpreted =>
          let direct := Product.direct n
          if result = direct ∧ interpreted = direct then
            .ok (n.text ++ " * -82 = " ++ result.text)
          else
            .error (.disagreement n.value result.value interpreted.value direct.value)

/-- The lines up to the first number that fails, and that failure. -/
def productLines (w : Width) : List Int → List String × Option Failure
  | [] => ([], none)
  | v :: rest =>
      match productLine w v with
      | .error failure => ([], some failure)
      | .ok line =>
          let (lines, failure) := productLines w rest
          (line :: lines, failure)

def evalReport (w : Width) (numbers : List Int) : Report :=
  match productLines w numbers with
  | (lines, none) => .printed (Text.unlines lines)
  | (lines, some failure) => .failed (Text.unlines lines) failure

theorem neg82_cost : ∃ cost, Sequence.neg82.cost = .ok cost :=
  ⟨7, rfl⟩

theorem neg82_beatsMultiply :
    ∃ profitable, (default : CostModel).beatsMultiply Sequence.neg82 = .ok profitable :=
  ⟨true, rfl⟩

/-- Each step with the factor that it writes. -/
def factorLine (step : Step) (factor : Word Check.widestBits) : String :=
  Text.padRight 16 step.text ++ " n * " ++ factor.text

def costLine : String :=
  "cost: " ++ Decimal.ofNat (Fault.valueOf Sequence.neg82.cost neg82_cost).toNat ++
    " (multiply instruction: " ++ Decimal.ofNat (default : CostModel).mult.toNat ++
    ", profitable: " ++ Text.truth (Fault.valueOf _ neg82_beatsMultiply) ++ ")"

def listingLines : List String :=
  List.zipWith factorLine Sequence.neg82.steps Sequence.neg82.factors ++ ["--", costLine]

/-- The routine on the output stream. -/
def emitReport (e : Emitter) : Report :=
  let emission := e.emit Sequence.neg82 .unlimited
  match emission.outcome with
  | .ok () => ⟨0, emission.sink.stored, .empty, []⟩
  | .error cause => ⟨1, emission.sink.stored, (Failure.emission cause).text.toUTF8, []⟩

/-- The routine in a sink that was opened at a path. The target says what stands at the
path, the sink what it takes. -/
def writtenReport (e : Emitter) (path : String) (target : Target) (sink : Sink) : Report :=
  let emission := e.emit Sequence.neg82 sink
  let content := emission.sink.stored
  match emission.outcome with
  | .ok () =>
      ⟨0, target.printed .stdout content, target.printed .stderr content, target.saved content⟩
  | .error cause =>
      ⟨1, target.printed .stdout content,
        target.printed .stderr content ++ (Failure.save path cause).text.toUTF8,
        target.saved content⟩

/-- The routine at a path. Opening the path has its effect even if the routine
cannot be written to it. -/
def saveReport (tree : FileTree) (e : Emitter) (path : String) : Report :=
  match tree.create path with
  | .error cause => .failed "" (.create path cause)
  | .ok target => writtenReport e path target target.sink

def Command.report (tree : FileTree) : Command → Report
  | .eval w numbers => evalReport w numbers
  | .listing => .printed (Text.unlines listingLines)
  | .emit e none => emitReport e
  | .emit e (some path) => saveReport tree e path

/-- How the program is called, in a short text of this library's own. It is not the help
text of the modelled program, and no statement is about its wording or about the usage
messages that end with it. -/
def usageLines : List String :=
  ["Multiply by -82 using shifts and subtractions",
   "",
   "Commands:",
   "  eval [--width 8|16|32|64] NUMBER...",
   "  show",
   "  emit --lang c|python|rust [--harness] [-o FILE]",
   "  help"]

/-- The report of a command line that was not understood, or that asked for
help. Nothing is run then. -/
def Stop.report : Stop → Report
  | .help => .printed (Text.unlines usageLines)
  | .usage e =>
      ⟨2, .empty, (Text.unlines (("error: " ++ e.message) :: "" :: usageLines)).toUTF8, []⟩

/-- The whole program as a function of its arguments and the files around it. -/
def run (tree : FileTree) (arguments : List String) : Report :=
  match Command.read arguments with
  | .error stop => stop.report
  | .ok command => command.report tree

theorem run_of_read {arguments : List String} {command : Command}
    (hRead : Command.read arguments = .ok command) (tree : FileTree) :
    run tree arguments = command.report tree := by
  rw [run, hRead]

theorem run_of_stop {arguments : List String} {stop : Stop}
    (hRead : Command.read arguments = .error stop) (tree : FileTree) :
    run tree arguments = stop.report := by
  rw [run, hRead]

end Multiplierless.CommandLine
