import Multiplierless.CommandLine.Arguments
import Multiplierless.Source.Emitter
import Multiplierless.Word

/-!
The commands and how they are read from the arguments. The command's name comes
first, its options and operands follow in any order. An option may be given once.
Items are looked at in order, what is missing is noticed at the end.
-/

namespace Multiplierless.CommandLine

/-- What the user asks for: products of numbers, the step sequence with its
factors, or the source of the routine, which may go to a file. -/
inductive Command
  | eval (width : Width) (numbers : List Int)
  | listing
  | emit (emitter : Emitter) (output : Option String)
  deriving DecidableEq

/-- The widths that can be asked for. -/
def widthNamed? : String → Option Width
  | "8" => some .w8
  | "16" => some .w16
  | "32" => some .w32
  | "64" => some .w64
  | _ => none

/-- A number on the command line has 64 bits, whatever the width asked for. -/
def number? (argument : String) : Option Int :=
  (Decimal.read? argument).bind fun v => if Word.InRange 64 v then some v else none

structure EvalDraft where
  width : Option Width := none
  numbers : List Int := []

namespace EvalDraft

def grammar : Grammar :=
  ⟨[.width], true⟩

def add (draft : EvalDraft) : Item → Except Stop EvalDraft
  | .option .width value =>
      if draft.width.isSome then
        .error (.usage (.repeated .width))
      else
        match widthNamed? value with
        | some width => .ok { draft with width := some width }
        | none => .error (.usage (.badValue .width value))
  | .option switch _ => .error (.usage (.surplusValue switch))
  | .flag switch => .error (.usage (.unknownOption switch.long))
  | .operand argument =>
      match number? argument with
      | some v => .ok { draft with numbers := draft.numbers ++ [v] }
      | none => .error (.usage (.badNumber argument))
  | .stop reason => .error reason

def finish (draft : EvalDraft) : Except Stop Command :=
  if draft.numbers.isEmpty then
    .error (.usage .missingNumbers)
  else
    .ok (.eval (draft.width.getD .w32) draft.numbers)

end EvalDraft

namespace Listing

def grammar : Grammar :=
  ⟨[], false⟩

def add : Item → Except Stop Unit
  | .option switch _ => .error (.usage (.unknownOption switch.long))
  | .flag switch => .error (.usage (.unknownOption switch.long))
  | .operand argument => .error (.usage (.surplusOperand argument))
  | .stop reason => .error reason

end Listing

structure EmitDraft where
  lang : Option Language := none
  harness : Bool := false
  output : Option String := none

namespace EmitDraft

def grammar : Grammar :=
  ⟨[.lang, .harness, .output], false⟩

def add (draft : EmitDraft) : Item → Except Stop EmitDraft
  | .option .lang value =>
      if draft.lang.isSome then
        .error (.usage (.repeated .lang))
      else
        match Language.named? false value with
        | some lang => .ok { draft with lang := some lang }
        | none => .error (.usage (.badValue .lang value))
  | .option .output value =>
      if draft.output.isSome then
        .error (.usage (.repeated .output))
      else if value = "" then
        .error (.usage (.badValue .output value))
      else
        .ok { draft with output := some value }
  | .option switch _ => .error (.usage (.unknownOption switch.long))
  | .flag .harness =>
      if draft.harness then
        .error (.usage (.repeated .harness))
      else
        .ok { draft with harness := true }
  | .flag switch => .error (.usage (.unknownOption switch.long))
  | .operand argument => .error (.usage (.surplusOperand argument))
  | .stop reason => .error reason

def finish (draft : EmitDraft) : Except Stop Command :=
  match draft.lang with
  | none => .error (.usage (.missingOption .lang))
  | some lang => .ok (.emit { lang := lang, harness := draft.harness } draft.output)

end EmitDraft

/-- Adds items one after the other and stops at the first that is refused. -/
def addAll {Draft : Type} (add : Draft → Item → Except Stop Draft) (draft : Draft) :
    List Item → Except Stop Draft
  | [] => .ok draft
  | item :: rest => do
      let draft ← add draft item
      addAll add draft rest

namespace Command

/-- The names of the commands, with the one that explains them. -/
def names : List String :=
  ["eval", "show", "emit", "help"]

/-- Explains at most one command, which must exist. -/
def readHelp : List String → Stop
  | [] => .help
  | [name] => if name ∈ names then .help else .usage (.unknownCommand name)
  | _ :: argument :: _ => .usage (.unknownCommand argument)

def read : List String → Except Stop Command
  | [] => .error (.usage .missingCommand)
  | "eval" :: rest => do
      let draft ← addAll EvalDraft.add {} (items EvalDraft.grammar rest)
      draft.finish
  | "show" :: rest => do
      addAll (fun _ item => Listing.add item) () (items Listing.grammar rest)
      pure .listing
  | "emit" :: rest => do
      let draft ← addAll EmitDraft.add {} (items EmitDraft.grammar rest)
      draft.finish
  | "help" :: rest => .error (readHelp rest)
  | argument :: _ =>
      match readArgument ⟨[], false⟩ argument with
      | .item (.stop reason) => .error reason
      | _ => .error (.usage (.unknownCommand argument))

end Command

end Multiplierless.CommandLine
