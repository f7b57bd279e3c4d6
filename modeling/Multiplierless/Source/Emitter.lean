import Multiplierless.Sequence.Basic
import Multiplierless.Source.Language
import Multiplierless.Text

/-!
A sequence written as a routine: one assignment for each step, the result
returned at the end, and on demand assertions for the inputs one to six. This
module only says which lines there are, it does not check the sequence or the
name of the parameter.
-/

namespace Multiplierless

/-- How a routine is to be written. -/
structure Emitter where
  lang : Language
  harness : Bool := false
  symbol : String := "n"
  deriving DecidableEq

namespace Emitter

/-- Shows the options as a value with its fields. -/
def inspect (e : Emitter) : String :=
  Text.record "Emitter" [("lang", e.lang.title), ("harness", Text.truth e.harness),
    ("input_symbol", Text.quoted e.symbol)]

/-- The inputs that the assertions try. -/
def harnessInputs : List Nat :=
  [1, 2, 3, 4, 5, 6]

/-- The name of an operand in the routine. -/
def name (e : Emitter) : Operand → String
  | .input => e.symbol
  | .temp index => (Operand.temp index).text

def signature (e : Emitter) : String :=
  match e.lang with
  | .c => "int multiply(int " ++ e.symbol ++ ") \x7b"
  | .python => "def multiply(" ++ e.symbol ++ ": int):"
  | .rust => "pub fn multiply(" ++ e.symbol ++ ": i32) -> i32 \x7b"

/-- The names that have to be declared before they are assigned. -/
def declarations (e : Emitter) (s : Sequence) : List String :=
  match e.lang with
  | .c => ["  int " ++ ", ".intercalate (s.temporaries.map e.name) ++ ";"]
  | .python => []
  | .rust => []

def difference (e : Emitter) (lhs rhs : String) : String :=
  match e.lang with
  | .c => lhs ++ " - " ++ rhs
  | .python => lhs ++ " - " ++ rhs
  | .rust => lhs ++ ".wrapping_sub(" ++ rhs ++ ")"

/-- The right-hand side of a step's assignment. -/
def expression (e : Emitter) : Step → String
  | .shl _ src amount => e.name src ++ " << " ++ Decimal.ofNat amount.toNat
  | .sub _ lhs rhs => e.difference (e.name lhs) (e.name rhs)

def assignment (e : Emitter) (step : Step) : String :=
  match e.lang with
  | .c => "  " ++ e.name step.dst ++ " = " ++ e.expression step ++ ";"
  | .python => "\t" ++ e.name step.dst ++ " = " ++ e.expression step
  | .rust => "    let " ++ e.name step.dst ++ " = " ++ e.expression step ++ ";"

/-- Returns the result and ends the routine. -/
def ending (e : Emitter) (output : Operand) : List String :=
  match e.lang with
  | .c => ["  return " ++ e.name output ++ ";", "\x7d"]
  | .python => ["\treturn " ++ e.name output]
  | .rust => ["    " ++ e.name output, "\x7d"]

/-- The lines from the comment on top to the end of the routine. -/
def routine (e : Emitter) (s : Sequence) : List String :=
  (e.lang.comment ++ " Multiply by " ++ multiplier.text ++ " using the fewest operations") ::
    e.signature :: e.declarations s ++ s.steps.map e.assignment ++ e.ending s.output

def product (n : Nat) : String :=
  Decimal.ofInt (n * multiplier.value)

/-- One assertion that the routine gives the product for an input. -/
def assertion (e : Emitter) (n : Nat) : String :=
  match e.lang with
  | .c => "  assert(multiply(" ++ Decimal.ofNat n ++ ") == " ++ product n ++ ");"
  | .python => "assert(multiply(" ++ Decimal.ofNat n ++ ") == " ++ product n ++ ")"
  | .rust => "    assert_eq!(multiply(" ++ Decimal.ofNat n ++ "), " ++ product n ++ ");"

def assertions (e : Emitter) : List String :=
  match e.lang with
  | .c => "int main() \x7b" :: harnessInputs.map e.assertion ++ ["\x7d"]
  | .python => harnessInputs.map e.assertion
  | .rust =>
      "#[test]" :: "fn multiply_small_inputs() \x7b" :: harnessInputs.map e.assertion ++ ["\x7d"]

/-- What the assertions need in front of the routine. -/
def preamble (e : Emitter) : List String :=
  match e.lang with
  | .c => ["#include <assert.h>", ""]
  | .python => []
  | .rust => []

/-- All lines of the source, without their newlines. -/
def lines (e : Emitter) (s : Sequence) : List String :=
  if e.harness then
    e.preamble ++ e.routine s ++ "" :: e.assertions
  else
    e.routine s

/-- The source as one text. -/
def source (e : Emitter) (s : Sequence) : String :=
  Text.unlines (e.lines s)

end Emitter

end Multiplierless
