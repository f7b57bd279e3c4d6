import Mathlib.Data.List.Basic
import Multiplierless.Proofs.Source.Routine
import Multiplierless.Proofs.Source.Token
import Multiplierless.Source.Language

/-!
A reader for routines in each of the languages. It looks at the text alone and takes
it only when every line is accounted for: the comment on top, the signature, a
declaration where the language has one, assignments up to the result, and after an
empty line the assertions. Reserved words are not looked for, so any name can be a
parameter.
-/

namespace Multiplierless.Source

abbrev Line :=
  List Token

namespace Reader

/-- What ends a statement. -/
def terminator : Language → Line
  | .c => [.mark ';']
  | .python => []
  | .rust => [.mark ';']

/-- What ends a block of lines. -/
def closing : Language → List Line
  | .c => [[.mark '\x7d']]
  | .python => []
  | .rust => [[.mark '\x7d']]

def isComment : Language → Line → Bool
  | .c, .mark '/' :: .mark '/' :: _ => true
  | .python, .mark '#' :: _ => true
  | .rust, .mark '/' :: .mark '/' :: _ => true
  | _, _ => false

/-- Assertions may have to be included first. -/
def afterPreamble : Language → List Line → List Line
  | .c, [.mark '#', .word "include", .mark '<', .word "assert", .mark '.', .word "h",
      .mark '>'] :: [] :: rest => rest
  | _, lines => lines

/-- The parameter of the routine. -/
def signature? : Language → Line → Option String
  | .c, [.word "int", .word "multiply", .mark '(', .word "int", .word x, .mark ')',
      .mark '\x7b'] => some x
  | .python, [.word "def", .word "multiply", .mark '(', .word x, .mark ':', .word "int",
      .mark ')', .mark ':'] => some x
  | .rust, [.word "pub", .word "fn", .word "multiply", .mark '(', .word x, .mark ':',
      .word "i32", .mark ')', .mark '-', .mark '>', .word "i32", .mark '\x7b'] => some x
  | _, _ => none

/-- Names with commas between them. -/
def names? : Line → Option (List String)
  | [.word x, .mark ';'] => some [x]
  | .word x :: .mark ',' :: rest => (names? rest).map (x :: ·)
  | _ => none

/-- The declared names. Only one language declares, and there it has to. -/
def declaration? : Language → List Line → Option (List String × List Line)
  | .c, (.word "int" :: names) :: rest => (names? names).map (·, rest)
  | .c, _ => none
  | .python, rest => some ([], rest)
  | .rust, rest => some ([], rest)

/-- The name that a line assigns to and the tokens of the value. -/
def assigned? : Language → Line → Option (String × Line)
  | .c, .word x :: .mark '=' :: value => some (x, value)
  | .python, .mark '\t' :: .word x :: .mark '=' :: value => some (x, value)
  | .rust, .word "let" :: .word x :: .mark '=' :: value => some (x, value)
  | _, _ => none

/-- An expression and the tokens after it. -/
def expression? : Language → Line → Option (Expression × Line)
  | _, .word x :: .mark '<' :: .mark '<' :: .word k :: rest =>
      (Decimal.digits? k.toList).map fun amount => (.shl x amount, rest)
  | .c, .word x :: .mark '-' :: .word y :: rest => some (.sub x y, rest)
  | .python, .word x :: .mark '-' :: .word y :: rest => some (.sub x y, rest)
  | .rust, .word x :: .mark '.' :: .word "wrapping_sub" :: .mark '(' :: .word y ::
      .mark ')' :: rest => some (.sub x y, rest)
  | _, _ => none

def assignment? (lang : Language) (line : Line) : Option Assignment := do
  let (target, tokens) ← assigned? lang line
  let (value, rest) ← expression? lang tokens
  if isName target ∧ rest = terminator lang then some ⟨target, value⟩ else none

/-- The name that a line returns. -/
def result? : Language → Line → Option String
  | .c, [.word "return", .word x, .mark ';'] => some x
  | .python, [.mark '\t', .word "return", .word x] => some x
  | .rust, [.word x] => some x
  | _, _ => none

/-- Assignments up to the result, and the lines after it. -/
def body? (lang : Language) : List Line → Option (List Assignment × String × List Line)
  | [] => none
  | line :: rest =>
      match assignment? lang line with
      | some a => do
          let (later, result, rest) ← body? lang rest
          some (a :: later, result, rest)
      | none => (result? lang line).map fun result => ([], result, rest)

/-- A number with at most a minus sign, and the tokens after it. -/
def integer? : Line → Option (Int × Line)
  | .mark '-' :: .word k :: rest =>
      (Decimal.digits? k.toList).map fun (n : Nat) => (-(n : Int), rest)
  | .word k :: rest => (Decimal.digits? k.toList).map fun (n : Nat) => ((n : Int), rest)
  | _ => none

/-- What comes before the input of an assertion. -/
def assertionOpening : Language → Line
  | .c => [.word "assert", .mark '(', .word "multiply", .mark '(']
  | .python => [.word "assert", .mark '(', .word "multiply", .mark '(']
  | .rust => [.word "assert_eq", .mark '!', .mark '(', .word "multiply", .mark '(']

/-- What stands between the input and the number it is held against. -/
def assertionMiddle : Language → Line
  | .c => [.mark ')', .mark '=', .mark '=']
  | .python => [.mark ')', .mark '=', .mark '=']
  | .rust => [.mark ')', .mark ',']

def assertion? (lang : Language) (line : Line) : Option Assertion := do
  let rest ← line.dropPrefix? (assertionOpening lang)
  let (input, rest) ← integer? rest
  let rest ← rest.dropPrefix? (assertionMiddle lang)
  let (expected, rest) ← integer? rest
  if rest = .mark ')' :: terminator lang then some ⟨input, expected⟩ else none

/-- Assertions up to the end of their block, which is the end of the text. -/
def assertions? (lang : Language) : List Line → Option (List Assertion)
  | [] => none
  | line :: rest =>
      if line :: rest = closing lang ++ [[]] then some []
      else do
        let a ← assertion? lang line
        let later ← assertions? lang rest
        some (a :: later)

/-- The lines in front of the assertions. -/
def harnessOpening : Language → List Line
  | .c => [[.word "int", .word "main", .mark '(', .mark ')', .mark '\x7b']]
  | .python => []
  | .rust => [[.mark '#', .mark '[', .word "test", .mark ']'],
      [.word "fn", .word "multiply_small_inputs", .mark '(', .mark ')', .mark '\x7b']]

/-- What follows a routine: nothing, or an empty line and assertions. -/
def harness? (lang : Language) : List Line → Option (List Assertion)
  | [[]] => some []
  | [] :: rest => (rest.dropPrefix? (harnessOpening lang)).bind (assertions? lang)
  | _ => none

end Reader

open Reader in
/-- The routine that a text spells in the given language. -/
def read? (lang : Language) (text : String) : Option Routine :=
  match afterPreamble lang (Token.lines text) with
  | comment :: signature :: rest => do
      let parameter ← signature? lang signature
      let (declared, rest) ← declaration? lang rest
      let (body, result, rest) ← body? lang rest
      let rest ← rest.dropPrefix? (closing lang)
      let assertions ← harness? lang rest
      if isComment lang comment ∧ isName parameter then
        some ⟨parameter, declared, body, result, assertions⟩
      else
        none
  | _ => none

end Multiplierless.Source
