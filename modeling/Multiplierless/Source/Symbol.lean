import Multiplierless.Step
import Multiplierless.Text

/-!
The name of a routine's parameter. It has to be an ASCII identifier, so that every
language takes it, and must not be the name of a temporary that the routine
assigns. Reserved words are not looked for.
-/

namespace Multiplierless

inductive SymbolFlaw
  | empty
  | badStart (c : Char)
  | badCharacter (c : Char)
  | taken
  deriving DecidableEq

namespace SymbolFlaw

def reason : SymbolFlaw → String
  | empty => "empty"
  | badStart c => "cannot start with " ++ Text.quotedChar c
  | badCharacter c => "contains " ++ Text.quotedChar c
  | taken => "collides with a temporary"

end SymbolFlaw

namespace Symbol

def startsName (c : Char) : Bool :=
  c.isAlpha || c = '_'

def continuesName (c : Char) : Bool :=
  c.isAlphanum || c = '_'

/-- The first thing that is wrong with a parameter name, given the operands that
the routine assigns. -/
def flaw? (assigned : List Operand) (symbol : String) : Option SymbolFlaw :=
  match symbol.toList with
  | [] => some .empty
  | first :: rest =>
      if startsName first then
        match rest.find? fun c => !continuesName c with
        | some c => some (.badCharacter c)
        | none =>
            if assigned.any fun x => x.text = symbol then some .taken else none
      else
        some (.badStart first)

end Symbol

end Multiplierless
