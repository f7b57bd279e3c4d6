/-!
The languages that a routine can be written in, with the names they are asked
for by.
-/

namespace Multiplierless

inductive Language
  | c
  | python
  | rust
  deriving DecidableEq

namespace Language

/-- All languages in the order in which they are offered. -/
def all : List Language :=
  [c, python, rust]

/-- The name as it is written in prose. -/
def title : Language → String
  | c => "C"
  | python => "Python"
  | rust => "Rust"

/-- The name that selects the language. -/
def name : Language → String
  | c => "c"
  | python => "python"
  | rust => "rust"

/-- The usual ending of a file name, without the dot. -/
def extension : Language → String
  | c => "c"
  | python => "py"
  | rust => "rs"

/-- The position among all languages. -/
def index : Language → Nat
  | c => 0
  | python => 1
  | rust => 2

/-- What starts a comment that goes on to the end of the line. -/
def comment : Language → String
  | c => "//"
  | python => "#"
  | rust => "//"

/-- Compares names. Only ASCII letters have a case that can be ignored. -/
def sameName (ignoreCase : Bool) (first second : String) : Bool :=
  if ignoreCase then
    first.toList.map Char.toLower = second.toList.map Char.toLower
  else
    first = second

/-- The language with the given name. -/
def named? (ignoreCase : Bool) (source : String) : Option Language :=
  all.find? fun language => sameName ignoreCase language.name source

/-- What is said about a name that selects no language. -/
def unknownMessage (source : String) : String :=
  "invalid variant: " ++ source

end Language

end Multiplierless
