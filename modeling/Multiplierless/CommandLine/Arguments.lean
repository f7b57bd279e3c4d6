/-!
Command-line arguments as a list of items: options with their values, flags and
operands. An option's value stands in the next argument or is attached to the
option; two dashes alone end the options. The items come in the order of the
arguments, and the first thing that cannot be understood ends the list.
-/

namespace Multiplierless.CommandLine

/-- The options of all commands. -/
inductive Switch
  | width
  | lang
  | harness
  | output
  deriving DecidableEq

namespace Switch

/-- The name after two dashes. -/
def long : Switch → String
  | width => "width"
  | lang => "lang"
  | harness => "harness"
  | output => "output"

/-- The letter after one dash, for the options that have one. -/
def short? : Switch → Option Char
  | width => none
  | lang => none
  | harness => none
  | output => some 'o'

def takesValue : Switch → Bool
  | width => true
  | lang => true
  | harness => false
  | output => true

end Switch

/-- Why a command line cannot be understood. -/
inductive UsageError
  | missingCommand
  | unknownCommand (argument : String)
  | unknownOption (argument : String)
  | missingValue (switch : Switch)
  | badValue (switch : Switch) (value : String)
  | surplusValue (switch : Switch)
  | repeated (switch : Switch)
  | badNumber (argument : String)
  | surplusOperand (argument : String)
  | missingOption (switch : Switch)
  | missingNumbers
  deriving DecidableEq

namespace UsageError

def message : UsageError → String
  | missingCommand => "a command is missing"
  | unknownCommand argument => "unknown command " ++ argument
  | unknownOption argument => "unknown option " ++ argument
  | missingValue switch => "--" ++ switch.long ++ " needs a value"
  | badValue switch value => "--" ++ switch.long ++ " does not take " ++ value
  | surplusValue switch => "--" ++ switch.long ++ " takes no value"
  | repeated switch => "--" ++ switch.long ++ " is given twice"
  | badNumber argument => argument ++ " is not a number of 64 bits"
  | surplusOperand argument => "surplus argument " ++ argument
  | missingOption switch => "--" ++ switch.long ++ " is missing"
  | missingNumbers => "a number is missing"

end UsageError

/-- Why the reading of arguments ends early. -/
inductive Stop
  | help
  | usage (e : UsageError)
  deriving DecidableEq

inductive Item
  | option (switch : Switch) (value : String)
  | flag (switch : Switch)
  | operand (text : String)
  | stop (reason : Stop)
  deriving DecidableEq

/-- What a command takes: its options, and whether an argument such as `-5` is an
operand for it. -/
structure Grammar where
  switches : List Switch
  negativeNumbers : Bool

namespace Grammar

def long? (grammar : Grammar) (name : List Char) : Option Switch :=
  grammar.switches.find? fun switch => switch.long.toList = name

def short? (grammar : Grammar) (letter : Char) : Option Switch :=
  grammar.switches.find? fun switch => switch.short? = some letter

end Grammar

/-- Digits with at most one point among them and at most one exponent, neither
of them in front and the exponent not at the end. -/
def looksNumeric (seenPoint seenExponent : Bool) : List Char → Bool
  | [] => true
  | c :: rest =>
      if c.isDigit then
        looksNumeric seenPoint seenExponent rest
      else if c = '.' && !seenPoint && !seenExponent then
        looksNumeric true seenExponent rest
      else if c = 'e' && !seenExponent && !rest.isEmpty then
        looksNumeric seenPoint true rest
      else
        false

/-- Whether the characters after a dash make a number. -/
def isNumber : List Char → Bool
  | [] => false
  | c :: rest => c.isDigit && looksNumeric false false rest

/-- What one argument is by itself. A value may still have to follow it. -/
inductive Reading
  | item (item : Item)
  | wantsValue (switch : Switch)
  | endOfOptions

/-- Splits at the first equals sign. -/
def splitValue : List Char → List Char × Option (List Char)
  | [] => ([], none)
  | c :: rest =>
      if c = '=' then
        ([], some rest)
      else
        let (name, value) := splitValue rest
        (c :: name, value)

/-- An argument that starts with two dashes, of which the rest is given. -/
def readLong (grammar : Grammar) (argument : String) (rest : List Char) : Reading :=
  match splitValue rest with
  | (name, value) =>
      match grammar.long? name with
      | some switch =>
          match switch.takesValue, value with
          | true, some chars => .item (.option switch (String.ofList chars))
          | true, none => .wantsValue switch
          | false, some _ => .item (.stop (.usage (.surplusValue switch)))
          | false, none => .item (.flag switch)
      | none =>
          if name = "help".toList ∧ value = none then
            .item (.stop .help)
          else
            .item (.stop (.usage (.unknownOption argument)))

/-- An argument that starts with one dash: its letter and what is attached. One
equals sign in front of an attached value is dropped. -/
def readShort (grammar : Grammar) (argument : String) (letter : Char) (rest : List Char) :
    Reading :=
  match grammar.short? letter with
  | some switch =>
      match rest with
      | [] => .wantsValue switch
      | '=' :: chars => .item (.option switch (String.ofList chars))
      | chars => .item (.option switch (String.ofList chars))
  | none =>
      if letter = 'h' then
        .item (.stop .help)
      else
        .item (.stop (.usage (.unknownOption argument)))

def readArgument (grammar : Grammar) (argument : String) : Reading :=
  match argument.toList with
  | ['-', '-'] => .endOfOptions
  | '-' :: '-' :: rest => readLong grammar argument rest
  | '-' :: letter :: rest =>
      if grammar.negativeNumbers && isNumber (letter :: rest) then
        .item (.operand argument)
      else
        readShort grammar argument letter rest
  | _ => .item (.operand argument)

/-- Whether an argument can be the value of the option before it: it does not
start with a dash, unless a dash is all there is. -/
def isValue (argument : String) : Bool :=
  match argument.toList with
  | '-' :: _ :: _ => false
  | _ => true

/-- Reads all arguments of a command. -/
def items (grammar : Grammar) : List String → List Item
  | [] => []
  | argument :: rest =>
      match readArgument grammar argument with
      | .item item => item :: items grammar rest
      | .endOfOptions => rest.map Item.operand
      | .wantsValue switch =>
          match rest with
          | [] => [.stop (.usage (.missingValue switch))]
          | value :: rest =>
              if isValue value then
                .option switch value :: items grammar rest
              else
                [.stop (.usage (.missingValue switch))]

end Multiplierless.CommandLine
