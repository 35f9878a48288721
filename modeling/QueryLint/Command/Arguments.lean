/-! # Command-line arguments

Splits the arguments of a command into options and operands. An option has names, long ones of two
dashes and short ones of a single letter. A value follows a long name as the next argument or behind
an equals sign, a short name as the next argument or directly. Short options without values can be
put together. Two dashes alone end the options.
-/

namespace QueryLint.Command

structure OptionSpec where
  /-- The name under which what is read is kept. -/
  key : String
  names : List String
  takesValue : Bool := true
  deriving Repr

/-- The options as they were given, an option without value with an empty one, and the operands. -/
structure Arguments where
  options : List (String × String) := []
  operands : List String := []
  deriving Repr, Inhabited, DecidableEq

namespace Arguments

/-- Whether an option without value was given. -/
def has (a : Arguments) (key : String) : Bool :=
  a.options.any fun o => o.1 = key

/-- The value of an option; the last one counts. -/
def value? (a : Arguments) (key : String) : Option String :=
  a.options.reverse.lookup key

def addOptions (a : Arguments) (options : List (String × String)) : Arguments :=
  { a with options := options ++ a.options }

def addOperand (a : Arguments) (operand : String) : Arguments :=
  { a with operands := operand :: a.operands }

end Arguments

/-- What one argument says: options that are complete, and an option that waits for its value. -/
structure Reading where
  complete : List (String × String) := []
  waiting : Option String := none

def isLongName (name : String) : Bool :=
  name.toList.take 2 = ['-', '-']

def findOption (specs : List OptionSpec) (name : String) : Option OptionSpec :=
  specs.find? fun s => s.names.contains name

/-- Short options behind a dash; the first that takes a value takes all letters behind it. -/
def readShort (specs : List OptionSpec) : List Char → Option Reading
  | [] => some {}
  | c :: r =>
    (findOption specs (String.ofList ['-', c])).bind fun s =>
      if !s.takesValue then
        (readShort specs r).map fun x => { x with complete := (s.key, "") :: x.complete }
      else if r.isEmpty then some { waiting := some s.key }
      else some { complete := [(s.key, String.ofList r)] }

/-- A long option, with a value behind an equals sign or without. -/
def readLong (specs : List OptionSpec) (arg : List Char) : Option Reading :=
  let name := String.ofList (arg.takeWhile (· ≠ '='))
  (findOption specs name).bind fun s =>
    match arg.dropWhile (· ≠ '='), s.takesValue with
    | [], true => some { waiting := some s.key }
    | [], false => some { complete := [(s.key, "")] }
    | _ :: value, true => some { complete := [(s.key, String.ofList value)] }
    | _ :: _, false => none

def readOption (specs : List OptionSpec) (arg : String) : Option Reading :=
  if isLongName arg then readLong specs arg.toList else readShort specs (arg.toList.drop 1)

def isOption (arg : String) : Bool :=
  match arg.toList with
  | '-' :: _ :: _ => true
  | _ => false

/-- Reads arguments. Options may stand behind operands where `mixed` is set; otherwise the first
operand ends the options. An unknown option, a missing value and a value that is not wanted are
errors. -/
def readArguments (specs : List OptionSpec) (mixed : Bool) : List String → Option Arguments
  | [] => some {}
  | arg :: rest =>
    if arg = "--" then some { operands := rest }
    else if isOption arg then
      match readOption specs arg with
      | none => none
      | some { complete, waiting := none } =>
        (readArguments specs mixed rest).map (·.addOptions complete)
      | some { complete, waiting := some key } =>
        match rest with
        | [] => none
        | value :: rest' =>
          (readArguments specs mixed rest').map (·.addOptions (complete ++ [(key, value)]))
    else if mixed then (readArguments specs mixed rest).map (·.addOperand arg)
    else some { operands := arg :: rest }

end QueryLint.Command
