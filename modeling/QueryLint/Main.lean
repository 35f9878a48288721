import QueryLint.Command.Run

/-! # The program

Gathers what a run can see and hands it to the command line: the files that arguments name, the
configuration, the variables that the configuration mentions, and the standard input.
-/

namespace QueryLint.Program

open Command

/-- Puts a file or directory into the tree if it exists. -/
def collect (tree : FileTree String) (name : String) : IO (FileTree String) := do
  let path := Path.ofText name
  try
    let text ← IO.FS.readFile path.toText
    return tree.insert path (some text)
  catch
    | .inappropriateType .. => return tree.insert path none
    | _ => return tree

def placeholders (text : String) : List String :=
  (Segment.ofText text.toList).filterMap fun
    | .placeholder name => some (String.ofList name)
    | .char _ => none

def lookUp (env : Table String) (name : String) : IO (Table String) := do
  match ← IO.getEnv name with
  | some value => return env.insert name value
  | none => return env

partial def readAll (stream : IO.FS.Stream) (done : String) : IO String := do
  let line ← stream.getLine
  if line.isEmpty then return done else readAll stream (done ++ line)

/-- The page as wide as the surroundings say. -/
def pageOf (columns : Option String) : Console.Page :=
  match columns.bind String.toNat? with
  | some (n + 1) => { width := n + 1, width_pos := n.succ_pos }
  | _ => { width := 80 }

def gather (args : List String) : IO World := do
  let env ← lookUp {} ConfigFile.configPathVariable
  let names := args.filter (· ≠ inputName) ++ [ConfigFile.projectFile.toText] ++ env.values
  let tree ← names.foldlM collect {}
  let env ← (tree.files.flatMap fun f => placeholders f.2).foldlM lookUp env
  let input ← if args.contains inputName then readAll (← IO.getStdin) "" else pure ""
  return { tree, env, input, page := pageOf (← IO.getEnv "COLUMNS") }

def describeCrash : Crash → String
  | .logging r => r.message
  | .markup f => f.message
  | .nullName => "embedded null byte"
  | .load (.directory source) => "Is a directory: " ++ Text.quoted source
  | .load (.nameTooLong source) => "File name too long: " ++ Text.quoted source
  | .load (.impossibleValue _ f) => f.message
  | .load (.exhausted source) => "No room left on the stack: " ++ Text.quoted source
  | .load (.unaskable source) => "A name cannot be encoded: " ++ Text.quoted source
  | .load f => ((f.problem?).map Problem.message).getD "'tool' must be a table"

end QueryLint.Program

def main (args : List String) : IO UInt32 := do
  let result := QueryLint.Command.run (← QueryLint.Program.gather args) args
  IO.print result.output
  match result.crash with
  | some c => IO.eprintln (QueryLint.Program.describeCrash c)
  | none => pure ()
  return result.exitCode.toUInt32
