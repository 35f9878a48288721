import QueryLint.ConfigFile.Schema
import QueryLint.ConfigFile.Substitution
import QueryLint.File.Tree
import QueryLint.Text.Lines
import QueryLint.Toml.Document
import QueryLint.Yaml.Document

/-! # Loading configurations

A configuration file is YAML with a `kind` and a `spec`, or TOML with a section of its own or used
as a whole. Without a path the file is looked for: first where an environment variable says, then in
the project file of the working directory; if there is none, the defaults hold. How the two formats
are read, and how deep values may go, is up to the host.
-/

namespace QueryLint

/-- Why a configuration cannot be loaded. -/
inductive LoadFault
  /-- A source that is missing, malformed or refused. -/
  | unusable (source reason : String)
  /-- Fields that break the schema. -/
  | invalid (source : String) (fields : List FieldPath)
  /-- A directory where a file is to be read. -/
  | directory (source : String)
  /-- A path that is longer than it may be. -/
  | nameTooLong (source : String)
  /-- A file whose `tool` is no table. -/
  | toolNotTable (source : String)
  /-- A file with a value that does not exist, or that cannot be told. -/
  | impossibleValue (source : String) (fault : Yaml.Fault)
  /-- A file over which the stack runs out. -/
  | exhausted (source : String)
  /-- A file with a placeholder whose name cannot be encoded. -/
  | unaskable (source : String)
  deriving DecidableEq, Repr

namespace LoadFault

/-- The problem of a source that cannot be used. Other faults are none, from a directory to a stack
that runs out. -/
def problem? : LoadFault → Option Problem
  | unusable source reason => some (.configuration source reason)
  | invalid source fields =>
    some (.configuration source
      (toString fields.length ++ " invalid field(s): "
        ++ ", ".intercalate (fields.map fun f => ".".intercalate f)))
  | directory _ | nameTooLong _ | toolNotTable _ | impossibleValue .. | exhausted _
  | unaskable _ => none

end LoadFault

namespace ConfigFile

def configPathVariable : String := "GQLINT_CONFIG_PATH"

def projectFile : Path := { names := ["pyproject.toml"] }

def yamlKind : String := "LintConfig"

/-- What loading relies on: the readers of the two formats and the room on the stack. -/
structure Host where
  yaml : List Char → Except Yaml.Fault Data
  toml : String → Except Toml.Fault (List DataEntry)
  /-- Whether a value that lies so many collections deep can be filled in. -/
  fits : Nat → Data → Bool
  /-- Whether there is room to make the text of a value. -/
  shows : Data → Bool

/-- The calls that a stack of the usual size has room for. -/
def usualRoom : Nat := 975

/-- Filling in takes two calls for each collection on the way, making a text takes one. -/
def Host.standard : Host where
  yaml := Yaml.parse usualRoom
  toml := Toml.parse usualRoom
  fits depth _ := decide (2 * depth < usualRoom)
  shows d := decide (d.depth < usualRoom)

/-- Fills in the placeholders of data, checks it against the schema and builds its configuration. -/
def ofData (host : Host) (env : Table String) (data : Data) (source : String) :
    Except LoadFault Config :=
  match data.hindrance? host.fits 0 with
  | some .exhausted => .error (.exhausted source)
  | some .unaskable => .error (.unaskable source)
  | none => match ConfigSpec.ofData (data.fill env) with
    | .error fields => .error (.invalid source fields)
    | .ok spec => match spec.toConfig with
      | .ok c => .ok c
      | .error p =>
        if p.isWritable then .error (.unusable source p.message)
        else .error (.impossibleValue source (.impossible Literal.unwritable))

/-- The value under a key; where a mapping is its own value it stands for itself. -/
def member (key : String) (entries : List DataEntry) : Data :=
  match Data.lookup key entries with
  | some (.loop _) => .mapping entries
  | some d => d
  | none => .null

/-- What is said of a value that stands where the kind of a file should. -/
def wrongKind (host : Host) (source : String) (kind : Data) : LoadFault :=
  if !host.shows kind then .exhausted source
  else if kind.isWritable then
    .unusable source
      ("YAML config must use 'kind: " ++ yamlKind ++ "', got 'kind: " ++ kind.spliced ++ "'")
  else .impossibleValue source (.impossible Literal.unwritable)

/-- The data of a YAML file: the `spec` of a mapping of the right kind. -/
def yamlSection (host : Host) (source : String) (text : String) : Except LoadFault Data :=
  match host.yaml (Text.unifyBreaks text.toList) with
  | .error .malformed => .error (.unusable source "invalid YAML")
  | .error .exhausted => .error (.exhausted source)
  | .error f => .error (.impossibleValue source f)
  | .ok (.mapping es) =>
    let kind := member "kind" es
    if !kind.hasText yamlKind then .error (wrongKind host source kind)
    else
      let spec := member "spec" es
      if !spec.isTruthy then .ok (.mapping [])
      else match spec with
        | .mapping _ => .ok spec
        | _ => .error (.unusable source "'spec' must be a mapping")
  | .ok d => .error (.unusable source ("expected a mapping, got " ++ d.typeName))

/-- The data of a TOML file: its section or, unless it is a project file, all of it. -/
def tomlSection (host : Host) (path : Path) (text : String) : Except LoadFault Data :=
  let source := path.toText
  match host.toml text with
  | .error .malformed => .error (.unusable source "invalid TOML")
  | .error .exhausted => .error (.exhausted source)
  | .error (.overlong digits) =>
    .error (.impossibleValue source (.impossible (Literal.tooManyDigits digits)))
  | .ok es =>
    match (Data.lookup "tool" es).getD (.mapping []) with
    | .mapping tools =>
      match (Data.lookup "gqlint" tools).getD .null with
      | .null => .ok (if path.name = projectFile.name then .mapping [] else .mapping es)
      | .mapping section_ => .ok (.mapping section_)
      | _ => .error (.unusable source "[tool.gqlint] must be a table")
    | _ => .error (.toolNotTable source)

def isYaml (path : Path) : Bool :=
  path.suffix = ".yaml" || path.suffix = ".yml"

/-- The data of a file, by the ending of its name. -/
def contents (host : Host) (path : Path) (text : String) : Except LoadFault Data :=
  if isYaml path then yamlSection host path.toText text else tomlSection host path text

def ofFile (host : Host) (tree : FileTree String) (env : Table String) (path : Path) :
    Except LoadFault Config := do
  let source := path.toText
  match tree.find path with
  | .file text => ofData host env (← contents host path text) source
  | .directory => throw (.directory source)
  | .tooLong => throw (.nameTooLong source)
  | .missing | .blocked => throw (.unusable source "configuration file not found")

/-- Whether there is something at a path; one that is too long cannot be asked about. -/
def isThere (tree : FileTree String) (path : Path) : Except LoadFault Bool :=
  match tree.find path with
  | .file _ | .directory => .ok true
  | .missing | .blocked => .ok false
  | .tooLong => .error (.nameTooLong path.toText)

/-- The file to load when no path is given. -/
def discover (tree : FileTree String) (env : Table String) : Except LoadFault (Option Path) := do
  match (env.get? configPathVariable).bind Path.ofText? with
  | some p => if ← isThere tree p then return some p
  | none => pure ()
  return if ← isThere tree projectFile then some projectFile else none

/-- Loads the configuration at a path, or the one that is found, or the defaults. -/
def load (host : Host) (tree : FileTree String) (env : Table String) (given : Option Path.Given) :
    Except LoadFault Config := do
  let found ← match given.bind Path.Given.path? with
    | some p => pure (some p)
    | none => discover tree env
  match found with
  | some p => ofFile host tree env p
  | none => return {}

end ConfigFile

end QueryLint
