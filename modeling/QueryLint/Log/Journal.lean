import QueryLint.File.Tree
import QueryLint.Log.Level
import QueryLint.Table
import QueryLint.Template.Render
import QueryLint.Text.Case

/-! # The journal

Where log records go. A journal holds handlers, each with a lowest level; some were installed by
configuring the journal and are replaced when it is configured anew, the others belong to someone
else and stay. Configuring with the options that are already in force changes nothing. A
configuration that is refused takes the old handlers away and leaves the stored options as they
were.
-/

namespace QueryLint.Log

/-- What a journal is asked for when it is configured. -/
structure Request where
  level : String := "INFO"
  format : String := "structured"
  outputFile : Option Path.Given := none
  useColor : Bool := true
  includeTimestamp : Bool := true
  deriving DecidableEq, Repr

/-- What is kept of a request. -/
structure Options where
  level : String
  format : String
  outputFile : Option String
  useColor : Bool
  includeTimestamp : Bool
  deriving DecidableEq, Repr

def Request.options (r : Request) : Options :=
  { r with outputFile := r.outputFile.bind Path.Given.text? }

/-- How a handler writes to the console. Boxed output is drawn on the terminal and leaves no lines
behind. -/
inductive Layout
  | boxed
  | detailed
  | structured
  | plain
  deriving DecidableEq, Repr

def Layout.ofName : String → Layout
  | "rich" => boxed
  | "json" => detailed
  | "structured" => structured
  | _ => plain

inductive Sink
  | console (layout : Layout)
  | file (path : Path)
  /-- The sink of a handler that was not installed by configuring. -/
  | foreign
  deriving DecidableEq, Repr

structure Handler where
  id : Nat
  threshold : Level
  sink : Sink
  deriving DecidableEq, Repr

def Handler.accepts (h : Handler) (level : Level) : Bool :=
  h.threshold.rank ≤ level.rank

inductive Refusal
  | unknownLevel (name : String)
  /-- The name of the log file is a template that cannot be filled in. -/
  | unusableName (fault : Template.Fault)
  /-- The log file or its directory cannot be made. -/
  | obstructed (obstacle : Obstacle)
  deriving DecidableEq, Repr

def Refusal.message : Refusal → String
  | unknownLevel name => "Level '" ++ name ++ "' does not exist"
  | unusableName (.malformed reason) => reason
  | unusableName _ => "The name of the log file cannot be filled in"
  | obstructed .nullName => "embedded null byte"
  | obstructed .nameTooLong => "File name too long"
  | obstructed .isFile => "File exists"
  | obstructed .isDirectory => "Is a directory"
  | obstructed .blocked => "Not a directory"

structure Journal where
  /-- The options in force, none before the first configuration. -/
  options : Option Options := none
  /-- The ids of the handlers that the last configuration installed. -/
  owned : List Nat := []
  handlers : List Handler := []
  nextId : Nat := 1
  files : FileTree (List Record) := {}
  deriving Repr, Inhabited

/-- A line on the console; the origin is shown by detailed layouts only. -/
structure Line where
  level : Level
  message : String
  origin : Option String := none
  deriving DecidableEq, Repr

namespace Journal

/-- The id of the handler that exists before anything is configured. -/
def initialHandler : Nat := 0

/-! ## Handlers -/

def removeHandlers (j : Journal) (ids : List Nat) : Journal :=
  { j with handlers := j.handlers.filter fun h => !ids.contains h.id }

/-- Adds a handler that belongs to someone else. -/
def addForeign (j : Journal) (threshold : Level) : Journal :=
  { j with handlers := j.handlers ++ [⟨j.nextId, threshold, .foreign⟩], nextId := j.nextId + 1 }

/-- Adds a handler that the next configuration will remove. -/
def install (j : Journal) (threshold : Level) (sink : Sink) : Journal :=
  { j with
    handlers := j.handlers ++ [⟨j.nextId, threshold, sink⟩]
    owned := j.owned ++ [j.nextId]
    nextId := j.nextId + 1 }

/-- Removes what earlier configurations installed, and the initial handler if there was none. -/
def withdraw (j : Journal) : Journal :=
  let j := if j.options.isNone then j.removeHandlers [initialHandler] else j
  { j.removeHandlers j.owned with owned := [] }

/-! ## Log files -/

/-- What can be mentioned in the name of a log file. -/
def nameScope : Template.Scope :=
  { named := [("time", .now)] }

/-- Makes a log file with its directories, unless it exists, and tells its place. The directory of
the name as it is given is made first, then the name is filled in as a template. -/
def openFile (tree : FileTree (List Record)) (text : String) :
    FileTree (List Record) × Except Refusal Path :=
  let given := Path.ofText text
  match tree.makeDirectory given.parent with
  | (tree, some o) => (tree, .error (.obstructed o))
  | (tree, none) =>
    match Template.render nameScope given.toText with
    | .error f => (tree, .error (.unusableName f))
    | .ok filled =>
      let place := (Path.ofText filled).normal
      match tree.makeDirectory place.parent with
      | (tree, some o) => (tree, .error (.obstructed o))
      | (tree, none) =>
        match tree.makeFile place [] with
        | (tree, some o) => (tree, .error (.obstructed o))
        | (tree, none) => (tree, .ok place)

/-- What a log file holds. -/
def contents (j : Journal) (p : Path) : Found (List Record) :=
  j.files.find p

/-! ## Configuration -/

/-- Installs the handlers that some options ask for: one on the console and, if there is an output
file, one for that. The handlers installed before a refusal stay. -/
def installAll (j : Journal) (o : Options) : Journal × Option Refusal :=
  match Level.ofName? o.level with
  | none => (j, some (.unknownLevel o.level))
  | some level =>
    let j := j.install level (.console (Layout.ofName o.format))
    match o.outputFile with
    | none => (j, none)
    | some text =>
      match openFile j.files text with
      | (files, .error r) => ({ j with files }, some r)
      | (files, .ok place) => ({ j with files }.install level (.file place), none)

def configure (j : Journal) (request : Request) (force : Bool) : Journal × Option Refusal :=
  if !force && j.options == some request.options then (j, none)
  else match j.withdraw.installAll request.options with
    | (j, none) => ({ j with options := some request.options }, none)
    | (j, some r) => (j, some r)

def environmentRequest (env : Table String) : Request :=
  { level := Text.upperString ((env.get? "GQLINT_LOG_LEVEL").getD "WARNING")
    format := Text.lowerString ((env.get? "GQLINT_LOG_FORMAT").getD "structured") }

/-- Configures a journal by the environment unless it was configured before. -/
def ensure (j : Journal) (env : Table String) : Journal × Option Refusal :=
  if j.options.isSome then (j, none) else j.configure (environmentRequest env) false

/-! ## Records -/

def lineOf (r : Record) (h : Handler) : Option Line :=
  if !h.accepts r.level then none
  else match h.sink with
    | .console .detailed => some ⟨r.level, r.message, some r.origin⟩
    | .console .structured | .console .plain => some ⟨r.level, r.message, none⟩
    | _ => none

def writesTo (r : Record) (p : Path) (h : Handler) : Bool :=
  h.accepts r.level && h.sink == .file p

def emit (j : Journal) (r : Record) : Journal × List Line :=
  let append (f : Path × List Record) : Path × List Record :=
    (f.1, f.2 ++ List.replicate (j.handlers.countP (writesTo r f.1)) r)
  ({ j with files := { j.files with files := j.files.files.map append } },
   j.handlers.filterMap (lineOf r))

def emitAll (j : Journal) (rs : List Record) : Journal × List Line :=
  rs.foldl (fun (j, lines) r =>
    let (j, more) := j.emit r
    (j, lines ++ more)) (j, [])

/-- A template with its arguments filled in. Without arguments it is a text as it stands. -/
def fillMessage (template : String) (args : List Data) : Except Template.Fault String :=
  if args.isEmpty then .ok template else Template.render { ordered := some args } template

/-- Logs a template with arguments; when no handler takes the level the template is not read. -/
def log (j : Journal) (origin : String) (level : Level) (template : String) (args : List Data) :
    Journal × Except Template.Fault (List Line) :=
  if j.handlers.any fun h => h.accepts level then
    match fillMessage template args with
    | .error f => (j, .error f)
    | .ok message =>
      let (j, lines) := j.emit ⟨level, message, origin⟩
      (j, .ok lines)
  else (j, .ok [])

end Journal

end QueryLint.Log
