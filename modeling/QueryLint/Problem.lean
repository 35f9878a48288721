import QueryLint.Data
import QueryLint.Text.Case

/-! # Problems

What can be wrong with a configuration, and how it is said.
-/

namespace QueryLint

inductive Problem
  | plain (text : String)
  /-- A configuration source that cannot be used. -/
  | configuration (source reason : String)
  /-- A setting that breaks a constraint; the value is shown unless it is null. -/
  | validation (key constraint : String) (value : Data)
  /-- A name that is not known, with the names that are. -/
  | notFound (resource name : String) (available : List String)

inductive ProblemKind
  | plain
  | configuration
  | validation
  | notFound
  deriving DecidableEq, Repr

/-- Why loose values do not make a problem. -/
inductive Misfit
  /-- There are too many or too few of them, or one is of the wrong type. -/
  | shape
  /-- What is missing has to be told by a text, to be put into title case. -/
  | untitled
  deriving DecidableEq, Repr

namespace Problem

/-- The number of known names that are listed. -/
def shownNames : Nat := 5

def availableText (available : List String) : String :=
  if available.isEmpty then ""
  else
    ". Available: " ++ ", ".intercalate (available.take shownNames)
      ++ (if shownNames < available.length then
            " ... and " ++ toString (available.length - shownNames) ++ " more"
          else "")

def message : Problem → String
  | plain text => text
  | configuration source reason => "Configuration error in '" ++ source ++ "': " ++ reason
  | validation key constraint value =>
    "Validation failed for '" ++ key ++ "': " ++ constraint ++ (match value with
      | .null => ""
      | v => " (got " ++ v.display ++ ")")
  | notFound resource name available =>
    Text.titleString resource ++ " '" ++ name ++ "' not found" ++ availableText available

/-- Whether the message can be made. -/
def isWritable : Problem → Bool
  | validation _ _ value => value.isWritable
  | _ => true

/-! ## Problems from loose values -/

/-- The text of any number of values: that of the only one, or of all of them as a tuple. -/
def textOf : List Data → String
  | [] => ""
  | [v] => v.spliced
  | vs => (Data.tuple vs).display

/-- Names in an order; the ones that are listed have to be texts. -/
def namesOf (items : List Data) : Except Misfit (List String) :=
  if (items.take shownNames).all Data.isText then .ok (items.map Data.spliced)
  else .error .shape

/-- The names that a value stands for: the members of a list or tuple, the letters of a text, none
if it counts as not given. -/
def availableOf (d : Data) : Except Misfit (List String) :=
  if !d.isTruthy then .ok []
  else match d with
    | .list items | .tuple items => namesOf items
    | .text s => .ok (s.toList.map fun c => String.ofList [c])
    | .torn t => .ok (t.shown.map fun c => String.ofList [c])
    | _ => .error .shape

def ofValues (kind : ProblemKind) (values : List Data) : Except Misfit Problem :=
  match kind, values with
  | .plain, vs => .ok (.plain (textOf vs))
  | .configuration, [source, reason] => .ok (.configuration source.spliced reason.spliced)
  | .validation, [key, constraint] => .ok (.validation key.spliced constraint.spliced .null)
  | .validation, [key, constraint, value] =>
    .ok (.validation key.spliced constraint.spliced value)
  | .notFound, resource :: name :: rest =>
    match resource.isText, rest with
    | true, [] => .ok (.notFound resource.spliced name.spliced [])
    | true, [available] => (availableOf available).map (.notFound resource.spliced name.spliced)
    | _, _ :: _ :: _ => .error .shape
    | _, _ => .error .untitled
  | _, _ => .error .shape

end Problem

end QueryLint
