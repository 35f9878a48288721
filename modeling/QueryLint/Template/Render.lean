import QueryLint.Template.Field
import QueryLint.Template.Value
import QueryLint.Text.Quoted

/-! # Filling in templates

Fields take values in order if they have no name, by number, or by name. A template that numbers
some of its values must number all of them. The fields in a specification are filled in first; they
cannot have fields in their own specifications.
-/

namespace QueryLint.Template

/-- What a field can stand for: a value, or the present time, which is not known. -/
inductive Subject
  | value (d : Data)
  | now

/-- The values that a template may mention. Where there are no values in order, a number is refused
as such. -/
structure Scope where
  ordered : Option (List Data) := none
  named : List (String × Subject) := []

/-- How the values have been counted so far. -/
inductive Numbering
  | open
  | inOrder (next : Nat)
  | byNumber
  deriving DecidableEq, Repr

namespace Numbering

/-- The place of a field without a name. -/
def next : Numbering → Except Fault (Nat × Numbering)
  | .open => .ok (0, .inOrder 1)
  | .inOrder k => .ok (k, .inOrder (k + 1))
  | .byNumber => .error (.malformed
      "cannot switch from manual field specification to automatic field numbering")

def explicit (n : Nat) : Numbering → Except Fault (Nat × Numbering)
  | .inOrder _ => .error (.malformed
      "cannot switch from automatic field numbering to manual field specification")
  | _ => .ok (n, .byNumber)

end Numbering

namespace Subject

/-- Stands where the time would; it is the code of no character. -/
def unknownText : List Char := ['\uffff']

def step (s : Subject) (step : Step) : Except Fault Subject :=
  match s, step with
  | .value d, .part name => match part? d name with
    | some p => .ok (.value p)
    | none => .error .missingPart
  | .value d, .item i => (itemAt d i).map .value
  | .value d, .key k => (itemUnder d k).map .value
  | .now, .part name => if name = "datetime" then .ok .now else .error .missingPart
  | .now, _ => .error .unsuited

/-- Follows the way to a part of a value, one step at a time. -/
def follow : Nat → Subject → List Char → Except Fault Subject
  | 0, s, _ => .ok s
  | _, s, [] => .ok s
  | steps + 1, s, mark :: way => do
    let (next, rest) ← nextStep mark way
    follow steps (← s.step next) rest

/-- Converts a value to a text: as it is shown, or quoted, or quoted in plain letters only. -/
def convert (s : Subject) (c : Char) : Except Fault Subject :=
  let shown (f : Data → String) : Except Fault Subject := match s with
    | .value d => .ok (.value (.text (f d)))
    | .now => .ok .now
  match c with
  | 's' => shown Data.spliced
  | 'r' => shown Data.display
  | 'a' => shown fun d => Text.plainLetters d.display
  | c => .error (.malformed ("Unknown conversion specifier " ++ Spec.nameOfChar c))

def layOut (s : Subject) (spec : List Char) : Except Fault (List Char) :=
  match s with
  | .value d => Template.layOut d spec
  | .now => .ok unknownText

end Subject

/-- What a field stands for, and how values are counted behind it. -/
def resolve (scope : Scope) (numbering : Numbering) (name : List Char) :
    Except Fault (Subject × Numbering) := do
  let first := name.takeWhile fun c => !isStepMark c
  let index ← index? first
  let place : Option (Nat × Numbering) ← match index with
    | some n => some <$> numbering.explicit n
    | none => if first.isEmpty then some <$> numbering.next else pure none
  let (subject, numbering) : Subject × Numbering ← match place with
    | some (i, numbering) => match scope.ordered with
      | none => .error (.malformed "Format string contains positional fields")
      | some values => match values[i]? with
        | some d => .ok (.value d, numbering)
        | none => .error (.missingArgument i)
    | none => match scope.named.lookup (String.ofList first) with
      | some s => .ok (s, numbering)
      | none => .error (.unknownName (String.ofList first))
  return (← subject.follow name.length (name.drop first.length), numbering)

/-- How the fields of a specification are filled in. -/
abbrev Expand := Numbering → List Char → Except Fault (List Char × Numbering)

def renderField (scope : Scope) (expand : Expand) (numbering : Numbering) (f : Field) :
    Except Fault (List Char × Numbering) := do
  let (subject, numbering) ← resolve scope numbering f.name
  let subject ← match f.conversion with
    | some c => subject.convert c
    | none => .ok subject
  let (spec, numbering) ← if f.spec.contains '\x7b' then expand numbering f.spec
    else .ok (f.spec, numbering)
  return (← subject.layOut spec, numbering)

def renderPieces (scope : Scope) (expand : Expand) :
    Numbering → List Piece → Except Fault (List Char × Numbering)
  | numbering, [] => .ok ([], numbering)
  | numbering, .char c :: r => do
    let (text, numbering) ← renderPieces scope expand numbering r
    return (c :: text, numbering)
  | _, .broken reason :: _ => .error (.malformed reason)
  | numbering, .field f :: r => do
    let (shown, numbering) ← renderField scope expand numbering f
    let (text, numbering) ← renderPieces scope expand numbering r
    return (shown ++ text, numbering)

/-- Fills in a template that may be nested so many times. -/
def renderNested (scope : Scope) : Nat → Expand
  | 0, _, _ => .error (.malformed "Max string recursion exceeded")
  | depth + 1, numbering, s =>
    renderPieces scope (fun n t => renderNested scope depth n t) numbering (pieces s)

def render (scope : Scope) (template : String) : Except Fault String :=
  (renderNested scope 2 .open template.toList).map fun (text, _) => String.ofList text

end QueryLint.Template
