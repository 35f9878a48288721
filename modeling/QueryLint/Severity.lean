import QueryLint.Text.Blank
import QueryLint.Text.Case
import QueryLint.Text.Quoted

/-! # Severity -/

namespace QueryLint

inductive Severity
  | info
  | warning
  | error
  deriving DecidableEq, Repr, Inhabited

namespace Severity

def all : List Severity := [info, warning, error]

/-- The place in the order: an error is graver than a warning, a warning than a hint. -/
def rank : Severity → Nat
  | info => 0
  | warning => 1
  | error => 2

def ofRank? (n : Int) : Option Severity :=
  all.find? fun s => (s.rank : Int) == n

instance : LE Severity := ⟨fun a b => a.rank ≤ b.rank⟩
instance : LT Severity := ⟨fun a b => a.rank < b.rank⟩
instance (a b : Severity) : Decidable (a ≤ b) := inferInstanceAs (Decidable (a.rank ≤ b.rank))
instance (a b : Severity) : Decidable (a < b) := inferInstanceAs (Decidable (a.rank < b.rank))

def upperName : Severity → String
  | info => "INFO"
  | warning => "WARNING"
  | error => "ERROR"

def lowerName : Severity → String
  | info => "info"
  | warning => "warning"
  | error => "error"

/-- Reads a name in any case with blanks around it; `warn` is short for `warning`. -/
def parse? (name : String) : Option Severity :=
  match String.ofList (Text.upper (Text.strip name.toList)) with
  | "INFO" => some info
  | "WARNING" => some warning
  | "WARN" => some warning
  | "ERROR" => some error
  | _ => none

/-- What is said about a name that is no severity. -/
def unknownMessage (name : String) : String :=
  "Unknown severity " ++ Text.quoted name ++ ". Choose from: "
    ++ ", ".intercalate (all.map lowerName)

end Severity

end QueryLint
