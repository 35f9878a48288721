/-! # Log levels -/

namespace QueryLint.Log

inductive Level
  | trace
  | debug
  | info
  | success
  | warning
  | error
  | critical
  deriving DecidableEq, Repr, Inhabited

namespace Level

def all : List Level := [trace, debug, info, success, warning, error, critical]

def rank : Level → Nat
  | trace => 5
  | debug => 10
  | info => 20
  | success => 25
  | warning => 30
  | error => 40
  | critical => 50

def name : Level → String
  | trace => "TRACE"
  | debug => "DEBUG"
  | info => "INFO"
  | success => "SUCCESS"
  | warning => "WARNING"
  | error => "ERROR"
  | critical => "CRITICAL"

def ofName? (name : String) : Option Level :=
  all.find? fun l => l.name = name

end Level

/-- A message with its level and the part of the program that it comes from. -/
structure Record where
  level : Level
  message : String
  origin : String
  deriving DecidableEq, Repr

end QueryLint.Log
