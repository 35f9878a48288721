import QueryLint.Text.Case

/-! # The case of names

A name may be followed by one line feed, which does not count.
-/

namespace QueryLint

namespace NameCase

def dropFinalBreak (s : List Char) : List Char :=
  match s.reverse with
  | '\n' :: r => r.reverse
  | _ => s

/-- A first character of a class, then letters and digits only. -/
def startsAndContinues (first : Char → Bool) (s : List Char) : Bool :=
  match dropFinalBreak s with
  | [] => false
  | c :: r => first c && r.all Char.isAlphanum

def isCamel (name : String) : Bool :=
  startsAndContinues Char.isLower name.toList

def isPascal (name : String) : Bool :=
  startsAndContinues Char.isUpper name.toList

/-- Whether two capitals stand side by side. -/
def hasAdjacentCapitals : List Char → Bool
  | a :: b :: r => (a.isUpper && b.isUpper) || hasAdjacentCapitals (b :: r)
  | _ => false

def hasUnderscore (name : String) : Bool :=
  name.toList.contains '_'

def reservedWords : List String :=
  ["query", "mutation", "subscription", "fragment", "on", "true", "false", "null", "type",
   "interface", "union", "enum", "input", "scalar", "directive", "schema", "extend", "implements",
   "repeatable", "deprecated", "include", "skip"]

/-- A word of the language, in any case. -/
def isReserved (name : String) : Bool :=
  reservedWords.contains (Text.lowerString name)

/-- Directives that the language itself defines. -/
def builtinDirectives : List String :=
  ["include", "skip", "deprecated", "specifiedBy"]

end NameCase

end QueryLint
