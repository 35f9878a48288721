import QueryLint.Data.Order
import QueryLint.Text.Case
import QueryLint.Text.Search

/-! # Terms in names

The first term of a vocabulary, by code point, that occurs in a name in any case. The empty term
occurs in every name and comes first. A vocabulary that holds other things than texts cannot be
searched.
-/

namespace QueryLint

namespace Term

def occursIn (term name : String) : Bool :=
  Text.occurs (Text.lower term.toList) (Text.lower name.toList)

def find? (terms : List String) (name : String) : Option String :=
  (Data.sortTexts terms).find? fun t => occursIn t name

/-- Why a vocabulary cannot be searched. -/
inductive Fault
  /-- Its members cannot be put in order. -/
  | unordered (c : Data.Clash)
  /-- Its first member, by its type, has no lower case. -/
  | caseless (typeName : String)
  deriving DecidableEq, Repr

def Fault.message : Fault → String
  | unordered c => c.message
  | caseless typeName => "'" ++ typeName ++ "' object has no attribute 'lower'"

/-- The terms of a vocabulary, if all its members are texts. Torn ones occur in no name. -/
def terms? (vocabulary : List Data) : Except Fault (List String) :=
  if vocabulary.all Data.isText then .ok (vocabulary.filterMap Data.asText?)
  else match Data.sort vocabulary with
    | .error c => .error (.unordered c)
    | .ok [] => .ok []
    | .ok (d :: _) => .error (.caseless d.typeName)

def search (vocabulary : List Data) (name : String) : Except Fault (Option String) :=
  (terms? vocabulary).map fun ts => find? ts name

/-- Whether a vocabulary has something to say about a name: the first term found is not empty. -/
def concerns (vocabulary : List Data) (name : String) : Except String Bool :=
  match search vocabulary name with
  | .ok found => .ok (found.any (· ≠ ""))
  | .error f => .error f.message

end Term

end QueryLint
