import QueryLint.Data
import QueryLint.Text.Pattern

/-! # Signs of injection

A text is suspicious if it holds punctuation or a keyword of a database language, a piece of markup
that runs code, or a way out of a directory. Each class of signs has a search pattern. The one for
the database language is put together from the keywords, which stand for themselves between word
boundaries.
-/

namespace QueryLint

namespace Injection

def sqlPunctuation : String :=
  "'|;|--|/\\*|\\*/"

def sqlPattern (keywords : List String) : String :=
  let words := "|".intercalate
    (Data.sortTexts ((keywords.eraseDups.filter (· ≠ "")).map Pattern.escape))
  if words = "" then sqlPunctuation else "(?i)\\b(" ++ words ++ ")\\b|" ++ sqlPunctuation

def markupPattern : String :=
  "(?i)(<script|javascript:|onload=|onerror=|onclick=|<iframe|<img|<svg)"

def traversalPattern : String :=
  "(?i)(\\.\\./|\\.\\.\\\\|%2e%2e|%2e%2e%2f|%2e%2e%5c)"

/-- The keyword that a member of a vocabulary is. It must be a text; a torn one occurs nowhere. -/
def keyword? : Data → Except String (Option String)
  | .text s => .ok (some s)
  | .torn _ => .ok none
  | d => .error ("decoding to str: need a bytes-like object, " ++ d.typeName ++ " found")

/-- The keywords of a vocabulary; members that say nothing are left out. -/
def keywords? (vocabulary : List Data) : Except String (List String) :=
  ((vocabulary.filter Data.isTruthy).mapM keyword?).map fun ks => ks.filterMap id

def compile (pattern : String) : Except String Search :=
  match Search.compile? pattern with
  | some s => .ok s
  | none => .error "not a search pattern"

/-- The classes of patterns found in a text. -/
def labels? (vocabulary : List Data) (text : String) : Except String (List String) := do
  let sql ← compile (sqlPattern (← keywords? vocabulary))
  let markup ← compile markupPattern
  let traversal ← compile traversalPattern
  let classes := [("SQL injection", sql), ("XSS", markup), ("path traversal", traversal)]
  return (classes.filter fun p => p.2.found text).map (·.1)

def unsafeCharacters : List Char :=
  ['\'', '"', ';']

def hasUnsafeCharacter (text : String) : Bool :=
  unsafeCharacters.any fun c => text.toList.contains c

end Injection

end QueryLint
