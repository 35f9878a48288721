import QueryLint.Text.Quoted

/-! # JSON text

Values written out over several lines, two spaces deeper at each level, in ASCII only.
-/

namespace QueryLint.Console

mutual
inductive Json
  | null
  | int (n : Int)
  | text (s : String)
  | array (items : List Json)
  | object (fields : List JsonField)

structure JsonField where
  key : String
  value : Json
end

namespace Json

def escapeUnit (n : Nat) : List Char :=
  '\\' :: 'u' :: Text.padLeft '0' 4 (Text.hexDigits n)

/-- A character by its code, beyond the first plane by a pair of codes. -/
def escapeCode (c : Char) : List Char :=
  let n := c.toNat
  if n < 0x10000 then escapeUnit n
  else escapeUnit (0xD800 + (n - 0x10000) / 0x400) ++ escapeUnit (0xDC00 + (n - 0x10000) % 0x400)

def escapeChar (c : Char) : List Char :=
  if c = '"' || c = '\\' then ['\\', c]
  else if c = '\n' then ['\\', 'n']
  else if c = '\r' then ['\\', 'r']
  else if c = '\t' then ['\\', 't']
  else if c = '\x0c' then ['\\', 'f']
  else if c = '\x08' then ['\\', 'b']
  else if 0x20 ≤ c.toNat && c.toNat < 0x7F then [c]
  else escapeCode c

def quote (s : String) : List Char :=
  '"' :: (s.toList.flatMap escapeChar ++ ['"'])

def newLine (level : Nat) : List Char :=
  '\n' :: List.replicate (2 * level) ' '

/-- Items between brackets, each on a line of its own. -/
def enclose (left right : Char) (level : Nat) (items : List (List Char)) : List Char :=
  if items.isEmpty then [left, right]
  else
    left :: (newLine (level + 1) ++ List.intercalate (',' :: newLine (level + 1)) items
      ++ newLine level ++ [right])

mutual
def write (level : Nat) : Json → List Char
  | null => ['n', 'u', 'l', 'l']
  | int n => (toString n).toList
  | text s => quote s
  | array items => enclose '[' ']' level (writeItems (level + 1) items)
  | object fields => enclose '\x7b' '\x7d' level (writeFields (level + 1) fields)

def writeItems (level : Nat) : List Json → List (List Char)
  | [] => []
  | j :: r => write level j :: writeItems level r

def writeFields (level : Nat) : List JsonField → List (List Char)
  | [] => []
  | ⟨k, v⟩ :: r => (quote k ++ ':' :: ' ' :: write level v) :: writeFields level r
end

def render (j : Json) : String :=
  String.ofList (write 0 j)

end Json

end QueryLint.Console
