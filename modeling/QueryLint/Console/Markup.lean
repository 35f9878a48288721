import QueryLint.Console.Emoji
import QueryLint.Console.Handler
import QueryLint.Console.Style

/-! # Markup

Texts for the console may hold tags in brackets, which change the style of what follows and do not
show. A tag that begins with a slash closes an open one; closing what is not open is an error. A
bracket that begins no tag is text, and a backslash keeps a tag from being one. Names of pictures
between colons become the pictures.
-/

namespace QueryLint.Console

inductive MarkupFault
  /-- A closing tag that matches no open one. -/
  | unmatched (tag : String)
  /-- A tag whose handler cannot be read. -/
  | badHandler (parameters : String)
  /-- A colour with a part that is no number. -/
  | noNumber (reason : String)
  deriving DecidableEq, Repr

def MarkupFault.message : MarkupFault → String
  | unmatched tag => "closing tag '[" ++ tag ++ "]' doesn't match any open tag"
  | badHandler parameters => "error parsing " ++ Text.quoted parameters
  | noNumber reason => reason

namespace Markup

/-- A piece of markup: a text to show, or the inside of a tag. -/
inductive Piece
  | text (s : List Char)
  | tag (body : List Char)
  deriving DecidableEq, Repr

/-- A tag begins with a small letter, or with a mark that asks for something special. -/
def startsTag (c : Char) : Bool :=
  ('a' ≤ c && c ≤ 'z') || c = '#' || c = '/' || c = '@'

/-- The inside of the tag whose opening bracket stands before `s`, and what follows the tag. -/
def tag? (s : List Char) : Option (List Char × List Char) :=
  if !s.head?.any startsTag then none
  else match s.dropWhile fun c => c ≠ ']' && c ≠ '[' with
    | ']' :: rest => some (s.takeWhile fun c => c ≠ ']' && c ≠ '[', rest)
    | _ => none

theorem length_lt_of_tag? {s body rest : List Char} (h : tag? s = some (body, rest)) :
    rest.length < s.length := by
  have hd := (List.dropWhile_sublist (l := s) fun c => c ≠ ']' && c ≠ '[').length_le
  unfold tag? at h
  split at h
  · simp at h
  · split at h
    · rename_i hs
      simp only [Option.some.injEq, Prod.mk.injEq] at h
      rw [hs, List.length_cons, h.2] at hd
      omega
    · simp at h

/-- The pieces of a markup behind a text, which is kept backwards, and some backslashes. Of the
backslashes before a tag every second one shows, and an odd one turns the tag into text. -/
def piecesAfter (before : List Char) (backslashes : Nat) (s : List Char) : List Piece :=
  match s with
  | [] => [.text (before.reverse ++ List.replicate backslashes '\\')]
  | c :: r =>
    if c = '\\' then piecesAfter before (backslashes + 1) r
    else
      match _h : if c = '[' then tag? r else none with
      | some (body, rest) =>
        [.text before.reverse, .text (List.replicate (backslashes / 2) '\\'),
          if backslashes % 2 = 1 then .text ('[' :: body ++ [']']) else .tag body]
          ++ piecesAfter [] 0 rest
      | none => piecesAfter (c :: (List.replicate backslashes '\\' ++ before)) 0 r
termination_by s.length
decreasing_by
  · simp
  · split at _h
    · have := length_lt_of_tag? _h
      simp only [List.length_cons]
      omega
    · simp at _h
  · simp

/-- The pieces of a markup. -/
def pieces (s : List Char) : List Piece :=
  piecesAfter [] 0 s

/-! ## Texts -/

/-- A bracket that begins no tag swallows a backslash before it. -/
def unescape : List Char → List Char
  | '\\' :: '[' :: r => '[' :: unescape r
  | c :: r => c :: unescape r
  | [] => []

/-- Characters that never reach the console. -/
def isDropped (c : Char) : Bool :=
  c = '\x07' || c = '\x08' || c = '\x0b' || c = '\x0c' || c = '\r'

def shown (s : List Char) : List Char :=
  (Emoji.replace (unescape s)).filter fun c => !isDropped c

/-! ## Tags -/

/-- A tag that is open: the style that it names, and what stands behind an equals sign. -/
structure OpenTag where
  name : String
  parameters : Option (List Char)

def styleName (s : List Char) : Except MarkupFault String :=
  match Style.parse s with
  | .ok style => .ok style.toText
  | .error .unknown => .ok (String.ofList (Text.lower (Text.strip s)))
  | .error (.noNumber reason) => .error (.noNumber reason)

def tagName (body : List Char) : List Char := body.takeWhile (· ≠ '=')

/-- What stands behind the equals sign of a tag. -/
def parameters? (body : List Char) : Option (List Char) :=
  match body.dropWhile (· ≠ '=') with
  | _ :: r => some r
  | [] => none

/-- Takes the innermost open tag of a name out of the others. -/
def takeOpen? (name : String) : List OpenTag → Option (OpenTag × List OpenTag)
  | [] => none
  | t :: r => if t.name = name then some (t, r)
    else (takeOpen? name r).map fun (found, rest) => (found, t :: rest)

/-- The tag that a closing tag with a name closes, and those that stay open. Without a name it is
the innermost one. -/
def close (body name : List Char) (opened : List OpenTag) :
    Except MarkupFault (OpenTag × List OpenTag) := do
  let found ← if name.isEmpty then pure (opened.head?.map fun t => (t, opened.tail))
    else do
      let known ← styleName name
      pure (takeOpen? known opened)
  match found with
  | some f => return f
  | none => throw (.unmatched (String.ofList body))

/-- A tag with an at sign has a handler, which is read when the tag is closed. -/
def checkHandler (t : OpenTag) : Except MarkupFault Unit :=
  match t.parameters with
  | none | some [] => .ok ()
  | some ps =>
    if t.name.toList.head? = some '@' && !Handler.isValid ps then
      .error (.badHandler (String.ofList ps))
    else .ok ()

/-- The open tags after a tag, the innermost first. -/
def applyTag (opened : List OpenTag) (body : List Char) : Except MarkupFault (List OpenTag) := do
  match tagName body with
  | '/' :: r => do
    let (t, rest) ← close body (Text.strip r) opened
    checkHandler t
    return rest
  | name => do
    let known ← styleName name
    return ⟨known, parameters? body⟩ :: opened

def showPieces (opened : List OpenTag) : List Piece → Except MarkupFault (List Char)
  | [] => .ok []
  | .text s :: r => (showPieces opened r).map (shown s ++ ·)
  | .tag body :: r => do
    let opened ← applyTag opened body
    showPieces opened r

/-- Reads the style of a tag together with its parameters, of which only impossible numbers
matter. -/
def checkStyle : Piece → Except MarkupFault Unit
  | .text _ => .ok ()
  | .tag body =>
    match tagName body, parameters? body with
    | '/' :: _, _ | _, none => .ok ()
    | name, some ps => (styleName (name ++ ' ' :: ps)).map fun _ => ()

def render (s : String) : Except MarkupFault String := do
  let ps := pieces s.toList
  let cs ← showPieces [] ps
  ps.forM checkStyle
  return String.ofList cs

/-! ## Escaping -/

/-- Puts a backslash before every tag and doubles the backslashes that stand there. -/
def escapeTags (pending : Nat) (s : List Char) : List Char :=
  match s with
  | [] => List.replicate pending '\\'
  | c :: r =>
    if c = '\\' then escapeTags (pending + 1) r
    else if c = '[' then
      match _h : tag? r with
      | some (body, rest) =>
        List.replicate (2 * pending + 1) '\\' ++ '[' :: body ++ ']' :: escapeTags 0 rest
      | none => List.replicate pending '\\' ++ c :: escapeTags 0 r
    else List.replicate pending '\\' ++ c :: escapeTags 0 r
termination_by s.length
decreasing_by
  · simp
  · have := length_lt_of_tag? _h
    simp only [List.length_cons]
    omega
  all_goals simp

/-- A lone backslash at the end is doubled, so that it cannot escape what is put behind it. -/
def guardEnd (s : List Char) : List Char :=
  match s.reverse with
  | '\\' :: '\\' :: _ => s
  | '\\' :: _ => s ++ ['\\']
  | _ => s

/-- A text in which tags are text. -/
def escape (s : String) : String :=
  String.ofList (guardEnd (escapeTags 0 s.toList))

end Markup

end QueryLint.Console
