import QueryLint.Console.Grid
import QueryLint.Console.Markup

/-! # Pages

What a command prints, item by item. Printing stops at an item whose markup is broken; what was
printed before it stays.
-/

namespace QueryLint.Console

inductive Item
  | blank
  | markup (s : String)
  | verbatim (s : String)
  | grid (g : Grid)

namespace Item

def joinLines (lines : List (List Char)) : String :=
  String.ofList (lines.flatMap (· ++ ['\n']))

def text (page : Page) : Item → Except MarkupFault String
  | blank => .ok "\n"
  | markup s => (Markup.render s).map fun t => joinLines (wrapped .fold page.width t.toList)
  | verbatim s => .ok (s ++ "\n")
  | grid g => .ok (joinLines (g.lines page))

end Item

/-- The text of some items, and the fault that ended it early if there was one. -/
def printItems (page : Page) : List Item → String × Option MarkupFault
  | [] => ("", none)
  | i :: r =>
    match i.text page with
    | .error f => ("", some f)
    | .ok s =>
      let (rest, fault) := printItems page r
      (s ++ rest, fault)

end QueryLint.Console
