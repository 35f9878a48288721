import QueryLint.Console.WidthTable
import QueryLint.Text.Range

/-! # Width on a terminal

Ideographs, full-width forms and most pictures take two cells, marks that combine with the character
before them and control characters take none, everything else takes one. A joiner draws the
character behind it into the one before it, and a selector turns some characters into wide pictures.
-/

namespace QueryLint.Console

def isControl (c : Char) : Bool :=
  c.toNat < 0x20 || (0x7F ≤ c.toNat && c.toNat < 0xA0)

def charWidth (c : Char) : Nat :=
  if isControl c then 0
  else if c.toNat < 0x300 then 1
  else if Text.inRanges emptyRanges c then 0
  else if Text.inRanges wideRanges c then 2
  else 1

def joiner : Char := '\u200d'

def pictureSelector : Char := '\ufe0f'

/-- The cells that a selector adds to the character that was measured last. -/
def addedWidth (last : Option Char) : Nat :=
  if last.any fun c => Text.inRanges pictureRanges c then 1 else 0

/-- The cells of a text behind a character that a selector may still change. -/
def widthAfter (last : Option Char) : List Char → Nat
  | [] => 0
  | c :: r =>
    if c = joiner then
      match r with
      | [] => 0
      | _ :: rest => widthAfter last rest
    else if c = pictureSelector then addedWidth last + widthAfter none r
    else if charWidth c = 0 then widthAfter last r
    else charWidth c + widthAfter (some c) r

def textWidth (s : List Char) : Nat :=
  widthAfter none s

/-! ## Clusters -/

/-- Characters that are shown as one, with the cells that they take together. -/
structure Cluster where
  chars : List Char
  width : Nat
  deriving DecidableEq, Repr

/-- Adds characters to the last of the clusters, which are kept backwards; without any they begin
one that takes no cells. -/
def Cluster.extend (cs : List Char) (more : Nat) : List Cluster → List Cluster
  | [] => [⟨cs, 0⟩]
  | k :: done => ⟨k.chars ++ cs, k.width + more⟩ :: done

/-- The clusters of a text behind those that are done, all of them backwards. A joiner at the very
beginning joins nothing. -/
def clustersAfter (last : Option Char) (done : List Cluster) : List Char → List Cluster
  | [] => done
  | c :: r =>
    if c = joiner && !done.isEmpty then
      match r with
      | [] => Cluster.extend [c] 0 done
      | d :: rest => clustersAfter last (Cluster.extend [c, d] 0 done) rest
    else if c = pictureSelector && !done.isEmpty then
      clustersAfter none (Cluster.extend [c] (addedWidth last) done) r
    else if charWidth c = 0 then clustersAfter last (Cluster.extend [c] 0 done) r
    else clustersAfter (some c) (⟨[c], charWidth c⟩ :: done) r

def clusters (s : List Char) : List Cluster :=
  (clustersAfter none [] s).reverse

/-! ## Cutting -/

/-- The clusters that fit into some cells; of one that fits in part a blank is left. -/
def takeCells : Nat → List Cluster → List Char
  | _, [] => []
  | n, k :: r =>
    if n = 0 then [] else if k.width ≤ n then k.chars ++ takeCells (n - k.width) r else [' ']

/-- A text that takes exactly the given cells: filled up with blanks, or cut. -/
def fitCells (n : Nat) (s : List Char) : List Char :=
  if textWidth s ≤ n then s ++ List.replicate (n - textWidth s) ' ' else takeCells n (clusters s)

/-- Cuts clusters into pieces of a width behind a piece that takes some cells already. -/
def chopClusters (width : Nat) (piece : List Char) (used : Nat) : List Cluster → List (List Char)
  | [] => if used = 0 then [] else [piece]
  | k :: r =>
    if width < used + k.width then piece :: chopClusters width k.chars k.width r
    else chopClusters width (piece ++ k.chars) (used + k.width) r

/-- The pieces of a text that take at most the given cells each. -/
def chopCells (width : Nat) (s : List Char) : List (List Char) :=
  chopClusters width [] 0 (clusters s)

end QueryLint.Console
