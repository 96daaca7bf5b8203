import ReleaseListing.Page

/-!
# Tables of links put together by hand

A body holds rows, each row holds a cell, and each cell holds the anchors of the row. Rows, cells
and anchors are numbered in the order in which they are added, from 1; the body has the number 0.
-/

namespace ReleaseListing

/-- An anchor of a table and where it stands. -/
structure TableAnchor where
  node : Nat
  cell : Nat
  row : Nat
  href : Option String
  text : String
  deriving DecidableEq, Repr

/-- The numbers of the anchor and of what it stands in, innermost first. -/
def TableAnchor.lineage (a : TableAnchor) : List Nat := [a.node, a.cell, a.row, 0]

/-- A table of links. -/
structure TablePage where
  all : List TableAnchor := []
  /-- The numbers of what has been removed. -/
  removed : List Nat := []
  next : Nat := 1
  deriving DecidableEq, Repr

namespace TablePage

/-- Adds a row with one cell, which holds anchors with the given links and texts. -/
def addRow (anchors : List (Option String × String)) (p : TablePage) : TablePage :=
  let placed := anchors.zipIdx.map fun ((href, text), i) =>
    ({ node := p.next + 2 + i, cell := p.next + 1, row := p.next, href, text } : TableAnchor)
  { p with all := p.all ++ placed, next := p.next + 2 + anchors.length }

/-- Whether neither the anchor nor what it stands in has been removed. -/
def isAttached (p : TablePage) (a : TableAnchor) : Bool :=
  !a.lineage.any p.removed.contains

/-- The anchors that are still there, with or without a link. -/
def attached (p : TablePage) : List TableAnchor := p.all.filter p.isAttached

/-- The anchors that are still there and have a link. -/
def anchors (p : TablePage) : List PlacedAnchor :=
  p.attached.filterMap fun a => a.href.map fun href => ⟨a.node, href, a.text⟩

/-- The row of a node, with what the row stands in. -/
def rowOf? (p : TablePage) (levels : Nat) (node : Nat) : Option (Nat × List Nat) :=
  (p.all.find? (·.node == node)).bind fun a =>
    match a.lineage.drop levels with
    | [] => none
    | row :: above => some (row, above)

/-- Removes a row that is still there, and counts it. -/
def removeRow (state : TablePage × Nat) (row : Nat × List Nat) : TablePage × Nat :=
  if (row.1 :: row.2).any state.1.removed.contains then state
  else ({ state.1 with removed := row.1 :: state.1.removed }, state.2 + 1)

/-- Looks up the rows of the nodes, then removes one after the other. -/
def removeRows (nodes : List Nat) (levels : Nat) (p : TablePage) : TablePage × Nat :=
  (nodes.filterMap (p.rowOf? levels)).foldl removeRow (p, 0)

instance : Page TablePage := ⟨fun p => some p.anchors, removeRows⟩

end TablePage

end ReleaseListing
