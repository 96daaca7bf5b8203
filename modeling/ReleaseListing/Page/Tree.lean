import ReleaseListing.Html.Document
import ReleaseListing.Page

/-!
# Pages read from HTML

The page is the forest of its nodes, numbered in the order in which they start. Around all of them
stands the document itself, which has the number 0 and is never removed. A node that has been
removed is not on the page any more, and asking for its row does nothing.
-/

namespace ReleaseListing

namespace Html

/-- The link of an anchor element. -/
def Content.link? : Content → Option String
  | .element _ name attributes => if name == "a" then plainValue? "href" attributes else none
  | _ => none

namespace Forest

/-- All text of the trees. -/
def text : Forest → List Char
  | nil => []
  | node _ (.text cs) children next => cs ++ (text children ++ text next)
  | node _ _ children next => text children ++ text next

/-- The anchors of the trees that have a link. -/
def anchors : Forest → List PlacedAnchor
  | nil => []
  | node i c children next =>
    (match c.link? with
    | some href => [⟨i, href, String.ofList (text children)⟩]
    | none => []) ++ (anchors children ++ anchors next)

/-- The numbers of a node and of what it stands in, innermost first. -/
def lineage? (id : Nat) : Forest → Option (List Nat)
  | nil => none
  | node i _ children next =>
    if i == id then some [i]
    else
      match lineage? id children with
      | some line => some (line ++ [i])
      | none => lineage? id next

/-- Takes the tree of the node with the given number out. -/
def remove? (id : Nat) (f : Forest) : Option Forest := (f.extract? id).map Prod.snd

/-- The tree of the first element. -/
def firstElement? : Forest → Option Forest
  | nil => none
  | node i c children next =>
    if c.isElement then some (single i c children) else firstElement? next

end Forest

end Html

/-- A page read from HTML. -/
structure TreePage where
  nodes : Html.Forest
  deriving DecidableEq, Repr

namespace TreePage

/-- Reads a page. -/
def ofSource (source : String) : TreePage := ⟨.ofSource source⟩

/-- The HTML of a page. -/
def render (p : TreePage) : String := p.nodes.render

/-- The anchors below the element that everything stands in. -/
def anchors? (p : TreePage) : Option (List PlacedAnchor) :=
  p.nodes.firstElement?.map Html.Forest.anchors

/-- The row of a node: what stands so many levels above it, up to the document. -/
def rowOf? (p : TreePage) (levels : Nat) (node : Nat) : Option Nat :=
  (p.nodes.lineage? node).bind fun line => (line ++ [0])[levels]?

/-- Removes a row that is on the page, and counts it. -/
def removeRow (state : TreePage × Nat) (row : Nat) : TreePage × Nat :=
  match state.1.nodes.remove? row with
  | some nodes => (⟨nodes⟩, state.2 + 1)
  | none => state

/-- Looks up the rows of the nodes, then removes one after the other. A row that has gone with
another one does not count. -/
def removeRows (nodes : List Nat) (levels : Nat) (p : TreePage) : TreePage × Nat :=
  (nodes.filterMap (p.rowOf? levels)).foldl removeRow (p, 0)

instance : Page TreePage := ⟨anchors?, removeRows⟩

end TreePage

end ReleaseListing
