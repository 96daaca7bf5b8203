import ReleaseListing.Naming
import ReleaseListing.Text.Split

/-!
# Pages of links

What a listing needs of a page: its anchors, and the removal of the rows that they stand in. There
are two kinds of pages, those read from HTML and tables put together by hand.
-/

namespace ReleaseListing

/-- An anchor of a page, and the number by which the page knows it. -/
structure PlacedAnchor where
  node : Nat
  anchor : Anchor
  deriving DecidableEq, Repr

/-- A page whose anchors can be listed and whose rows can be removed. -/
class Page (P : Type) where
  /-- The anchors that have a link, in the order of the page; none if the page has lost its root. -/
  anchors? : P → Option (List PlacedAnchor)
  /-- Removes the rows of the nodes: a row is the ancestor so many levels above its node. Also the
  number of rows removed; a row of several nodes counts once. -/
  removeRows : (nodes : List Nat) → (levels : Nat) → P → P × Nat

namespace Page

/-- The anchors whose link contains the pattern. -/
def select (pattern : String) (anchors : List PlacedAnchor) : List PlacedAnchor :=
  anchors.filter fun a => Text.occursIn pattern.toList a.anchor.href.toList

end Page

end ReleaseListing
