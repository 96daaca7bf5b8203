import ReleaseListing.Listing
import ReleaseListing.Page
import ReleaseListing.Url.Parser

/-!
# Entries of a page

The anchors of a page whose links contain a pattern become entries: a name, and the address that
the link leads to.
-/

namespace ReleaseListing

/-- Reads the address that links are relative to. -/
def readBaseUrl (url : String) : Except Failure Url :=
  match Url.parse url with
  | .ok base => .ok base
  | .error cause => .error (.invalidBaseUrl url cause)

/-- What a link leads to from the base; the link itself if there is no base or the link does not
lead anywhere from it. -/
def resolvedLink (base : Option Url) (href : String) : String :=
  match base with
  | none => href
  | some base =>
    match base.join href with
    | .ok url => url.render
    | .error _ => href

/-- Which anchors become entries, and how. -/
structure Extraction where
  pattern : String
  /-- What every name starts with. -/
  start : String := ""
  strategy : Strategy := .pathTail
  base : Option Url := none
  deriving DecidableEq, Repr

namespace Extraction

/-- The entry of an anchor. -/
def entry (x : Extraction) (anchor : Anchor) : Entry where
  name := entryName x.start (x.strategy.filename anchor)
  url := resolvedLink x.base anchor.href

/-- The anchors that become entries. -/
def matched (x : Extraction) (anchors : List PlacedAnchor) : List PlacedAnchor :=
  Page.select x.pattern anchors

/-- The entries of the anchors. -/
def entries (x : Extraction) (anchors : List PlacedAnchor) : List Entry :=
  (x.matched anchors).map fun a => x.entry a.anchor

/-- The numbers of the anchors that become entries. -/
def nodes (x : Extraction) (anchors : List PlacedAnchor) : List Nat :=
  (x.matched anchors).map (·.node)

end Extraction

end ReleaseListing
