import ReleaseListing.Failure
import ReleaseListing.Text.Blank
import ReleaseListing.Text.Split

/-!
# Naming assets

The name of an asset is the tail of its link or the label of its anchor, behind a fixed start.
-/

namespace ReleaseListing

/-- A link on a page, as it is written there. -/
structure Anchor where
  href : String
  text : String
  deriving DecidableEq, Repr

/-- What follows the last slash of a link, or all of it. -/
def pathTail (href : String) : String :=
  String.ofList (Text.afterLast '/' href.toList)

/-- Where the name of an asset comes from. -/
inductive Strategy where
  /-- The tail of the link. -/
  | pathTail
  /-- The label of the anchor. -/
  | label
  deriving DecidableEq, Repr, Inhabited

namespace Strategy

/-- The word for a strategy. -/
def name : Strategy → String
  | .pathTail => "path-tail"
  | .label => "label"

/-- The strategy with the given name. -/
def ofName (name : String) : Except Failure Strategy :=
  match name with
  | "path-tail" => .ok .pathTail
  | "label" => .ok .label
  | other => .error (.unknownStrategy other)

/-- The file name that a strategy gives to an anchor. -/
def filename (s : Strategy) (anchor : Anchor) : String :=
  match s with
  | .pathTail => ReleaseListing.pathTail anchor.href
  | .label => Text.label anchor.text

end Strategy

/-- The name of an entry: the file name behind a fixed start. -/
def entryName (start filename : String) : String := start ++ filename

end ReleaseListing
