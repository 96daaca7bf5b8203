import ReleaseListing.Html.Construction.Modes

/-!
# Pages as trees, and their text

`Forest.ofSource` reads the nodes of a page, `Forest.render` writes them. A page that has been read
has one element on its top level, `html`.
-/

namespace ReleaseListing.Html

/-! ## Reading -/

/-- The nodes that stand outside of `html`. -/
def Forest.ofOutside (nodes : List Outside) : Forest :=
  nodes.foldr (fun n rest => .node 0 n.content .nil rest) .nil

/-- The nodes of a page that has been read to its end. -/
def Construction.forest (s : Construction) : Forest :=
  Forest.ofOutside s.prolog.reverse ++
    .node 0 (.element .html "html" s.attributes) s.children (Forest.ofOutside s.epilog.reverse)

/-- The nodes of a page, numbered from 1 in the order in which they start. -/
def Forest.ofSource (source : String) : Forest :=
  ((Construction.ofSource source).forest.renumber 1).1

/-! ## Writing -/

/-- Where attributes of a space stand among those of the others. -/
def AttributeSpace.rank : AttributeSpace → Nat
  | .plain => 0
  | .namespaces => 1
  | .xlink => 2
  | .xml => 3
  | .xmlns => 4

namespace Attribute

/-- Whether an attribute may stand in front of another. -/
def before (a b : Attribute) : Bool :=
  a.space.rank < b.space.rank || (a.space.rank == b.space.rank && !(b.name < a.name))

/-- Puts an attribute at its place among sorted ones. -/
def insert (a : Attribute) : List Attribute → List Attribute
  | [] => [a]
  | b :: bs => if a.before b then a :: b :: bs else b :: insert a bs

/-- Attributes in the order in which they are written. -/
def sorted (attributes : List Attribute) : List Attribute := attributes.foldr insert []

/-- One character of an attribute value. -/
def escape (c : Char) : List Char :=
  match c with
  | '&' => "&amp;".toList
  | '\u00A0' => "&nbsp;".toList
  | '"' => "&quot;".toList
  | c => [c]

/-- An attribute behind a space. -/
def render (a : Attribute) : List Char :=
  let start : String := match a.space with
    | .plain | .namespaces => ""
    | .xlink => "xlink:"
    | .xml => "xml:"
    | .xmlns => "xmlns:"
  ' ' :: start.toList ++ a.name.toList ++ '=' :: '"' :: a.value.toList.flatMap escape ++ ['"']

end Attribute

/-- HTML elements whose text is written as it stands. -/
def rawTextNames : List String :=
  ["style", "script", "xmp", "iframe", "noembed", "noframes", "plaintext"]

/-- HTML elements that are written without an end tag. -/
def voidNames : List String :=
  ["area", "base", "basefont", "bgsound", "br", "col", "embed", "frame", "hr", "img", "input",
   "keygen", "link", "meta", "param", "source", "track", "wbr"]

/-- One character of text. -/
def escapeText (c : Char) : List Char :=
  match c with
  | '&' => "&amp;".toList
  | '\u00A0' => "&nbsp;".toList
  | '<' => "&lt;".toList
  | '>' => "&gt;".toList
  | c => [c]

/-- Whether text in an element is written as it stands. -/
def Content.holdsRawText : Content → Bool
  | .element .html name _ => rawTextNames.contains name
  | _ => false

/-- What is written in front of the children of a node. -/
def Content.opening (raw : Bool) : Content → List Char
  | .text cs => if raw then cs else cs.flatMap escapeText
  | .comment words => "<!--".toList ++ words.toList ++ "-->".toList
  | .doctype name => "<!DOCTYPE ".toList ++ name.toList ++ ['>']
  | .element _ name attributes =>
    '<' :: name.toList ++ (Attribute.sorted attributes).flatMap Attribute.render ++ ['>']
  | .fragment => []

/-- What is written behind the children of a node. -/
def Content.closing : Content → List Char
  | .element space name _ =>
    if space == .html && voidNames.contains name then [] else '<' :: '/' :: name.toList ++ ['>']
  | _ => []

namespace Forest

/-- The text of sibling trees; `raw` if text among them is written as it stands. -/
def renderChars (raw : Bool) : Forest → List Char
  | nil => []
  | node _ c children next =>
    c.opening raw ++ renderChars c.holdsRawText children ++ c.closing ++ renderChars raw next

/-- The text of a page. -/
def render (f : Forest) : String := String.ofList (f.renderChars false)

end Forest

end ReleaseListing.Html
