import ReleaseListing.Html.Tree

/-!
# Kinds of elements

The names of elements that are read in a way of their own, and the elements that are open while a
page is read.
-/

namespace ReleaseListing.Html

/-- An element whose end has not been reached. -/
structure OpenElement where
  id : Nat
  space : Space := .html
  name : String
  deriving DecidableEq, Repr

namespace OpenElement

/-- Whether this is the HTML element of the name. -/
def is (name : String) (e : OpenElement) : Bool := e.space == .html && e.name == name

/-- Whether this is an HTML element of one of the names. -/
def isAny (names : List String) (e : OpenElement) : Bool :=
  e.space == .html && names.contains e.name

/-- Whether the element holds text of a formula. -/
def isFormulaText (e : OpenElement) : Bool :=
  e.space == .mathml && ["mi", "mo", "mn", "ms", "mtext"].contains e.name

/-- Whether the element of a drawing holds HTML. -/
def isDrawingText (e : OpenElement) : Bool :=
  e.space == .svg && ["foreignObject", "desc", "title"].contains e.name

/-- The number of the node that holds what stands in the element. -/
def contentsId (e : OpenElement) : Nat := if e.is "template" then e.id + 1 else e.id

end OpenElement

/-! ## Names -/

def headings : List String := ["h1", "h2", "h3", "h4", "h5", "h6"]

/-- Elements that an end tag of another name does not close. -/
def specialNames : List String :=
  ["address", "applet", "area", "article", "aside", "base", "basefont", "bgsound", "blockquote",
   "body", "br", "button", "caption", "center", "col", "colgroup", "dd", "details", "dir", "div",
   "dl", "dt", "embed", "fieldset", "figcaption", "figure", "footer", "form", "frame", "frameset",
   "h1", "h2", "h3", "h4", "h5", "h6", "head", "header", "hgroup", "hr", "html", "iframe", "img",
   "input", "isindex", "li", "link", "listing", "main", "marquee", "menu", "meta", "nav", "noembed",
   "noframes", "noscript", "object", "ol", "p", "param", "plaintext", "pre", "script", "section",
   "select", "source", "style", "summary", "table", "tbody", "td", "template", "textarea", "tfoot",
   "th", "thead", "title", "tr", "track", "ul", "wbr", "xmp"]

/-- Blocks that end an open paragraph and whose end tag closes what is open in them. -/
def blockNames : List String :=
  ["address", "article", "aside", "blockquote", "center", "details", "dialog", "dir", "div", "dl",
   "fieldset", "figcaption", "figure", "footer", "header", "hgroup", "main", "menu", "nav", "ol",
   "search", "section", "summary", "ul"]

/-- Elements that format text and are opened again behind a block that they overlap. -/
def formattingNames : List String :=
  ["b", "big", "code", "em", "font", "i", "s", "small", "strike", "strong", "tt", "u"]

/-- Elements that belong into the head. -/
def headNames : List String :=
  ["base", "basefont", "bgsound", "link", "meta", "noframes", "script", "style", "template",
   "title"]

/-- Elements whose end may be left out. -/
def impliedEndNames : List String :=
  ["dd", "dt", "li", "option", "optgroup", "p", "rb", "rp", "rt", "rtc"]

/-- Parts of tables. -/
def tablePartNames : List String :=
  ["caption", "col", "colgroup", "tbody", "td", "tfoot", "th", "thead", "tr"]

/-- Parts of tables that hold rows. -/
def rowGroupNames : List String := ["tbody", "tfoot", "thead"]

/-- Parts of a table in which text has no place. -/
def fosteringNames : List String := ["table", "tbody", "tfoot", "thead", "tr"]

/-! ## Scopes -/

/-- The elements that no search among open elements passes. -/
def endsScope (e : OpenElement) : Bool :=
  e.isAny ["applet", "caption", "html", "table", "td", "th", "marquee", "object", "template"] ||
    e.isFormulaText || e.isDrawingText

def endsListScope (e : OpenElement) : Bool := endsScope e || e.isAny ["ol", "ul"]

def endsButtonScope (e : OpenElement) : Bool := endsScope e || e.is "button"

def endsTableScope (e : OpenElement) : Bool := e.isAny ["html", "table", "template"]

def endsSelectScope (e : OpenElement) : Bool := !e.isAny ["optgroup", "option"]

/-- Whether an open element satisfies `p` and no element inside of it ends the scope. -/
def inScope (boundary p : OpenElement → Bool) : List OpenElement → Bool
  | [] => false
  | e :: es => p e || (!boundary e && inScope boundary p es)

/-- What stays open when everything is closed up to the first element that satisfies `p`, and that
element too. -/
def closedThrough (p : OpenElement → Bool) (stack : List OpenElement) : List OpenElement :=
  (stack.dropWhile (!p ·)).drop 1

end ReleaseListing.Html
