/-!
# Tokens of an HTML page

A page is read as tags, text, comments and document types. Names of tags and attributes are in
lower case; character references are already replaced.
-/

namespace ReleaseListing.Html

/-- Where the name of an attribute belongs, in the order in which attributes are written. -/
inductive AttributeSpace where
  | plain
  /-- `xmlns` itself. -/
  | namespaces
  | xlink
  | xml
  /-- Names that start with `xmlns:`. -/
  | xmlns
  deriving DecidableEq, Repr

/-- A named value of a tag or an element. -/
structure Attribute where
  space : AttributeSpace := .plain
  name : String
  value : String
  deriving DecidableEq, Repr

/-- The value of the first plain attribute with the name. -/
def plainValue? (name : String) (attributes : List Attribute) : Option String :=
  (attributes.find? fun a => a.space == .plain && a.name == name).map (·.value)

/-- A start tag or an end tag. -/
structure Tag where
  name : String
  attributes : List Attribute := []
  selfClosing : Bool := false
  deriving DecidableEq, Repr

/-- A document type declaration. -/
structure Doctype where
  name : Option String := none
  publicId : Option String := none
  systemId : Option String := none
  /-- Set when the declaration breaks off or is malformed. -/
  broken : Bool := false
  deriving DecidableEq, Repr

/-- A piece of a page. -/
inductive Token where
  | doctype (d : Doctype)
  | startTag (tag : Tag)
  | endTag (tag : Tag)
  | comment (text : String)
  /-- Text, in which NUL may stand. -/
  | text (cs : List Char)
  deriving Repr

/-- Blank characters of markup. -/
def isSpace (c : Char) : Bool :=
  c == ' ' || c == '\n' || c == '\t' || c == '\r' || c == '\x0C'

/-- Text in which NUL may not stand. -/
def withoutNul (cs : List Char) : List Char :=
  cs.map fun c => if c == '\x00' then '\uFFFD' else c

/-- A name in lower case. -/
def lowerName (cs : List Char) : String :=
  String.ofList (withoutNul (cs.map Char.toLower))

end ReleaseListing.Html
