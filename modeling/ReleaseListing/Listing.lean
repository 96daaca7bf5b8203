import ReleaseListing.Failure
import ReleaseListing.Text.Quoted

/-!
# Listings

A listing is the text that a list of entries becomes: call literals with a separator between them,
or a JSON array of objects.
-/

namespace ReleaseListing

/-- A named asset and its address. -/
structure Entry where
  name : String
  url : String
  deriving DecidableEq, Repr

/-- The form of a listing. -/
inductive Style where
  /-- Call literals. -/
  | call
  /-- A JSON array. -/
  | json
  deriving DecidableEq, Repr, Inhabited

namespace Style

/-- The word for a style. -/
def name : Style → String
  | .call => "call"
  | .json => "json"

/-- The style with the given name. -/
def ofName (name : String) : Except Failure Style :=
  match name with
  | "call" => .ok .call
  | "json" => .ok .json
  | other => .error (.unknownStyle other)

end Style

/-- Everything that shapes a listing apart from its entries. -/
structure Format where
  style : Style := .call
  record : String := "CsvFile"
  separator : String := ", "
  /-- The name that a call listing is assigned to. -/
  assign : Option String := none
  /-- Text that follows a call listing. -/
  docstring : Option String := none
  deriving DecidableEq, Repr, Inhabited

namespace Listing

/-- An entry as a call of the record with its name and address. -/
def callLiteral (record : String) (e : Entry) : List Char :=
  record.toList ++ '(' :: Text.quoted Text.escapeAll e.name ++ ", ".toList ++
    Text.quoted Text.escapeAll e.url ++ [')']

/-- The calls with the separator between neighbours. -/
def callBody (f : Format) (entries : List Entry) : List Char :=
  f.separator.toList.intercalate (entries.map (callLiteral f.record))

/-- The brackets of an assignment around a body. -/
def assigned : Option String → List Char → List Char
  | some name, body => name.toList ++ " = [".toList ++ body ++ [']']
  | none, body => body

/-- A docstring on its own line. -/
def docstringLine : Option String → List Char
  | some text => "\n\"\"\"".toList ++ text.toList ++ "\"\"\"".toList
  | none => []

/-- An entry as a JSON object. -/
def jsonObject (e : Entry) : List Char :=
  "\x7b\"name\":".toList ++ Text.quoted Text.escapeJson e.name ++ ",\"url\":".toList ++
    Text.quoted Text.escapeJson e.url ++ "\x7d".toList

/-- The listing's characters. -/
def renderChars (entries : List Entry) (f : Format) : List Char :=
  match f.style with
  | .call => assigned f.assign (callBody f entries) ++ docstringLine f.docstring
  | .json => '[' :: [','].intercalate (entries.map jsonObject) ++ [']']

/-- The listing of the entries. -/
def render (entries : List Entry) (f : Format) : String :=
  String.ofList (renderChars entries f)

/-- Whether the format asks for something that the style leaves out. -/
def dropsWrapping (f : Format) : Bool :=
  f.style == .json && (f.assign.isSome || f.docstring.isSome)

end Listing

end ReleaseListing
