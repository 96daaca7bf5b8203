import ReleaseListing.Text.Blank
import ReleaseListing.Text.Hex

/-!
# Quoted literals

A text between double quotes, with escapes for what must not stand there raw. Two ways of
escaping share the escapes of JSON: one escapes every control character, the other only those
that JSON refuses and knows more short forms.
-/

namespace ReleaseListing.Text

/-- Four hexadecimal digits behind `\u`. -/
def unicodeEscape (c : Char) : List Char := '\\' :: 'u' :: hexPadded 4 c.toNat

/-- One character of a literal in which no control character stands raw. -/
def escapeAll (c : Char) : List Char :=
  match c with
  | '"' => ['\\', '"']
  | '\\' => ['\\', '\\']
  | '\n' => ['\\', 'n']
  | '\r' => ['\\', 'r']
  | '\t' => ['\\', 't']
  | c => if isControl c then unicodeEscape c else [c]

/-- One character of a JSON string in its shortest form. -/
def escapeJson (c : Char) : List Char :=
  match c with
  | '"' => ['\\', '"']
  | '\\' => ['\\', '\\']
  | '\x08' => ['\\', 'b']
  | '\x0C' => ['\\', 'f']
  | '\n' => ['\\', 'n']
  | '\r' => ['\\', 'r']
  | '\t' => ['\\', 't']
  | c => if c.toNat < 0x20 then unicodeEscape c else [c]

/-- The text between double quotes, each character in its escaped form. -/
def quoted (escape : Char → List Char) (text : String) : List Char :=
  '"' :: text.toList.flatMap escape ++ ['"']

end ReleaseListing.Text
