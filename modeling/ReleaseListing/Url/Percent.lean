import ReleaseListing.Text.Hex
import ReleaseListing.Text.Utf8

/-!
# Percent-encoding

A character of an encode set is written as its UTF-8 bytes, each a percent sign and two
upper-case hexadecimal digits. The sets grow from the controls on; each part of a URL has its own.
-/

namespace ReleaseListing.Url

/-- A percent sign and the byte's two upper-case hexadecimal digits. -/
def percentByte (b : UInt8) : List Char :=
  ['%', (Text.hexDigit (b.toNat / 16)).toUpper, (Text.hexDigit (b.toNat % 16)).toUpper]

/-- Writes the characters of `set` as percent-encoded bytes and keeps the others. -/
def percentEncode (set : Char → Bool) (cs : List Char) : List Char :=
  cs.flatMap fun c => if set c then (String.utf8EncodeChar c).flatMap percentByte else [c]

/-- The bytes that a text with percent-encoded bytes stands for. -/
def percentDecode : List Char → List UInt8
  | '%' :: h :: l :: rest =>
    match Text.hexValue? h, Text.hexValue? l with
    | some a, some b => UInt8.ofNat (a * 16 + b) :: percentDecode rest
    | _, _ => '%'.toNat.toUInt8 :: percentDecode (h :: l :: rest)
  | c :: rest => String.utf8EncodeChar c ++ percentDecode rest
  | [] => []
termination_by cs => cs.length

/-! ## Encode sets -/

/-- The C0 controls, DEL and everything beyond ASCII. -/
def isControlOrBeyond (c : Char) : Bool := c.toNat < 0x20 || 0x7F ≤ c.toNat

def inFragmentSet (c : Char) : Bool := isControlOrBeyond c || " \"<>`".toList.contains c

def inPathSet (c : Char) : Bool := inFragmentSet c || "#?\x7b\x7d".toList.contains c

def inUserinfoSet (c : Char) : Bool := inPathSet c || "/:;=@[\\]^|".toList.contains c

/-- Schemes that need a host also encode the apostrophe in a query. -/
def inQuerySet (special : Bool) (c : Char) : Bool :=
  isControlOrBeyond c || " \"#<>".toList.contains c || (special && c == '\'')

end ReleaseListing.Url
