import ReleaseListing.Text.Split
import ReleaseListing.Text.Utf8
import ReleaseListing.Url.Domain.Label
import ReleaseListing.Url.Domain.Punycode

/-!
# Domain names

A domain name is written in ASCII: lower case, and each label that needs other characters in its
encoded form behind `xn--`.
-/

namespace ReleaseListing.Url.Domain

/-- A label and the form in which it is written. -/
structure Label where
  written : List Char
  text : List Char

/-- Reads a mapped label: undoes an ASCII form, or finds the one it needs. -/
def Label.read? (label : List Char) : Option Label :=
  let ascii := label.all (·.toNat < 0x80)
  match Text.dropStart? "xn--".toList label with
  | some encoded =>
    if !ascii then none
    else do
      let text ← Punycode.decode? encoded
      if text.all (·.toNat < 0x80) then none else return ⟨label, text⟩
  | none =>
    if ascii then some ⟨label, label⟩
    else some ⟨"xn--".toList ++ Punycode.encode label, label⟩

/-- Whether a host needs no more than lower case. -/
def isPlain (cs : List Char) : Bool :=
  cs.all (·.toNat < 0x80) &&
    ((Text.asciiLower cs).splitOnP (· == '.')).all fun l => (Text.dropStart? "xn--".toList l).isNone

/-- The ASCII form of a domain name given as bytes. What is no UTF-8 stands for a character that no
domain name may hold. -/
def toAscii? (bytes : List UInt8) : Option (List Char) := do
  let cs := Text.Utf8.decodeLenient bytes
  if isPlain cs then
    if cs.any isForbidden then none else return Text.asciiLower cs
  else
    let labels ← ((composed (← mapped? cs)).splitOnP (· == '.')).mapM Label.read?
    let bidirectional := labels.any fun l => l.text.any isRightToLeft
    if labels.all fun l => isValidLabel l.text && (!bidirectional || keepsDirection l.text) then
      return ['.'].intercalate (labels.map Label.written)
    else none

end ReleaseListing.Url.Domain
