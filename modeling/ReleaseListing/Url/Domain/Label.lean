import ReleaseListing.Text.Runs
import ReleaseListing.Url.Domain.Mapping
import ReleaseListing.Url.Domain.Composition
import ReleaseListing.Url.Domain.LabelTable

/-!
# Which labels a domain name may have

A label holds valid characters in composed form, does not begin with a combining mark, and uses
the joiners only where they show. If any label of the domain runs from right to left, every label
keeps to one direction.
-/

namespace ReleaseListing.Url.Domain

def combiningMarkRuns : Text.Runs := .ofText combiningMarkText

def directionRuns : Text.Runs := .ofText directionText

def joiningRuns : Text.Runs := .ofText joiningText

/-- The value of a table entry, without the colon before it. -/
def runValue (runs : Text.Runs) (absent : String) (c : Char) : String :=
  match runs.at? c.toNat with
  | some (_ :: value) => String.ofList value
  | _ => absent

def isCombiningMark (c : Char) : Bool := runValue combiningMarkRuns "0" c == "1"

/-- Bidi_Class. -/
def direction (c : Char) : String :=
  if c.isDigit then "EN"
  else if c.isAlpha then "L"
  else if c.toNat < 0x80 then
    if "+-".toList.contains c then "ES"
    else if ",./:".toList.contains c then "CS"
    else if "#$%".toList.contains c then "ET"
    else "ON"
  else runValue directionRuns "L" c

/-- Joining_Type. -/
def joining (c : Char) : String := runValue joiningRuns "U" c

/-! ## Joiners -/

/-- Whether a joiner may follow `before`, reversed, and precede `after`: behind a virama, or, for
the non-joiner, between letters that would join. -/
def joinerAllowed (joiner : Char) (before after : List Char) : Bool :=
  let virama := (before.head?.map combiningClass) == some 9
  let transparent (c : Char) : Bool := joining c == "T"
  let left := (before.dropWhile transparent).head?.map joining
  let right := (after.dropWhile transparent).head?.map joining
  virama || (joiner == '\u200C' &&
    (left == some "L" || left == some "D") && (right == some "R" || right == some "D"))

/-- Whether every joiner of a label stands where it may; `before` is reversed. -/
def joinersAllowed (before : List Char) : List Char → Bool
  | [] => true
  | c :: cs =>
    (if c == '\u200C' || c == '\u200D' then joinerAllowed c before cs else true) &&
      joinersAllowed (c :: before) cs

/-! ## Direction -/

/-- Whether a character makes its whole domain a bidirectional one. -/
def isRightToLeft (c : Char) : Bool := ["R", "AL", "AN"].contains (direction c)

/-- Whether a label keeps to one direction. -/
def keepsDirection (label : List Char) : Bool :=
  let ds := label.map direction
  let final := (ds.reverse.dropWhile (· == "NSM")).head?
  match ds.head? with
  | none => true
  | some "L" =>
    ds.all (["L", "EN", "ES", "CS", "ET", "ON", "BN", "NSM"].contains ·) &&
      (final == some "L" || final == some "EN")
  | some first =>
    (first == "R" || first == "AL") &&
      ds.all (["R", "AL", "AN", "EN", "ES", "CS", "ET", "ON", "BN", "NSM"].contains ·) &&
      (final.map ["R", "AL", "EN", "AN"].contains).getD false &&
      !(ds.contains "EN" && ds.contains "AN")

/-! ## Labels -/

/-- ASCII characters that no host name of a URL may hold. -/
def isForbidden (c : Char) : Bool :=
  c.toNat ≤ 0x20 || c.toNat == 0x7F || "%#/:<>?@[\\]^|".toList.contains c

/-- Whether a label, its ASCII form undone, may stand in a domain name. -/
def isValidLabel (label : List Char) : Bool :=
  label.all (fun c => fate c == .valid && !isForbidden c) &&
    composed label == label &&
    !((label.head?.map isCombiningMark).getD false) &&
    joinersAllowed [] label

end ReleaseListing.Url.Domain
