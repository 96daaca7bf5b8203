import ReleaseListing.Text.Runs
import ReleaseListing.Url.Domain.MappingTable

/-!
# Mapping the characters of a domain name

Upper case becomes lower case, compatibility forms become what they stand for, some characters
are dropped and others are refused.
-/

namespace ReleaseListing.Url.Domain

/-- What becomes of a character. -/
inductive Fate where
  | valid
  | dropped
  | refused
  | replaced (by_ : List Char)
  deriving DecidableEq

def mappingRuns : Text.Runs := .ofText mappingText

/-- The fate that a table entry gives to the code point `n`, if the entry starts at `start`. -/
def Fate.ofEntry (n : Nat) (entry : List Char) (start : Nat) : Fate :=
  match entry with
  | 'V' :: _ => .valid
  | 'I' :: _ => .dropped
  | 'M' :: points => .replaced ((points.splitOnP (· == '.')).map fun p => Char.ofNat (Text.ofHex p))
  | '+' :: distance => .replaced [Char.ofNat (n + Text.ofHex distance)]
  | '-' :: distance => .replaced [Char.ofNat (n - Text.ofHex distance)]
  | 'A' :: _ => if (n - start) % 2 == 0 then .replaced [Char.ofNat (n + 1)] else .valid
  | _ => .refused

/-- What becomes of a character in a domain name; of ASCII only the capitals change. -/
def fate (c : Char) : Fate :=
  if c.toNat < 0x80 then if c.isUpper then .replaced [c.toLower] else .valid
  else
    let k := mappingRuns.countUpTo c.toNat mappingRuns.starts.size 0 mappingRuns.starts.size
    match mappingRuns.values[k - 1]?, mappingRuns.starts[k - 1]? with
    | some entry, some start => .ofEntry c.toNat entry start
    | _, _ => .refused

/-- Maps every character; `none` if one is refused. -/
def mapped? (cs : List Char) : Option (List Char) :=
  (cs.mapM fun c =>
    match fate c with
    | .valid => some [c]
    | .dropped => some []
    | .replaced by_ => some by_
    | .refused => none).map List.flatten

end ReleaseListing.Url.Domain
