import ReleaseListing.Text.Runs
import ReleaseListing.Url.Domain.CompositionTable

/-!
# Canonical composition

Characters are taken apart into base characters and marks, marks are put in canonical order, and
neighbours that form a primary composite are joined again. Hangul syllables are composed by rule.
Only primary composites are taken apart: the mapping of domain names has replaced all others.
-/

namespace ReleaseListing.Url.Domain

/-- A primary composite, its first and its second part. -/
def composites : List (Nat × Nat × Nat) :=
  (Text.words compositesText).map fun entry =>
    match (entry.splitOnP fun c => c == '=' || c == '.').map Text.ofHex with
    | [whole, first, second] => (whole, first, second)
    | _ => (0, 0, 0)

/-- The composites in increasing order, for searching. -/
def compositeRuns : Text.Runs :=
  ⟨(composites.map (·.1)).toArray,
   (composites.map fun c => [Char.ofNat c.2.1, Char.ofNat c.2.2]).toArray⟩

def combiningClassRuns : Text.Runs := .ofText combiningClassText

/-- Canonical combining class. -/
def combiningClass (c : Char) : Nat :=
  if c.toNat < 0x300 then 0
  else Text.ofDecimal (((combiningClassRuns.at? c.toNat).getD []).drop 1)

/-- The two parts of a primary composite. -/
def parts? (c : Char) : Option (Char × Char) :=
  let n := c.toNat
  if n < 0xC0 then none
  else if 0xAC00 ≤ n && n < 0xD7A4 then
    let s := n - 0xAC00
    if s % 28 == 0 then
      some (Char.ofNat (0x1100 + s / 588), Char.ofNat (0x1161 + s % 588 / 28))
    else some (Char.ofNat (0xAC00 + s / 28 * 28), Char.ofNat (0x11A7 + s % 28))
  else
    let k := compositeRuns.countUpTo n compositeRuns.starts.size 0 compositeRuns.starts.size
    if compositeRuns.starts[k - 1]? == some n then
      match compositeRuns.values[k - 1]? with
      | some [a, b] => some (a, b)
      | _ => none
    else none

/-- Takes a character apart as far as it goes; no composite needs more than `depth` steps. -/
def decomposed : (depth : Nat) → Char → List Char
  | 0, c => [c]
  | depth + 1, c =>
    match parts? c with
    | some (a, b) => decomposed depth a ++ [b]
    | none => [c]

/-- Puts a character with its combining class behind the marks of lower or equal class. -/
def insertMark (mark : Char × Nat) : List (Char × Nat) → List (Char × Nat)
  | [] => [mark]
  | m :: rest => if m.2 ≤ mark.2 then m :: insertMark mark rest else mark :: m :: rest

/-- Orders each run of marks by combining class, keeping the order within a class. -/
def reordered (cs : List Char) : List Char :=
  let place (state : List Char × List (Char × Nat)) (c : Char) : List Char × List (Char × Nat) :=
    match combiningClass c with
    | 0 => (state.1 ++ state.2.map Prod.fst ++ [c], [])
    | k => (state.1, insertMark (c, k) state.2)
  let (done, marks) := cs.foldl place ([], [])
  done ++ marks.map Prod.fst

/-- The composite of two characters, if there is one. -/
def composed? (a b : Char) : Option Char :=
  let x := a.toNat
  let y := b.toNat
  if 0x1100 ≤ x && x < 0x1113 && 0x1161 ≤ y && y < 0x1176 then
    some (Char.ofNat (0xAC00 + ((x - 0x1100) * 21 + (y - 0x1161)) * 28))
  else if 0xAC00 ≤ x && x < 0xD7A4 && (x - 0xAC00) % 28 == 0 && 0x11A7 < y && y < 0x11C3 then
    some (Char.ofNat (x + (y - 0x11A7)))
  else (composites.find? fun c => c.2.1 == x && c.2.2 == y).map fun c => Char.ofNat c.1

/-- Joins marks to the last starter where nothing stands between them. `before` ends in the last
starter, `starter`; `marks` are those that stayed, and `lastClass` is the class of the last. -/
def joinMarks (before : List Char) (starter : Option Char) (marks : List Char) (lastClass : Nat) :
    List Char → List Char
  | [] => before ++ starter.toList ++ marks
  | c :: cs =>
    let k := combiningClass c
    match starter with
    | none =>
      if k == 0 then joinMarks before (some c) [] 0 cs
      else joinMarks (before ++ [c]) none [] 0 cs
    | some s =>
      let free := marks.isEmpty || lastClass < k
      match if free then composed? s c else none with
      | some whole => joinMarks before (some whole) marks lastClass cs
      | none =>
        if k == 0 then joinMarks (before ++ s :: marks) (some c) [] 0 cs
        else joinMarks before (some s) (marks ++ [c]) k cs

/-- The canonical composition of a text whose characters the mapping has left valid. -/
def composed (cs : List Char) : List Char :=
  if cs.all (·.toNat < 0x300) then cs
  else joinMarks [] none [] 0 (reordered (cs.flatMap (decomposed 4)))

end ReleaseListing.Url.Domain
