import ReleaseListing.Html.EntityTable
import ReleaseListing.Text.Hex
import ReleaseListing.Text.Split

/-!
# Character references

A reference stands for one or two characters, by name or by number. Of the names that a text
starts with, the longest counts; some names end without a semicolon.
-/

namespace ReleaseListing.Html

/-- An entry of the table: a name of letters and digits, with a semicolon or without, and what it
stands for. -/
def readEntity (entry : List Char) : List Char × List Char :=
  let word := entry.takeWhile (·.isAlphanum)
  let (ending, meaning) := match entry.drop word.length with
    | ';' :: rest => ([';'], rest)
    | rest => ([], rest)
  (word ++ ending,
    (meaning.drop 1 |>.splitOnP (· == '.')).map fun p => Char.ofNat (Text.ofHex p))

/-- The names that pages are written with. -/
def writtenEntities : List (List Char × List Char) :=
  [("amp;".toList, ['&']), ("gt;".toList, ['>']), ("lt;".toList, ['<']),
   ("nbsp;".toList, ['\u00A0']), ("quot;".toList, ['"'])]

/-- The names and what they stand for. -/
def entities : List (List Char × List Char) :=
  writtenEntities ++ (Text.words entityText).map readEntity

/-- The longest name that the text starts with, and what it stands for. -/
def longestEntity? (cs : List Char) : Option (List Char × List Char) :=
  let longer (best : Option (List Char × List Char)) (entry : List Char × List Char) :=
    if entry.1.isPrefixOf cs && ((best.map (·.1.length)).getD 0) < entry.1.length then some entry
    else best
  entities.foldl longer none

/-- Numbers of C1 controls stand for the characters of an older encoding. -/
def controlReplacements : List (Nat × Nat) :=
  [(0x80, 0x20AC), (0x82, 0x201A), (0x83, 0x0192), (0x84, 0x201E), (0x85, 0x2026), (0x86, 0x2020),
   (0x87, 0x2021), (0x88, 0x02C6), (0x89, 0x2030), (0x8A, 0x0160), (0x8B, 0x2039), (0x8C, 0x0152),
   (0x8E, 0x017D), (0x91, 0x2018), (0x92, 0x2019), (0x93, 0x201C), (0x94, 0x201D), (0x95, 0x2022),
   (0x96, 0x2013), (0x97, 0x2014), (0x98, 0x02DC), (0x99, 0x2122), (0x9A, 0x0161), (0x9B, 0x203A),
   (0x9C, 0x0153), (0x9E, 0x017E), (0x9F, 0x0178)]

/-- The character that a number stands for; U+FFFD if it is the number of none. -/
def numbered (n : Nat) : Char :=
  match controlReplacements.lookup n with
  | some m => Char.ofNat m
  | none => if n == 0 || !n.isValidChar then '\uFFFD' else Char.ofNat n

/-- Drops the semicolon that may end a reference. -/
def withoutSemicolon : List Char → List Char
  | ';' :: rest => rest
  | cs => cs

/-- The number behind `&#`, and the text behind the reference. -/
def numericReference? (cs : List Char) : Option (Char × List Char) :=
  let (hex, cs) : Bool × List Char := match cs with
    | 'x' :: rest => (true, rest)
    | 'X' :: rest => (true, rest)
    | cs => (false, cs)
  let digits := cs.takeWhile fun c => if hex then (Text.hexValue? c).isSome else c.isDigit
  if digits.isEmpty then none
  else
    some (numbered (if hex then Text.ofHex digits else Text.ofDecimal digits),
      withoutSemicolon (cs.drop digits.length))

/-- A numeric reference that lacks its semicolon, with the semicolon and the text behind it. -/
def completed? (cs : List Char) : Option (List Char) :=
  match cs with
  | '#' :: number =>
    match numericReference? number with
    | some (_, rest) =>
      let written := number.take (number.length - rest.length)
      if written.getLast? == some ';' then none else some ('#' :: written ++ ';' :: rest)
    | none => none
  | _ => none

/-- What the text behind an ampersand stands for, and the text behind the reference. In an
attribute a name without its semicolon is no reference if a letter, a digit or an equals sign
follows. An ampersand that starts no reference stands for itself. -/
def reference (inAttribute : Bool) (cs : List Char) : List Char × List Char :=
  match cs with
  | '#' :: rest =>
    match numericReference? rest with
    | some (c, rest) => ([c], rest)
    | none => (['&'], cs)
  | c :: _ =>
    if c.isAlphanum then
      match longestEntity? cs with
      | some (name, meaning) =>
        let rest := cs.drop name.length
        let runsOn : Bool := match rest with
          | d :: _ => d == '=' || d.isAlphanum
          | [] => false
        if inAttribute && name.getLast? != some ';' && runsOn then (['&'], cs)
        else (meaning, rest)
      | none => (['&'], cs)
    else (['&'], cs)
  | [] => (['&'], [])

/-- The text of an attribute value, every reference replaced; `steps` bounds their number. -/
def resolved : (steps : Nat) → List Char → List Char
  | 0, cs => cs
  | steps + 1, cs =>
    match cs.dropWhile (· != '&') with
    | [] => cs
    | _ :: rest =>
      let (meaning, rest) := reference true rest
      cs.takeWhile (· != '&') ++ meaning ++ resolved steps rest

end ReleaseListing.Html
