import ReleaseListing.Text.PrintableTable
import ReleaseListing.Text.Runs

/-!
# Texts for the eye

A text between double quotes, in which every character can be seen: what has no visible form of its
own is written by its number.
-/

namespace ReleaseListing.Text

/-- The runs of invisible and visible characters, in turn. -/
def invisibleRuns : Runs := .ofText invisibleText

/-- Whether a character has no visible form of its own. -/
def isInvisible (c : Char) : Bool :=
  let n := c.toNat
  if 0x20 ≤ n && n < 0x7F then false
  else invisibleRuns.countUpTo n invisibleRuns.starts.size 0 invisibleRuns.starts.size % 2 == 1

/-- One character of a text for the eye. -/
def escapeInvisible (c : Char) : List Char :=
  match c with
  | '"' => ['\\', '"']
  | '\\' => ['\\', '\\']
  | '\n' => ['\\', 'n']
  | '\r' => ['\\', 'r']
  | '\t' => ['\\', 't']
  | '\x00' => ['\\', '0']
  | c => if isInvisible c then "\\u\x7b".toList ++ hex c.toNat ++ ['\x7d'] else [c]

end ReleaseListing.Text
