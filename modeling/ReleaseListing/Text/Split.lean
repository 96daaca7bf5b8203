/-!
# Finding and splitting in character lists
-/

namespace ReleaseListing.Text

/-- Whether `pattern` stands somewhere in the list, as a run of neighbours. -/
def occursIn (pattern : List Char) : List Char → Bool
  | [] => pattern.isEmpty
  | c :: cs => pattern.isPrefixOf (c :: cs) || occursIn pattern cs

/-- The parts of a text that spaces and line ends divide. -/
def words (text : String) : List (List Char) :=
  (text.toList.splitOnP fun c => c == ' ' || c == '\n').filter (!·.isEmpty)

/-- What follows the last `sep`, if there is one. -/
def afterLast? (sep : Char) : List Char → Option (List Char)
  | [] => none
  | c :: cs => (afterLast? sep cs).or (if c == sep then some cs else none)

/-- What follows the last `sep`, or all of it when there is none. -/
def afterLast (sep : Char) (cs : List Char) : List Char :=
  (afterLast? sep cs).getD cs

/-- Everything through the last `sep`, if there is one. -/
def throughLast? (sep : Char) : List Char → Option (List Char)
  | [] => none
  | c :: cs => ((throughLast? sep cs).map (c :: ·)).or (if c == sep then some [c] else none)

/-- Everything through the last `sep`; empty when there is none. -/
def throughLast (sep : Char) (cs : List Char) : List Char :=
  (throughLast? sep cs).getD []

/-- Whether `cs` starts with `start`, and the rest if it does. -/
def dropStart? (start cs : List Char) : Option (List Char) :=
  if start.isPrefixOf cs then some (cs.drop start.length) else none

/-- ASCII letters to lower case; everything else is kept. -/
def asciiLower (cs : List Char) : List Char := cs.map Char.toLower

end ReleaseListing.Text
