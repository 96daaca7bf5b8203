/-!
# Blank characters and the label form of a text

A character is blank when it has the Unicode property White_Space. The label form of a text
is its blank-free runs, joined by single spaces.
-/

namespace ReleaseListing.Text

/-- Unicode White_Space. -/
def isBlank (c : Char) : Bool :=
  let n := c.toNat
  (0x09 ≤ n && n ≤ 0x0D) || n == 0x20 || n == 0x85 || n == 0xA0 || n == 0x1680 ||
    (0x2000 ≤ n && n ≤ 0x200A) || n == 0x2028 || n == 0x2029 || n == 0x202F || n == 0x205F ||
    n == 0x3000

/-- Unicode general category Cc: the C0 controls, DEL and the C1 controls. -/
def isControl (c : Char) : Bool :=
  let n := c.toNat
  n < 0x20 || (0x7F ≤ n && n ≤ 0x9F)

/-- The maximal blank-free runs, in order. -/
def tokens : List Char → List (List Char)
  | [] => []
  | c :: cs =>
    if isBlank c then tokens cs
    else
      match cs, tokens cs with
      | d :: _, t :: ts => if isBlank d then [c] :: t :: ts else (c :: t) :: ts
      | _, ts => [c] :: ts

/-- The tokens with one space between neighbours. -/
def label (text : String) : String :=
  String.ofList ([' '].intercalate (tokens text.toList))

end ReleaseListing.Text
