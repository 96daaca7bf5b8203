import ReleaseListing.Text.Hex
import ReleaseListing.Text.Split

/-!
# Properties that hold over runs of code points

A table lists, in increasing order, the code points at which a property changes, each in lower-case
hexadecimal with the value that holds from there on.
-/

namespace ReleaseListing.Text

/-- The starts of the runs, in increasing order, and what holds in each. -/
structure Runs where
  starts : Array Nat
  values : Array (List Char)

namespace Runs

/-- Reads entries parted by spaces and line ends: lower-case hexadecimal digits, then the value. -/
def ofText (text : String) : Runs :=
  let isStart (c : Char) : Bool := c.isDigit || ('a' ≤ c && c ≤ 'f')
  let entries := (words text).map fun entry =>
    (ofHex (entry.takeWhile isStart), entry.dropWhile isStart)
  ⟨(entries.map Prod.fst).toArray, (entries.map Prod.snd).toArray⟩

/-- How many of the starts from `lo` to `hi` lie at or before `n`, counted from the first start,
if those before `lo` do and those from `hi` on do not. Each step halves the gap. -/
def countUpTo (r : Runs) (n : Nat) : (steps lo hi : Nat) → Nat
  | 0, lo, _ => lo
  | steps + 1, lo, hi =>
    if lo < hi then
      let mid := (lo + hi) / 2
      if r.starts.getD mid 0 ≤ n then countUpTo r n steps (mid + 1) hi
      else countUpTo r n steps lo mid
    else lo

/-- The value that holds at `n`, if any run has begun. -/
def at? (r : Runs) (n : Nat) : Option (List Char) :=
  match r.countUpTo n r.starts.size 0 r.starts.size with
  | 0 => none
  | k + 1 => r.values[k]?

end Runs

end ReleaseListing.Text
