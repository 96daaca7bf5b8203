import ReleaseListing.Text.Hex

/-!
# IPv6 addresses

Eight pieces of sixteen bits. In the text `::` stands once for one or more zero pieces, and four
decimal bytes may stand for the last two pieces. The written form shortens the first of the
longest runs of zeros and has no decimal bytes.
-/

namespace ReleaseListing.Url

/-- One to four hexadecimal digits. -/
def ipv6Piece? (text : List Char) : Option Nat :=
  if text.length == 0 || 4 < text.length then none
  else (text.mapM Text.hexValue?).map fun values => values.foldl (fun n d => n * 16 + d) 0

/-- A decimal number below 256 without leading zeros. -/
def ipv6Byte? (text : List Char) : Option Nat :=
  if text.isEmpty || !text.all Char.isDigit || 3 < text.length then none
  else if 1 < text.length && text.head? == some '0' then none
  else
    let n := Text.ofDecimal text
    if n < 256 then some n else none

/-- The two pieces that four decimal bytes stand for. -/
def ipv6Decimal? (text : List Char) : Option (List Nat) :=
  match (text.splitOnP (· == '.')).mapM ipv6Byte? with
  | some [a, b, c, d] => some [a * 256 + b, c * 256 + d]
  | _ => none

/-- Pieces with colons between them; the last may be decimal bytes if `last`. -/
def ipv6Pieces? (last : Bool) (text : List Char) : Option (List Nat) :=
  if text.isEmpty then some []
  else
    let parts := text.splitOnP (· == ':')
    let final := parts.getLast?.getD []
    if last && final.contains '.' then do
      return (← parts.dropLast.mapM ipv6Piece?) ++ (← ipv6Decimal? final)
    else parts.mapM ipv6Piece?

/-- The text before and after the first `::`. -/
def splitDoubleColon? : List Char → Option (List Char × List Char)
  | ':' :: ':' :: rest => some ([], rest)
  | c :: rest => (splitDoubleColon? rest).map fun (before, after) => (c :: before, after)
  | [] => none

/-- The eight pieces of an address. -/
def ipv6? (text : List Char) : Option (List Nat) :=
  match splitDoubleColon? text with
  | some (before, after) => do
    let left ← ipv6Pieces? false before
    let right ← ipv6Pieces? true after
    if left.length + right.length < 8 then
      return left ++ List.replicate (8 - left.length - right.length) 0 ++ right
    else none
  | none => do
    let pieces ← ipv6Pieces? true text
    if pieces.length == 8 then return pieces else none

/-- How many zeros the list starts with. -/
def leadingZeros : List Nat → Nat
  | 0 :: rest => leadingZeros rest + 1
  | _ => 0

/-- Start and length of the first longest run of zeros. -/
def longestZeros (pieces : List Nat) : Nat × Nat :=
  (List.range pieces.length).foldl
    (fun best start =>
      let run := leadingZeros (pieces.drop start)
      if best.2 < run then (start, run) else best)
    (0, 0)

/-- The shortened hexadecimal form, without brackets. -/
def renderIpv6 (pieces : List Nat) : List Char :=
  let join (ps : List Nat) : List Char := [':'].intercalate (ps.map Text.hex)
  let (start, run) := longestZeros pieces
  if run < 2 then join pieces
  else join (pieces.take start) ++ [':', ':'] ++ join (pieces.drop (start + run))

end ReleaseListing.Url
