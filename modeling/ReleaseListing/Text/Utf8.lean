/-!
# Reading bytes as UTF-8

A byte string is a sequence of pieces: well-formed encodings of one character, and ill-formed
pieces, each the longest start of an encoding that the next byte breaks off. Strict reading
refuses ill-formed pieces; lenient reading puts U+FFFD for each.
-/

namespace ReleaseListing.Text.Utf8

/-- How much of an encoding has been read. -/
inductive State where
  /-- Between two encodings. -/
  | start
  /-- `need` more bytes are due, the next one between `lo` and `hi`; `acc` holds the bits so far. -/
  | within (need : Nat) (lo hi : UInt8) (acc : Nat)

/-- Reads a byte between two encodings. -/
def first (b : UInt8) : List (Option Char) × State :=
  let bits (mask : Nat) : Nat := b.toNat % mask
  if b < 0x80 then ([some (Char.ofNat b.toNat)], .start)
  else if b < 0xC2 then ([none], .start)
  else if b < 0xE0 then ([], .within 1 0x80 0xBF (bits 0x20))
  else if b == 0xE0 then ([], .within 2 0xA0 0xBF (bits 0x10))
  else if b == 0xED then ([], .within 2 0x80 0x9F (bits 0x10))
  else if b < 0xF0 then ([], .within 2 0x80 0xBF (bits 0x10))
  else if b == 0xF0 then ([], .within 3 0x90 0xBF (bits 0x08))
  else if b < 0xF4 then ([], .within 3 0x80 0xBF (bits 0x08))
  else if b == 0xF4 then ([], .within 3 0x80 0x8F (bits 0x08))
  else ([none], .start)

/-- The pieces of a byte string; `none` stands for an ill-formed one. -/
def pieces : State → List UInt8 → List (Option Char)
  | .start, [] => []
  | .within .., [] => [none]
  | .start, b :: bs => (first b).1 ++ pieces (first b).2 bs
  | .within need lo hi acc, b :: bs =>
    if lo ≤ b && b ≤ hi then
      let acc := acc * 0x40 + b.toNat % 0x40
      if need ≤ 1 then some (Char.ofNat acc) :: pieces .start bs
      else pieces (.within (need - 1) 0x80 0xBF acc) bs
    else none :: ((first b).1 ++ pieces (first b).2 bs)

/-- The characters of a well-formed byte string. -/
def decode? (bytes : List UInt8) : Option (List Char) :=
  (pieces .start bytes).mapM id

/-- The characters of any byte string, U+FFFD for each ill-formed piece. -/
def decodeLenient (bytes : List UInt8) : List Char :=
  (pieces .start bytes).map (·.getD '\uFFFD')

/-- The encoding of a character list. -/
def encode (cs : List Char) : List UInt8 :=
  cs.flatMap String.utf8EncodeChar

end ReleaseListing.Text.Utf8
