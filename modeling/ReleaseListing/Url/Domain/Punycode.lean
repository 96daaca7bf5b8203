/-!
# Punycode

Writes a label with ASCII characters alone: its ASCII characters, a hyphen, and the positions and
code points of the others as a sequence of numbers with digits of varying weight.
-/

namespace ReleaseListing.Url.Domain.Punycode

/-- The weight step between the digits at distance `k` under a bias. -/
def threshold (k bias : Nat) : Nat :=
  if k ≤ bias + 1 then 1 else if bias + 26 ≤ k then 26 else k - bias

/-- Scales a distance down; returns what is left and 36 for each step. -/
def scale : (steps : Nat) → (distance k : Nat) → Nat × Nat
  | 0, distance, k => (distance, k)
  | steps + 1, distance, k =>
    if 455 < distance then scale steps (distance / 35) (k + 36) else (distance, k)

/-- The bias that follows a distance, among `count` characters. -/
def adapt (distance count : Nat) (first : Bool) : Nat :=
  let start := if first then distance / 700 else distance / 2
  let (left, k) := scale (start + 1).log2 (start + start / count) 0
  k + 36 * left / (left + 38)

/-- The digit for a value below 36: the letters, then the numerals. -/
def digit (n : Nat) : Char :=
  Char.ofNat (if n < 26 then 'a'.toNat + n else '0'.toNat + (n - 26))

def digitValue? (c : Char) : Option Nat :=
  if 'a' ≤ c && c ≤ 'z' then some (c.toNat - 'a'.toNat)
  else if 'A' ≤ c && c ≤ 'Z' then some (c.toNat - 'A'.toNat)
  else if '0' ≤ c && c ≤ '9' then some (c.toNat - '0'.toNat + 26)
  else none

/-- The digits of a number, least weight first. -/
def number (bias : Nat) : (steps k n : Nat) → List Char
  | 0, _, n => [digit n]
  | steps + 1, k, n =>
    let t := threshold k bias
    if n < t then [digit n]
    else digit (t + (n - t) % (36 - t)) :: number bias steps (k + 36) ((n - t) / (36 - t))

/-- Where the encoder stands: characters handled, distance since the last one, bias, output. -/
structure Encoder where
  handled : Nat
  distance : Nat
  bias : Nat
  output : List Char

/-- Handles every occurrence of the code point `m`; `m - n` code points lie before it. -/
def Encoder.handle (basics : Nat) (input : List Char) (n m : Nat) (e : Encoder) : Encoder :=
  let start := { e with distance := e.distance + (m - n) * (e.handled + 1) }
  let done := input.foldl (fun e c =>
    if c.toNat < m then { e with distance := e.distance + 1 }
    else if c.toNat == m then
      { handled := e.handled + 1
        distance := 0
        bias := adapt e.distance (e.handled + 1) (e.handled == basics)
        output := e.output ++ number e.bias (e.distance + 1).log2 36 e.distance }
    else e) start
  { done with distance := done.distance + 1 }

/-- The ASCII form of a label, without its mark `xn--`. -/
def encode (input : List Char) : List Char :=
  let basic := input.filter (·.toNat < 0x80)
  let others := ((input.filter (0x80 ≤ ·.toNat)).map Char.toNat).mergeSort.eraseDups
  let start : Encoder := ⟨basic.length, 0, 72, if basic.isEmpty then [] else basic ++ ['-']⟩
  (others.foldl (fun (state : Nat × Encoder) m =>
    (m + 1, state.2.handle basic.length input state.1 m)) (0x80, start)).2.output

/-- Where the decoder stands: the code point and position reached, and the number being read. -/
structure Decoder where
  point : Nat := 0x80
  position : Nat := 0
  bias : Nat := 72
  /-- The position when the number began. -/
  origin : Nat := 0
  weight : Nat := 1
  k : Nat := 36
  output : List Char

/-- Reads one digit; when it ends a number, the next character is put in its place. -/
def Decoder.read (d : Decoder) (c : Char) : Option Decoder := do
  let value ← digitValue? c
  let position := d.position + value * d.weight
  let t := threshold d.k d.bias
  if value < t then
    let count := d.output.length + 1
    let point := d.point + position / count
    let place := position % count
    if point.isValidChar then
      return { point
               position := place + 1
               bias := adapt (position - d.origin) count (d.origin == 0)
               origin := place + 1
               output := d.output.take place ++ Char.ofNat point :: d.output.drop place }
    else none
  else return { d with position, weight := d.weight * (36 - t), k := d.k + 36 }

/-- The label that an ASCII form without its mark stands for. -/
def decode? (input : List Char) : Option (List Char) := do
  let reversed := input.reverse
  let digits := (reversed.takeWhile (· != '-')).reverse
  let basic := ((reversed.dropWhile (· != '-')).drop 1).reverse
  let d ← digits.foldlM Decoder.read { output := basic }
  if d.k == 36 then return d.output else none

end ReleaseListing.Url.Domain.Punycode
