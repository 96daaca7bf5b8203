import ReleaseListing.Text.Hex

/-!
# IPv4 addresses

One to four numbers, parted by dots, each decimal, octal (`0…`) or hexadecimal (`0x…`); the last
number fills all bytes that are left. The written form has four decimal numbers.
-/

namespace ReleaseListing.Url

/-- What a part of a dotted text says. -/
inductive Ipv4Number where
  | number (n : Nat)
  | tooLarge
  deriving DecidableEq, Repr

/-- The number in decimal, octal or hexadecimal that a part writes. -/
def ipv4Number? (part : List Char) : Option Ipv4Number :=
  let inBase (base : Nat) (digits : List Char) : Option Ipv4Number :=
    match digits.mapM Text.hexValue? with
    | some values =>
      if values.all (· < base) then
        let n := values.foldl (fun n d => n * base + d) 0
        some (if n < 0x100000000 then .number n else .tooLarge)
      else none
    | none => none
  match part with
  | [] => none
  | '0' :: 'x' :: digits => inBase 16 digits
  | '0' :: 'X' :: digits => inBase 16 digits
  | '0' :: d :: digits => inBase 8 (d :: digits)
  | digits => inBase 10 digits

/-- The dotted parts without the empty one that a final dot leaves. -/
def dottedParts (host : List Char) : List (List Char) :=
  let parts := host.splitOnP (· == '.')
  if parts.getLast? = some [] && 1 < parts.length then parts.dropLast else parts

/-- Whether the last part of a host makes the host an IPv4 address or nothing. -/
def endsInNumber (host : List Char) : Bool :=
  match (dottedParts host).getLast? with
  | some last =>
    (!last.isEmpty && last.all Char.isDigit) || (ipv4Number? last).isSome
  | none => false

/-- The address, as a number below 2³². -/
def ipv4? (host : List Char) : Option Nat :=
  let parts := dottedParts host
  if 4 < parts.length then none
  else
    match parts.mapM ipv4Number? with
    | none => none
    | some numbers =>
      match numbers.mapM (fun | .number n => some n | .tooLarge => none) with
      | none => none
      | some ns =>
        let leading := ns.dropLast
        let last := ns.getLast?.getD 0
        if leading.all (· < 256) && last < Nat.pow 256 (4 - leading.length) then
          some (leading.foldr (fun n (acc : Nat × Nat) => (acc.1 + n * acc.2, acc.2 * 256))
            (last, Nat.pow 256 (4 - leading.length))).1
        else none

/-- Four decimal numbers with dots between them. -/
def renderIpv4 (n : Nat) : List Char :=
  ['.'].intercalate ([n / 0x1000000 % 256, n / 0x10000 % 256, n / 256 % 256, n % 256].map
    fun b => (toString b).toList)

end ReleaseListing.Url
