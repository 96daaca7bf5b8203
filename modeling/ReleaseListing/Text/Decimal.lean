/-!
# Decimal fractions and binary ones

A fraction is a natural number times a power of the base. `nearest?` rounds a decimal fraction to
53 binary digits, `shortest` goes back to the decimal fraction of fewest digits that rounds to the
same, and `positional` writes a decimal fraction out.
-/

namespace ReleaseListing.Text

/-- The fraction `numerator / denominator · base ^ exponent` as a quotient of natural numbers. -/
def scaled (base numerator denominator : Nat) (exponent : Int) : Nat × Nat :=
  (numerator * base.pow exponent.toNat, denominator * base.pow (-exponent).toNat)

/-- A quotient rounded to the nearest natural number, half to even. -/
def roundedQuotient (n d : Nat) : Nat :=
  let q := n / d
  let twice := 2 * (n % d)
  if twice < d || (twice == d && q % 2 == 0) then q else q + 1

/-- The binary fraction of at most 53 digits nearest to `m · 10 ^ e`, half to even; none if it is
too large for an exponent of 11 digits. -/
def nearest? (m : Nat) (e : Int) : Option (Nat × Int) :=
  let magnitude : Int := Nat.log2 m * 3 / 10 + e
  if m == 0 || magnitude < -400 then some (0, -1074)
  else if 400 < magnitude then none
  else
    let (n, d) := scaled 10 m 1 e
    let guess : Int := (Nat.log2 n : Int) - Nat.log2 d
    let (n', d') := scaled 2 n d (-guess)
    let log := if d' ≤ n' then guess else guess - 1
    let q := max (log - 52) (-1074)
    let (n', d') := scaled 2 n d (-q)
    let m' := roundedQuotient n' d'
    if Nat.pow 2 1024 ≤ (scaled 2 m' 1 q).1 then none else some (m', q)

/-- The decimal fraction on the grid `10 ^ k` that rounds to `m · 2 ^ q`, if there is one: the
nearer one of the two neighbours. -/
def onGrid? (m : Nat) (q k : Int) : Option Nat :=
  -- Everything in quarters of the last binary digit.
  let below := if m == Nat.pow 2 52 && -1074 < q then 1 else 2
  let (unit, d) := scaled 2 1 1 (q - 2)
  let (step, d) := scaled 10 d 1 k |> fun (s, e) => (s, e * unit)
  -- `t · 10 ^ k` is `t · step / d` quarters.
  let inside (t : Nat) : Bool :=
    let x := t * step
    let low := (4 * m - below) * d
    let high := (4 * m + 2) * d
    if m % 2 == 0 then low ≤ x && x ≤ high else low < x && x < high
  let t := 4 * m * d / step
  let far (t : Nat) : Nat := t * step - 4 * m * d + (4 * m * d - t * step)
  match inside t && 0 < t, inside (t + 1) with
  | true, true => some (if far t ≤ far (t + 1) then t else t + 1)
  | true, false => some t
  | false, true => some (t + 1)
  | false, false => none

/-- The first grid, from `10 ^ k` downwards, with a decimal fraction that rounds to `m · 2 ^ q`. -/
def shortestFrom (m : Nat) (q : Int) : (steps : Nat) → (k : Int) → Nat × Int
  | 0, k => (m, k)
  | steps + 1, k =>
    match onGrid? m q k with
    | some t => (t, k)
    | none => shortestFrom m q steps (k - 1)

/-- The decimal fraction of fewest digits that rounds to `m · 2 ^ q`. -/
def shortest (m : Nat) (q : Int) : Nat × Int :=
  if m == 0 then (0, 0) else shortestFrom m q 700 310

/-- A decimal fraction written out, with a point and at least one digit on both sides of it. -/
def positional (t : Nat) (k : Int) : List Char :=
  let digits := Nat.toDigits 10 t
  let places := (-k).toNat
  let digits := digits ++ List.replicate k.toNat '0'
  let digits := List.replicate (places + 1 - digits.length) '0' ++ digits
  let whole := digits.length - places
  digits.take whole ++ '.' :: if places == 0 then ['0'] else digits.drop whole

end ReleaseListing.Text
