import ReleaseListing.Text.Decimal
import ReleaseListing.Text.Hex
import ReleaseListing.Text.Split
import ReleaseListing.Toml.Value

/-!
# Strings, numbers and dates of TOML
-/

namespace ReleaseListing.Toml

/-! ## Strings -/

/-- Blanks inside a line. -/
def isBlank (c : Char) : Bool := c == ' ' || c == '\t'

/-- Characters that may stand raw in text: no controls other than the tab. -/
def isPlain (c : Char) : Bool := c == '\t' || (0x20 ≤ c.toNat && c.toNat != 0x7F)

/-- Whether a line ends here. -/
def atLineEnd : List Char → Bool
  | '\n' :: _ => true
  | '\r' :: '\n' :: _ => true
  | _ => false

/-- The character with the number that hexadecimal digits write. -/
def unicode? (digits : List Char) : Option Char :=
  let n := Text.ofHex digits
  if digits.all (fun c => (Text.hexValue? c).isSome) && n.isValidChar then some (Char.ofNat n)
  else none

/-- The character that an escape of one letter stands for. -/
def escaped? (c : Char) : Option Char :=
  match c with
  | 'b' => some '\x08'
  | 't' => some '\t'
  | 'n' => some '\n'
  | 'f' => some '\x0C'
  | 'r' => some '\r'
  | '"' => some '"'
  | '\\' => some '\\'
  | _ => none

/-- The rest of a string with escapes that ends with a quote, and the text behind it. `done` holds
the characters so far, reversed. -/
def readBasic (done : List Char) : List Char → Option (String × List Char)
  | [] => none
  | '"' :: rest => some (String.ofList done.reverse, rest)
  | '\\' :: 'u' :: a :: b :: c :: d :: rest =>
    match unicode? [a, b, c, d] with
    | some x => readBasic (x :: done) rest
    | none => none
  | '\\' :: 'U' :: a :: b :: c :: d :: e :: f :: g :: h :: rest =>
    match unicode? [a, b, c, d, e, f, g, h] with
    | some x => readBasic (x :: done) rest
    | none => none
  | '\\' :: c :: rest =>
    match escaped? c with
    | some x => readBasic (x :: done) rest
    | none => none
  | c :: rest => if isPlain c && c != '\\' then readBasic (c :: done) rest else none

/-- The rest of a string with escapes that ends with three quotes. `skipping` behind a backslash at
the end of a line. -/
def readLongBasic (skipping : Bool) (done : List Char) : List Char → Option (String × List Char)
  | [] => none
  | '"' :: '"' :: '"' :: '"' :: '"' :: rest =>
    some (String.ofList ('"' :: '"' :: done).reverse, rest)
  | '"' :: '"' :: '"' :: '"' :: rest => some (String.ofList ('"' :: done).reverse, rest)
  | '"' :: '"' :: '"' :: rest => some (String.ofList done.reverse, rest)
  | '\\' :: 'u' :: a :: b :: c :: d :: rest =>
    match unicode? [a, b, c, d] with
    | some x => readLongBasic false (x :: done) rest
    | none => none
  | '\\' :: 'U' :: a :: b :: c :: d :: e :: f :: g :: h :: rest =>
    match unicode? [a, b, c, d, e, f, g, h] with
    | some x => readLongBasic false (x :: done) rest
    | none => none
  | '\\' :: c :: rest =>
    match escaped? c with
    | some x => readLongBasic false (x :: done) rest
    | none =>
      if atLineEnd ((c :: rest).dropWhile isBlank) then readLongBasic true done (c :: rest)
      else none
  | '\r' :: '\n' :: rest => readLongBasic skipping (if skipping then done else '\n' :: done) rest
  | '\n' :: rest => readLongBasic skipping (if skipping then done else '\n' :: done) rest
  | c :: rest =>
    if skipping && isBlank c then readLongBasic true done rest
    else if isPlain c && c != '\\' then readLongBasic false (c :: done) rest
    else none

/-- The rest of a string without escapes that ends with three quotes. -/
def readLongLiteral (done : List Char) : List Char → Option (String × List Char)
  | [] => none
  | '\'' :: '\'' :: '\'' :: '\'' :: '\'' :: rest =>
    some (String.ofList ('\'' :: '\'' :: done).reverse, rest)
  | '\'' :: '\'' :: '\'' :: '\'' :: rest => some (String.ofList ('\'' :: done).reverse, rest)
  | '\'' :: '\'' :: '\'' :: rest => some (String.ofList done.reverse, rest)
  | '\r' :: '\n' :: rest => readLongLiteral ('\n' :: done) rest
  | '\n' :: rest => readLongLiteral ('\n' :: done) rest
  | c :: rest => if isPlain c then readLongLiteral (c :: done) rest else none

/-- The rest of a string without escapes that ends with a quote. -/
def readLiteral (cs : List Char) : Option (String × List Char) :=
  let inside (c : Char) : Bool := isPlain c && c != '\''
  match cs.dropWhile inside with
  | '\'' :: rest => some (String.ofList (cs.takeWhile inside), rest)
  | _ => none

/-- Drops a line end right behind the opening quotes. -/
def dropLineEnd : List Char → List Char
  | '\n' :: rest => rest
  | '\r' :: '\n' :: rest => rest
  | cs => cs

/-- A string in any of its four forms. -/
def readString (cs : List Char) : Option (String × List Char) :=
  match cs with
  | '"' :: '"' :: '"' :: rest => readLongBasic false [] (dropLineEnd rest)
  | '"' :: rest => readBasic [] rest
  | '\'' :: '\'' :: '\'' :: rest => readLongLiteral [] (dropLineEnd rest)
  | '\'' :: rest => readLiteral rest
  | _ => none

/-! ## Numbers -/

/-- The digits of a number without the underscores, each of which stands between two digits. -/
def digits? (isDigit : Char → Bool) (cs : List Char) : Option (List Char) :=
  let groups := cs.splitOnP (· == '_')
  if groups.all fun g => !g.isEmpty && g.all isDigit then some groups.flatten else none

/-- Sign and rest of a number. -/
def splitSign (cs : List Char) : Bool × List Char :=
  match cs with
  | '-' :: rest => (true, rest)
  | '+' :: rest => (false, rest)
  | cs => (false, cs)

/-- Digits that do not start with a zero, apart from zero itself. -/
def wholeDigits? (cs : List Char) : Option (List Char) :=
  match cs with
  | '0' :: _ :: _ => none
  | cs => digits? Char.isDigit cs

/-- A natural number in the base that its start gives. -/
def based? (cs : List Char) : Option Nat :=
  let value (base : Nat) (rest : List Char) : Option Nat :=
    let isDigit (c : Char) : Bool := (Text.hexValue? c).any (· < base)
    (digits? isDigit rest).map fun ds =>
      ds.foldl (fun n c => n * base + (Text.hexValue? c).getD 0) 0
  match cs with
  | '0' :: 'x' :: rest => value 16 rest
  | '0' :: 'o' :: rest => value 8 rest
  | '0' :: 'b' :: rest => value 2 rest
  | _ => none

/-- An integer of 64 bits. -/
def integer? (token : List Char) : Option Int :=
  let fitting (n : Int) : Option Int :=
    if -0x8000000000000000 ≤ n && n < 0x8000000000000000 then some n else none
  match based? token with
  | some n => fitting n
  | none =>
    let (negative, rest) := splitSign token
    (wholeDigits? rest).bind fun ds =>
      let n : Int := Text.ofDecimal ds
      fitting (if negative then -n else n)

/-- The shortest text of a float; none if it is not one, or beyond all numbers. -/
def float? (token : List Char) : Option String :=
  let (negative, rest) := splitSign token
  let signed (cs : List Char) : String := String.ofList (if negative then '-' :: cs else cs)
  if rest = "inf".toList then some (signed rest)
  else if rest = "nan".toList then some "NaN"
  else
    let isExponentMark (c : Char) : Bool := c == 'e' || c == 'E'
    let mantissa := rest.takeWhile (!isExponentMark ·)
    let whole := mantissa.takeWhile (· != '.')
    let fraction : Option (List Char) := match mantissa.dropWhile (· != '.') with
      | [] => some []
      | _ :: ds => digits? Char.isDigit ds
    let exponent : Option Int := match rest.dropWhile (!isExponentMark ·) with
      | [] => some 0
      | _ :: ds =>
        let (negative, ds) := splitSign ds
        (digits? Char.isDigit ds).map fun ds =>
          if negative then -(Text.ofDecimal ds : Int) else Text.ofDecimal ds
    match wholeDigits? whole, fraction, exponent with
    | some whole, some fraction, some exponent =>
      let m := Text.ofDecimal (whole ++ fraction)
      match Text.nearest? m (exponent - fraction.length) with
      | some (m, q) =>
        let (t, k) := Text.shortest m q
        some (signed (Text.positional t k))
      | none => if negative then some "-inf" else none
    | _, _, _ => none

/-! ## Dates and times -/

/-- The number that exactly so many digits at the start write, and the text behind them. -/
def fixedDigits? (count : Nat) (cs : List Char) : Option (Nat × List Char) :=
  let ds := cs.take count
  if ds.length == count && ds.all Char.isDigit then some (Text.ofDecimal ds, cs.drop count)
  else none

/-- What follows a character that has to be there. -/
def expect? (c : Char) (cs : List Char) : Option (List Char) := Text.dropStart? [c] cs

/-- How many days a month has. -/
def daysIn (year month : Nat) : Nat :=
  if month == 2 then
    if year % 4 == 0 && (year % 100 != 0 || year % 400 == 0) then 29 else 28
  else if [4, 6, 9, 11].contains month then 30
  else 31

/-- What follows a date. -/
def afterDate? (cs : List Char) : Option (List Char) := do
  let (year, cs) ← fixedDigits? 4 cs
  let (month, cs) ← fixedDigits? 2 (← expect? '-' cs)
  let (day, cs) ← fixedDigits? 2 (← expect? '-' cs)
  if 1 ≤ month && month ≤ 12 && 1 ≤ day && day ≤ daysIn year month then return cs else none

/-- What follows hours and minutes. -/
def afterMinutes? (cs : List Char) : Option (List Char) := do
  let (hour, cs) ← fixedDigits? 2 cs
  let (minute, cs) ← fixedDigits? 2 (← expect? ':' cs)
  if hour ≤ 23 && minute ≤ 59 then return cs else none

/-- What follows a time of day. -/
def afterTime? (cs : List Char) : Option (List Char) := do
  let (second, cs) ← fixedDigits? 2 (← expect? ':' (← afterMinutes? cs))
  if 60 < second then none
  else
    match cs with
    | '.' :: rest =>
      if (rest.takeWhile Char.isDigit).isEmpty then none else return rest.dropWhile Char.isDigit
    | cs => return cs

/-- Whether the text is an offset from universal time, or nothing. -/
def isOffset (cs : List Char) : Bool :=
  match cs with
  | [] => true
  | ['Z'] => true
  | ['z'] => true
  | '+' :: rest => afterMinutes? rest == some []
  | '-' :: rest => afterMinutes? rest == some []
  | _ => false

/-- Whether the text is a date, a time, or both, perhaps with an offset. -/
def isDatetime (token : List Char) : Bool :=
  match afterDate? token with
  | some [] => true
  | some (c :: rest) =>
    (c == 'T' || c == 't' || c == ' ') && (afterTime? rest).any isOffset
  | none => afterTime? token == some []

/-! ## Unquoted values -/

/-- Characters of unquoted values. -/
def isTokenChar (c : Char) : Bool := c.isAlphanum || "+-_.:".toList.contains c

/-- The unquoted value at the start of a text, and what follows it. A date may be parted from its
time by a space. -/
def splitToken (cs : List Char) : List Char × List Char :=
  let token := cs.takeWhile isTokenChar
  match cs.drop token.length with
  | ' ' :: rest =>
    if afterDate? token == some [] && (rest.head?.map Char.isDigit).getD false then
      (token ++ ' ' :: rest.takeWhile isTokenChar, rest.dropWhile isTokenChar)
    else (token, ' ' :: rest)
  | rest => (token, rest)

/-- The value that an unquoted text writes. -/
def scalar? (token : List Char) : Option Value :=
  match String.ofList token with
  | "true" => some (.boolean true)
  | "false" => some (.boolean false)
  | text =>
    if isDatetime token then some (.datetime text)
    else
      match integer? token with
      | some n => some (.integer n)
      | none =>
        let isFloat := token.any fun c => ".eEin".toList.contains c
        if isFloat then (float? token).map .float else none

end ReleaseListing.Toml
