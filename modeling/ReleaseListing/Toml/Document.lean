import ReleaseListing.Toml.Scalar

/-!
# TOML documents

`Toml.parse?` reads the table that a document writes, or nothing if the text is no TOML.
-/

namespace ReleaseListing.Toml

/-- How deep values may nest, and how many parts a key may have. -/
def depthLimit : Nat := 80

/-! ## Blanks -/

/-- Drops blanks, line ends and comments; none if a comment holds a control character. -/
def skipBlank? (inComment : Bool) : List Char → Option (List Char)
  | [] => some []
  | '\r' :: '\n' :: cs => skipBlank? false cs
  | '\n' :: cs => skipBlank? false cs
  | c :: cs =>
    if inComment then if isPlain c then skipBlank? true cs else none
    else if isBlank c then skipBlank? false cs
    else if c == '#' then skipBlank? true cs
    else some (c :: cs)

/-- What follows the end of a line, with a comment in front of it or without. -/
def endLine? (cs : List Char) : Option (List Char) :=
  let rest := cs.dropWhile isBlank
  let rest := if rest.head? == some '#' then rest.dropWhile isPlain else rest
  match rest with
  | [] => some []
  | '\n' :: rest => some rest
  | '\r' :: '\n' :: rest => some rest
  | _ => none

/-! ## Keys -/

/-- Characters of keys without quotes. -/
def isBareKeyChar (c : Char) : Bool := c.isAlphanum || c == '_' || c == '-'

/-- One part of a key. -/
def readKeyPart? (cs : List Char) : Option (String × List Char) :=
  match cs with
  | '"' :: rest => readBasic [] rest
  | '\'' :: rest => readLiteral rest
  | cs =>
    let part := cs.takeWhile isBareKeyChar
    if part.isEmpty then none else some (String.ofList part, cs.drop part.length)

/-- The parts of a key, up to `steps` of them, and what follows the blanks behind it. -/
def readKeyParts? : (steps : Nat) → List Char → Option (List String × List Char)
  | 0, _ => none
  | steps + 1, cs =>
    match readKeyPart? (cs.dropWhile isBlank) with
    | none => none
    | some (part, rest) =>
      match rest.dropWhile isBlank with
      | '.' :: rest => (readKeyParts? steps rest).map fun (parts, rest) => (part :: parts, rest)
      | rest => some ([part], rest)

/-- A key as the path to a table and a name in it. -/
def readKey? (cs : List Char) : Option (List String × String × List Char) := do
  let (parts, rest) ← readKeyParts? (depthLimit - 1) cs
  let last ← parts.getLast?
  return (parts.dropLast, last, rest)

/-! ## Values -/

mutual

/-- A value that starts here, inside so many others. -/
def readValue? : (steps depth : Nat) → List Char → Option (Value × List Char)
  | 0, _, _ => none
  | steps + 1, depth, cs =>
    match cs with
    | '"' :: _ => (readString cs).map fun (s, rest) => (.string s, rest)
    | '\'' :: _ => (readString cs).map fun (s, rest) => (.string s, rest)
    | '[' :: rest =>
      if depthLimit ≤ depth + 1 then none
      else (readItems? steps (depth + 1) [] rest).map fun (items, rest) => (.array items, rest)
    | '{' :: rest =>
      if depthLimit ≤ depth + 1 then none
      else
        match rest.dropWhile isBlank with
        | '}' :: rest => some (.table .inline [], rest)
        | rest =>
          (readEntries? steps (depth + 1) [] rest).map fun (entries, rest) =>
            (.table .inline entries, rest)
    | cs =>
      let (token, rest) := splitToken cs
      (scalar? token).map fun v => (v, rest)

/-- The rest of an array; `done` holds the items so far, reversed. -/
def readItems? : (steps depth : Nat) → (done : List Value) → List Char →
    Option (List Value × List Char)
  | 0, _, _, _ => none
  | steps + 1, depth, done, cs =>
    match skipBlank? false cs with
    | none => none
    | some (']' :: rest) => some (done.reverse, rest)
    | some cs =>
      match readValue? steps depth cs with
      | none => none
      | some (value, rest) =>
        match skipBlank? false rest with
        | some (',' :: rest) => readItems? steps depth (value :: done) rest
        | some (']' :: rest) => some ((value :: done).reverse, rest)
        | _ => none

/-- The rest of a table between braces, from a key on. -/
def readEntries? : (steps depth : Nat) → (entries : Entries) → List Char →
    Option (Entries × List Char)
  | 0, _, _, _ => none
  | steps + 1, depth, entries, cs =>
    match readKey? cs with
    | some (path, key, '=' :: rest) =>
      match readValue? steps depth (rest.dropWhile isBlank) with
      | none => none
      | some (value, rest) =>
        match insert? path key value .inline entries, rest.dropWhile isBlank with
        | some entries, ',' :: rest => readEntries? steps depth entries rest
        | some entries, '}' :: rest => some (entries, rest)
        | _, _ => none
    | _ => none

end

/-! ## Documents -/

/-- A document in reading: the tables that are complete, and the one that lines are added to. -/
structure Reading where
  root : Entries := []
  /-- The path to the table, empty for the root. -/
  path : List String := []
  /-- Whether the table is one of an array's. -/
  inArray : Bool := false
  table : Entries := []

namespace Reading

/-- Puts the table at its place. -/
def finish? (r : Reading) : Option Entries :=
  match r.path.getLast? with
  | none => some r.table
  | some key =>
    let place (_ : TableStyle) (entries : Entries) : Option (Unit × Entries) :=
      match r.inArray, entries.lookup key with
      | true, none => some ((), entries ++ [(key, .tables [r.table])])
      | true, some (.tables elements) =>
        some ((), replace key (.tables (elements ++ [r.table])) entries)
      | false, none => some ((), entries ++ [(key, .table .header r.table)])
      | _, _ => none
    (alter? .implied place r.path.dropLast .header r.root).map Prod.snd

/-- Goes on with the table that a header names. One that has come up as a part of other headers is
taken over. -/
def start? (inArray : Bool) (path : List String) (key : String) (r : Reading) :
    Option Reading := do
  let root ← r.finish?
  let take (_ : TableStyle) (entries : Entries) : Option (Entries × Entries) :=
    match inArray, entries.lookup key with
    | true, some (.tables _) => some ([], entries)
    | false, some (.table .implied inner) => some (inner, entries.filter (·.1 != key))
    | _, none => some ([], entries)
    | _, _ => none
  let (table, root) ← alter? .implied take path .header root
  return { root, path := path ++ [key], inArray, table }

end Reading

/-- A header: whether it stands between double brackets, and its key. -/
def readHeader? (cs : List Char) : Option (Bool × List String × String × List Char) :=
  match cs with
  | '[' :: rest =>
    match readKey? rest with
    | some (path, key, ']' :: ']' :: rest) => some (true, path, key, rest)
    | _ => none
  | cs =>
    match readKey? cs with
    | some (path, key, ']' :: rest) => some (false, path, key, rest)
    | _ => none

/-- A header line or a line that gives a value, and what follows it. -/
def readLine? (r : Reading) (cs : List Char) : Option (Reading × List Char) :=
  match cs with
  | '[' :: rest => do
    let (inArray, path, key, rest) ← readHeader? rest
    return (← r.start? inArray path key, rest)
  | cs => do
    let (path, key, rest) ← readKey? cs
    let rest ← expect? '=' rest
    let (value, rest) ← readValue? (2 * rest.length + 2) 0 (rest.dropWhile isBlank)
    return ({ r with table := ← insert? path key value .header r.table }, rest)

/-- All lines, up to `steps` of them. -/
def readLines? (r : Reading) : (steps : Nat) → List Char → Option Entries
  | 0, _ => none
  | steps + 1, cs =>
    match skipBlank? false cs with
    | none => none
    | some [] => r.finish?
    | some cs =>
      match readLine? r cs with
      | none => none
      | some (r, rest) =>
        match endLine? rest with
        | none => none
        | some rest => readLines? r steps rest

/-- The table that a document writes. -/
def parse? (text : String) : Option Entries :=
  let cs := match text.toList with
    | '\uFEFF' :: cs => cs
    | cs => cs
  readLines? {} (cs.length + 1) cs

end ReleaseListing.Toml
