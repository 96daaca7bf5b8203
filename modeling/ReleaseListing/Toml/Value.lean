/-!
# TOML values

A table is a list of keys with their values, in the order of the document.
-/

namespace ReleaseListing.Toml

/-- How a table came to be, which decides how it may be added to. -/
inductive TableStyle where
  /-- Under a header of its own. -/
  | header
  /-- As a part of the header of another table. -/
  | implied
  /-- As a part of a dotted key. -/
  | dotted
  /-- Between braces. -/
  | inline
  deriving DecidableEq, Repr

/-- A value. -/
inductive Value where
  | string (s : String)
  | integer (n : Int)
  /-- A float, by the shortest text that reads as it. -/
  | float (text : String)
  | boolean (b : Bool)
  | datetime (text : String)
  | array (items : List Value)
  | table (style : TableStyle) (entries : List (String × Value))
  /-- Tables under headers between double brackets. -/
  | tables (elements : List (List (String × Value)))
  deriving Repr, Inhabited

/-- Keys with their values. -/
abbrev Entries := List (String × Value)

/-- What kind of value this is, in a word. -/
def Value.typeName : Value → String
  | .string _ => "string"
  | .integer _ => "integer"
  | .float _ => "float"
  | .boolean _ => "boolean"
  | .datetime _ => "datetime"
  | .array _ => "array"
  | .table .inline _ => "inline table"
  | .table _ _ => "table"
  | .tables _ => "array of tables"

/-! ## Equality -/

mutual

/-- Whether two values are the same. -/
def Value.same : Value → Value → Bool
  | .string a, .string b => a == b
  | .integer a, .integer b => a == b
  | .float a, .float b => a == b
  | .boolean a, .boolean b => a == b
  | .datetime a, .datetime b => a == b
  | .array as, .array bs => sameItems as bs
  | .table s as, .table t bs => s == t && sameEntries as bs
  | .tables as, .tables bs => sameTables as bs
  | _, _ => false

/-- The same for the items of arrays. -/
def sameItems : List Value → List Value → Bool
  | [], [] => true
  | a :: as, b :: bs => a.same b && sameItems as bs
  | _, _ => false

/-- The same for the entries of tables. -/
def sameEntries : List (String × Value) → List (String × Value) → Bool
  | [], [] => true
  | (k, a) :: as, (l, b) :: bs => k == l && a.same b && sameEntries as bs
  | _, _ => false

/-- The same for arrays of tables. -/
def sameTables : List (List (String × Value)) → List (List (String × Value)) → Bool
  | [], [] => true
  | as :: ass, bs :: bss => sameEntries as bs && sameTables ass bss
  | _, _ => false

end

mutual

theorem Value.same_iff : (a b : Value) → (a.same b = true ↔ a = b)
  | .array as, b => by cases b <;> simp [Value.same, sameItems_iff as]
  | .table _ as, b => by cases b <;> simp [Value.same, sameEntries_iff as]
  | .tables ass, b => by cases b <;> simp [Value.same, sameTables_iff ass]
  | .string _, b | .integer _, b | .float _, b | .boolean _, b | .datetime _, b => by
    cases b <;> simp [Value.same]

theorem sameItems_iff : (as bs : List Value) → (sameItems as bs = true ↔ as = bs)
  | [], bs => by cases bs <;> simp [sameItems]
  | a :: as, bs => by cases bs <;> simp [sameItems, a.same_iff, sameItems_iff as]

theorem sameEntries_iff : (as bs : List (String × Value)) → (sameEntries as bs = true ↔ as = bs)
  | [], bs => by cases bs <;> simp [sameEntries]
  | (_, a) :: as, bs => by
    rcases bs with _ | ⟨⟨_, b⟩, bs⟩ <;> simp [sameEntries, a.same_iff, sameEntries_iff as]

theorem sameTables_iff : (ass bss : List (List (String × Value))) →
    (sameTables ass bss = true ↔ ass = bss)
  | [], bss => by cases bss <;> simp [sameTables]
  | as :: ass, bss => by cases bss <;> simp [sameTables, sameEntries_iff as, sameTables_iff ass]

end

instance : DecidableEq Value := fun a b => decidable_of_iff _ (a.same_iff b)

/-! ## Adding along a path -/

/-- Puts a value for the key that is there. -/
def replace (key : String) (value : Value) (entries : Entries) : Entries :=
  entries.map fun e => if e.1 == key then (key, value) else e

/-- Changes the table that a path leads to. Tables that are missing come into being in the given
style. The last of an array's tables counts for all. A path through dots does not lead into tables
that have a header of their own, and none leads into a table between braces. -/
def alter? {α : Type} (missing : TableStyle) (f : TableStyle → Entries → Option (α × Entries)) :
    (path : List String) → TableStyle → Entries → Option (α × Entries)
  | [], style, entries => f style entries
  | key :: path, _, entries =>
    match entries.lookup key with
    | none =>
      (alter? missing f path missing []).map fun (a, inner) =>
        (a, entries ++ [(key, .table missing inner)])
    | some (.table style inner) =>
      if style == .inline || (missing == .dotted && style == .header) then none
      else
        (alter? missing f path style inner).map fun (a, inner) =>
          (a, replace key (.table style inner) entries)
    | some (.tables elements) =>
      match elements.getLast? with
      | none => none
      | some last =>
        (alter? missing f path .header last).map fun (a, last) =>
          (a, replace key (.tables (elements.dropLast ++ [last])) entries)
    | some _ => none

/-- Adds a value under a dotted key. -/
def insert? (path : List String) (key : String) (value : Value) (style : TableStyle)
    (entries : Entries) : Option Entries :=
  let add (style : TableStyle) (entries : Entries) : Option (Unit × Entries) :=
    -- A dotted key reaches only tables that dotted keys have made.
    if (style == .dotted) == path.isEmpty || (entries.lookup key).isSome then none
    else some ((), entries ++ [(key, value)])
  (alter? .dotted add path style entries).map Prod.snd

end ReleaseListing.Toml
