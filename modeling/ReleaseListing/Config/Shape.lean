import ReleaseListing.Config
import ReleaseListing.Text.Quoted
import ReleaseListing.Text.Visible
import ReleaseListing.Toml.Value

/-!
# Configurations as tables

`Config.ofTable` reads a configuration from the entries of a table and `Config.toTable` gives the
entries that it is read from. Entries that mean nothing are passed over. Of several things that do
not fit, the first in the order of the entries counts, and a missing entry after all of those.
-/

namespace ReleaseListing.Config

open Toml (Value Entries)

/-- Why a table is no configuration. -/
inductive Mismatch where
  | missingField (name : String)
  /-- A value of another type. -/
  | wrongType (found : Value) (expected : String)
  /-- A number that is out of range. -/
  | wrongNumber (found : Int) (expected : String)
  | unknownVariant (name : String) (first second : String)
  /-- A list that stands for a record and ends too early. -/
  | tooShort (length : Nat) (record : String) (fields : Nat)
  /-- A variant is given neither by a text nor by a table. -/
  | noVariant
  | emptyVariantTable
  | crowdedVariantTable
  /-- What belongs to a variant is not empty. -/
  | variantNotEmpty (kind : String)
  | variantNoTable (found : String)
  deriving Repr

/-- A value as it is shown when its type is wrong. -/
def shownValue : Value → String
  | .string s => "string " ++ String.ofList (Text.quoted Text.escapeInvisible s)
  | .integer n => "integer `" ++ toString n ++ "`"
  | .float text => "floating point `" ++ text ++ "`"
  | .boolean b => "boolean `" ++ (if b then "true" else "false") ++ "`"
  | .datetime _ => "map"
  | .array _ => "sequence"
  | .table _ _ => "map"
  | .tables _ => "sequence"

/-- The reason in words. -/
def Mismatch.message : Mismatch → String
  | .missingField name => "missing field `" ++ name ++ "`"
  | .wrongType found expected =>
    "invalid type: " ++ shownValue found ++ ", expected " ++ expected
  | .wrongNumber found expected =>
    "invalid value: integer `" ++ toString found ++ "`, expected " ++ expected
  | .unknownVariant name first second =>
    "unknown variant `" ++ name ++ "`, expected `" ++ first ++ "` or `" ++ second ++ "`"
  | .tooShort length record fields =>
    "invalid length " ++ toString length ++ ", expected struct " ++ record ++ " with " ++
      toString fields ++ " elements"
  | .noVariant => "wanted string or table"
  | .emptyVariantTable => "wanted exactly 1 element, found 0 elements"
  | .crowdedVariantTable => "wanted exactly 1 element, more than 1 element"
  | .variantNotEmpty kind => "expected empty " ++ kind
  | .variantNoTable found => "expected table, found " ++ found

/-! ## Reading values -/

def readString : Value → Except Mismatch String
  | .string s => .ok s
  | v => .error (.wrongType v "a string")

def readBoolean : Value → Except Mismatch Bool
  | .boolean b => .ok b
  | v => .error (.wrongType v "a boolean")

/-- A number that is not negative. -/
def readNat : Value → Except Mismatch Nat
  | .integer n => if n < 0 then .error (.wrongNumber n "usize") else .ok n.toNat
  | v => .error (.wrongType v "usize")

/-- The items of a list. -/
def readItems : Value → Except Mismatch (List Value)
  | .array items => .ok items
  | .tables elements => .ok (elements.map (.table .header))
  | v => .error (.wrongType v "a sequence")

/-- One of two variants, by its name or by a table with its name as the only key. -/
def readVariant {α : Type} (first second : String × α) (v : Value) : Except Mismatch α :=
  let named (name : String) : Except Mismatch α :=
    if name == first.1 then .ok first.2
    else if name == second.1 then .ok second.2
    else .error (.unknownVariant name first.1 second.1)
  match v with
  | .string s => named s
  | .table _ [] => .error .emptyVariantTable
  | .table _ [(name, held)] => do
    let variant ← named name
    match held with
    | .table _ [] => return variant
    | .table _ _ => throw (.variantNotEmpty "table")
    | .tables [] => return variant
    | .tables _ => throw (.variantNotEmpty "array")
    | held => throw (.variantNoTable held.typeName)
  | .table _ _ => .error .crowdedVariantTable
  | _ => .error .noVariant

/-! ## Reading records -/

/-- The value of an entry, read by `read`, if it is there. -/
def optional {α : Type} (entries : Entries) (name : String) (read : Value → Except Mismatch α) :
    Except Mismatch (Option α) :=
  (entries.lookup name).mapM read

/-- The value of an entry that has to be there. -/
def required {α : Type} (entries : Entries) (missing : Mismatch) (name : String)
    (read : Value → Except Mismatch α) : Except Mismatch α :=
  match entries.lookup name with
  | some v => read v
  | none => .error missing

/-- Gives the reason that a value does not fit, if it does not. -/
def check {α : Type} (result : Except Mismatch α) : Except Mismatch Unit := result.map fun _ => ()

/-- The entries of a record, which a list may give by their order, and the reason when the entry
with the number is missing. -/
def readRecord (record : String) (names : List String) (v : Value) :
    Except Mismatch (Entries × (Nat → String → Mismatch)) :=
  match v with
  | .table _ entries => .ok (entries, fun _ name => .missingField name)
  | .datetime _ => .ok ([], fun _ name => .missingField name)
  | .array items => .ok (names.zip items, fun i _ => .tooShort i record names.length)
  | .tables elements =>
    .ok (names.zip (elements.map (.table .header)), fun i _ => .tooShort i record names.length)
  | v => .error (.wrongType v ("struct " ++ record))

/-- The entries of a job, in their order. -/
def jobFields : List String :=
  ["label", "pattern", "prefix", "strategy", "format", "base_url", "assign", "docstring",
   "remove_rows"]

def readStrategy : Value → Except Mismatch Strategy :=
  readVariant (Strategy.pathTail.name, .pathTail) (Strategy.label.name, .label)

def readStyle : Value → Except Mismatch Style :=
  readVariant (Style.call.name, .call) (Style.json.name, .json)

/-- Whether an entry of a job fits. -/
def checkJobEntry (entry : String × Value) : Except Mismatch Unit :=
  match entry.1 with
  | "label" | "pattern" | "prefix" | "base_url" | "assign" | "docstring" =>
    check (readString entry.2)
  | "strategy" => check (readStrategy entry.2)
  | "format" => check (readStyle entry.2)
  | "remove_rows" => check (readBoolean entry.2)
  | _ => .ok ()

/-- A job. -/
def readJob (v : Value) : Except Mismatch Job := do
  let (entries, missing) ← readRecord "ListingJob" jobFields v
  entries.forM checkJobEntry
  let pattern ← required entries (missing 1 "pattern") "pattern" readString
  let absent : Job := { pattern }
  return {
    label := ← optional entries "label" readString
    pattern
    start := (← optional entries "prefix" readString).getD absent.start
    strategy := (← optional entries "strategy" readStrategy).getD absent.strategy
    style := (← optional entries "format" readStyle).getD absent.style
    baseUrl := ← optional entries "base_url" readString
    assign := ← optional entries "assign" readString
    docstring := ← optional entries "docstring" readString
    removesRows := (← optional entries "remove_rows" readBoolean).getD absent.removesRows }

def readJobs (v : Value) : Except Mismatch (List Job) := do (← readItems v).mapM readJob

/-- Whether an entry of a preset fits. -/
def checkPresetEntry (entry : String × Value) : Except Mismatch Unit :=
  match entry.1 with
  | "name" => check (readString entry.2)
  | "jobs" => check (readJobs entry.2)
  | _ => .ok ()

/-- A preset. -/
def readPreset (v : Value) : Except Mismatch Preset := do
  let (entries, missing) ← readRecord "Preset" ["name", "jobs"] v
  entries.forM checkPresetEntry
  return {
    name := ← required entries (missing 0 "name") "name" readString
    jobs := (← optional entries "jobs" readJobs).getD [] }

def readPresets (v : Value) : Except Mismatch (List Preset) := do (← readItems v).mapM readPreset

/-- Whether an entry of a configuration fits. -/
def checkEntry (entry : String × Value) : Except Mismatch Unit :=
  match entry.1 with
  | "record" | "separator" => check (readString entry.2)
  | "row_levels" => check (readNat entry.2)
  | "presets" => check (readPresets entry.2)
  | _ => .ok ()

/-- The configuration that a table gives. -/
def ofTable (entries : Entries) : Except Mismatch Config := do
  entries.forM checkEntry
  let field {α : Type} (name : String) (read : Value → Except Mismatch α) : Except Mismatch α :=
    required entries (.missingField name) name read
  return {
    record := ← field "record" readString
    separator := ← field "separator" readString
    rowLevels := ← field "row_levels" readNat
    presets := (← optional entries "presets" readPresets).getD [] }

/-! ## Tables of configurations -/

/-- The entry of a text that may be absent. -/
def textEntry (name : String) : Option String → Entries
  | some s => [(name, .string s)]
  | none => []

/-- The entries of a job. -/
def jobTable (job : Job) : Entries :=
  textEntry "label" job.label ++
    [("pattern", .string job.pattern), ("prefix", .string job.start),
     ("strategy", .string job.strategy.name), ("format", .string job.style.name)] ++
    textEntry "base_url" job.baseUrl ++ textEntry "assign" job.assign ++
    textEntry "docstring" job.docstring ++ [("remove_rows", .boolean job.removesRows)]

/-- The entries of a preset. -/
def presetTable (preset : Preset) : Entries :=
  [("name", .string preset.name), ("jobs", .tables (preset.jobs.map jobTable))]

/-- The entries of a configuration. -/
def toTable (config : Config) : Entries :=
  [("record", .string config.record), ("separator", .string config.separator),
   ("row_levels", .integer config.rowLevels),
   ("presets", .tables (config.presets.map presetTable))]

end ReleaseListing.Config
