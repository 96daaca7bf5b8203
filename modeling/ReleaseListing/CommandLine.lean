import ReleaseListing.CommandLine.Arguments
import ReleaseListing.Listing
import ReleaseListing.Naming

/-!
# The command line

What the program can be asked for, and how that is written.
-/

namespace ReleaseListing

/-- The shells that completions are made for. -/
inductive Shell where
  | bash
  | elvish
  | fish
  | powershell
  | zsh
  deriving DecidableEq, Repr

namespace Shell

/-- The word for a shell. -/
def name : Shell → String
  | .bash => "bash"
  | .elvish => "elvish"
  | .fish => "fish"
  | .powershell => "powershell"
  | .zsh => "zsh"

def all : List Shell := [.bash, .elvish, .fish, .powershell, .zsh]

/-- The shell with the given name. -/
def ofName? (name : String) : Option Shell := all.find? (·.name == name)

end Shell

/-- What is asked of a single listing. Settings that are left out come from the configuration. -/
structure ListRequest where
  input : String
  pattern : String
  start : String := ""
  strategy : Strategy := .pathTail
  style : Style := .call
  record : Option String := none
  separator : Option String := none
  baseUrl : Option String := none
  assign : Option String := none
  docstring : Option String := none
  removesRows : Bool := false
  levels : Option Nat := none
  /-- Where the page goes when rows have been removed. -/
  remainder : Option String := none
  deriving DecidableEq, Repr

/-- What the program is asked for. -/
inductive Command where
  | list (request : ListRequest)
  /-- All jobs of a preset. The page goes to `remainder`. -/
  | preset (name input : String) (remainder : Option String)
  | presets
  | configPath
  | completions (shell : Shell)
  deriving DecidableEq, Repr

namespace CommandLine

/-! ## Values -/

/-- Paths are not empty. -/
def checkPath (value : String) : Except Rejection Unit :=
  if value.isEmpty then .error .missing else .ok ()

/-- A value that `read` gives a meaning, or a failure. -/
def checkNamed {α : Type} (read : String → Except Failure α) (value : String) :
    Except Rejection Unit :=
  match read value with
  | .ok _ => .ok ()
  | .error f => .error (.reason f.message)

def checkShell (value : String) : Except Rejection Unit :=
  if (Shell.ofName? value).isSome then .ok () else .error .choice

/-- The number of 64 bits that digits write, from a number that is read already. -/
def readDigits (n : Nat) : List Char → Except String Nat
  | [] => .ok n
  | c :: cs =>
    if !c.isDigit then .error "invalid digit found in string"
    else
      let n := n * 10 + (c.toNat - '0'.toNat)
      if Nat.pow 2 64 ≤ n then .error "number too large to fit in target type"
      else readDigits n cs

/-- A number of 64 bits, with a plus sign or without. -/
def readNumber (text : String) : Except String Nat :=
  match text.toList with
  | [] => .error "cannot parse integer from empty string"
  | '+' :: c :: cs => readDigits 0 (c :: cs)
  | cs => readDigits 0 cs

def checkNumber (value : String) : Except Rejection Unit :=
  match readNumber value with
  | .ok _ => .ok ()
  | .error reason => .error (.reason reason)

/-! ## Parameters -/

/-- An option with a text as its value. -/
def textOption (name valueName : String) : Parameter := { name, form := .option false, valueName }

def inputParameter : Parameter :=
  { name := "input", form := .byPlace, valueName := "INPUT", required := true, check := checkPath }

def remainderParameter : Parameter := { textOption "rewrite" "PATH" with check := checkPath }

/-- What a single listing takes. -/
def listParameters : List Parameter :=
  [inputParameter,
   { name := "pattern", form := .option true, letter := some 'p', valueName := "PATTERN"
     required := true },
   textOption "prefix" "PREFIX",
   { textOption "strategy" "STRATEGY" with check := checkNamed Strategy.ofName },
   { textOption "format" "FORMAT" with check := checkNamed Style.ofName },
   textOption "record" "RECORD",
   textOption "separator" "SEPARATOR",
   textOption "base-url" "URL",
   textOption "assign" "NAME",
   textOption "docstring" "TEXT",
   { name := "remove-rows", form := .flag },
   { textOption "levels" "N" with check := checkNumber },
   remainderParameter]

/-- What a preset takes. -/
def presetParameters : List Parameter :=
  [{ name := "name", form := .byPlace, valueName := "NAME", required := true }, inputParameter,
   remainderParameter]

/-- What completions take. -/
def completionsParameters : List Parameter :=
  [{ name := "shell", form := .byPlace, valueName := "SHELL", required := true
     check := checkShell }]

/-! ## Commands -/

/-- A single listing. The page is written only if rows are to be removed. -/
def readList (arguments : List String) : Except Error Command := do
  let given ← scan listParameters arguments
  let value (name : String) : Option String := given.lookup name
  let removesRows := (value "remove-rows").isSome
  if (value "rewrite").isSome && !removesRows then throw .missingArguments
  return .list {
    input := (value "input").getD ""
    pattern := (value "pattern").getD ""
    start := (value "prefix").getD ""
    strategy := ((value "strategy").bind fun s => (Strategy.ofName s).toOption).getD .pathTail
    style := ((value "format").bind fun s => (Style.ofName s).toOption).getD .call
    record := value "record"
    separator := value "separator"
    baseUrl := value "base-url"
    assign := value "assign"
    docstring := value "docstring"
    removesRows
    levels := (value "levels").bind fun s => (readNumber s).toOption
    remainder := value "rewrite" }

/-- A preset. -/
def readPreset (arguments : List String) : Except Error Command := do
  let given ← scan presetParameters arguments
  return .preset ((given.lookup "name").getD "") ((given.lookup "input").getD "")
    (given.lookup "rewrite")

/-- Completions. -/
def readCompletions (arguments : List String) : Except Error Command := do
  let given ← scan completionsParameters arguments
  match (given.lookup "shell").bind Shell.ofName? with
  | some shell => return .completions shell
  | none => throw .missingArguments

/-- The readers of the subcommands, by their names. -/
def subcommands : List (String × (List String → Except Error Command)) :=
  [("list", readList), ("preset", readPreset),
   ("presets", fun arguments => do
     discard (scan [] arguments)
     return .presets),
   ("config-path", fun arguments => do
     discard (scan [] arguments)
     return .configPath),
   ("completions", readCompletions)]

/-- Whether there is a subcommand of the name. -/
def isSubcommand (name : String) : Bool := name == "help" || (subcommands.lookup name).isSome

/-- Help is there for the program and each subcommand. -/
def readHelp : List String → Except Error Command
  | [] => .error .helpRequested
  | name :: rest =>
    if isSubcommand name then
      match rest with
      | [] => .error .helpRequested
      | next :: _ => .error (.unknownSubcommand next)
    else .error (.unknownSubcommand name)

/-- What the arguments ask for. -/
def parse : List String → Except Error Command
  | [] => .error .helpInstead
  | first :: rest =>
    match subcommands.lookup first, first.toList with
    | some read, _ => read rest
    | none, ['-', '-'] =>
      match rest with
      | [] => .error .helpInstead
      | next :: _ =>
        .error (if isSubcommand next then .unknownArgument next else .unknownSubcommand next)
    | none, '-' :: c :: text => do
      -- Apart from the subcommands there is only the flag that asks for help.
      discard (Scan.step [helpFlag] { places := [] } (String.ofList ('-' :: c :: text)))
      throw .helpInstead
    | none, _ => if first == "help" then readHelp rest else .error (.unknownSubcommand first)

end CommandLine

end ReleaseListing
