import ReleaseListing.Text.Split

/-!
# Arguments

A command takes parameters by their place and options by their name. An option is written `--name`,
or with a dash and a letter, its value behind it as the next argument or behind an equals sign, and
a value directly behind the letter too. Behind `--` all arguments are taken by their place. A value
is looked at when the next argument shows that it is complete.
-/

namespace ReleaseListing.CommandLine

/-- Why arguments are not understood, or not to be. -/
inductive Error where
  | helpRequested
  /-- Without arguments, the help is shown. -/
  | helpInstead
  | missingArguments
  | unknownSubcommand (name : String)
  | unknownArgument (shown : String)
  | missingValue (parameter : String)
  | unknownChoice (value parameter : String)
  | rejectedValue (value parameter reason : String)
  | repeatedOption (parameter : String)
  | unexpectedValue (value parameter : String)
  deriving DecidableEq, Repr

/-- The error in words. -/
def Error.message : Error → String
  | .helpRequested => ""
  | .helpInstead => "rellist: list release assets from a saved release page"
  | .missingArguments => "error: the following required arguments were not provided:"
  | .unknownSubcommand name => "error: unrecognized subcommand '" ++ name ++ "'"
  | .unknownArgument shown => "error: unexpected argument '" ++ shown ++ "' found"
  | .missingValue parameter =>
    "error: a value is required for '" ++ parameter ++ "' but none was supplied"
  | .unknownChoice value parameter =>
    "error: invalid value '" ++ value ++ "' for '" ++ parameter ++ "'"
  | .rejectedValue value parameter reason =>
    "error: invalid value '" ++ value ++ "' for '" ++ parameter ++ "': " ++ reason
  | .repeatedOption parameter =>
    "error: the argument '" ++ parameter ++ "' cannot be used multiple times"
  | .unexpectedValue value parameter =>
    "error: unexpected value '" ++ value ++ "' for '" ++ parameter ++
      "' found; no more were expected"

/-- What is wrong with a value. -/
inductive Rejection where
  /-- An empty text counts as no value. -/
  | missing
  /-- The value is none of those to choose from. -/
  | choice
  | reason (text : String)

/-- How a parameter is given. -/
inductive Form where
  | byPlace
  /-- An option with a value; `dashes` if the value may start with a dash. -/
  | option (dashes : Bool)
  /-- An option without a value. -/
  | flag
  deriving DecidableEq, Repr

/-- Something that a command takes. -/
structure Parameter where
  name : String
  form : Form
  letter : Option Char := none
  /-- The word for its value. -/
  valueName : String := ""
  required : Bool := false
  /-- Whether a value will do. -/
  check : String → Except Rejection Unit := fun _ => .ok ()

namespace Parameter

/-- The parameter as messages show it. -/
def shown (p : Parameter) : String :=
  match p.form with
  | .byPlace => "<" ++ p.valueName ++ ">"
  | .option _ => "--" ++ p.name ++ " <" ++ p.valueName ++ ">"
  | .flag => "--" ++ p.name

/-- Gives the error for a value that will not do. -/
def validate (p : Parameter) (value : String) : Except Error Unit :=
  match p.check value with
  | .ok () => .ok ()
  | .error .missing => .error (.missingValue p.shown)
  | .error .choice =>
    .error (if value.isEmpty then .missingValue p.shown else .unknownChoice value p.shown)
  | .error (.reason text) => .error (.rejectedValue value p.shown text)

end Parameter

/-- Asks for help. -/
def helpFlag : Parameter where
  name := "help"
  form := .flag
  letter := some 'h'

/-- Where the reading of arguments stands. -/
structure Scan where
  /-- The parameter read last, with its value if that has been read, not looked at yet. -/
  pending : Option (Parameter × Option String) := none
  /-- Names and values of what has been given. -/
  given : List (String × String) := []
  /-- Parameters by place that have not been given. -/
  places : List Parameter
  /-- Set behind `--`. -/
  placesOnly : Bool := false

namespace Scan

/-- Takes a parameter with a value that is complete. -/
def take (s : Scan) (p : Parameter) (value : String) : Except Error Scan :=
  if (s.given.lookup p.name).isSome then .error (.repeatedOption p.shown)
  else do
    p.validate value
    return { s with given := (p.name, value) :: s.given }

/-- Looks at the parameter read last. -/
def settle (s : Scan) : Except Error Scan :=
  match s.pending with
  | none => .ok s
  | some (p, none) => .error (.missingValue p.shown)
  | some (p, some value) => { s with pending := none }.take p value

/-- Takes a flag. -/
def takeFlag (s : Scan) (p : Parameter) : Except Error Scan := do
  let s ← s.settle
  if p.name == helpFlag.name then throw .helpRequested
  s.take p "true"

/-- Takes an option whose value is attached to it, or comes next. -/
def takeOption (s : Scan) (p : Parameter) (attached : Option String) : Except Error Scan := do
  let s ← s.settle
  match attached with
  | some value => s.take p value
  | none => return { s with pending := some (p, none) }

/-- Takes an argument by its place. -/
def takePlace (s : Scan) (argument : String) : Except Error Scan :=
  match s.places with
  | [] => .error (.unknownArgument argument)
  | p :: places => do
    let s ← s.settle
    return { s with pending := some (p, some argument), places }

/-- Takes an option by its name, written behind two dashes. -/
def takeNamed (options : List Parameter) (s : Scan) (text : List Char) : Except Error Scan :=
  let name := String.ofList (text.takeWhile (· != '='))
  let attached : Option String := match text.dropWhile (· != '=') with
    | _ :: value => some (String.ofList value)
    | [] => none
  match options.find? (·.name == name), attached with
  | none, _ => .error (.unknownArgument ("--" ++ name))
  | some p, attached =>
    match p.form, attached with
    | .flag, some value => .error (.unexpectedValue value p.shown)
    | .flag, none => s.takeFlag p
    | _, attached => s.takeOption p attached

/-- Takes options by their letters, written behind one dash. -/
def takeLetters (options : List Parameter) (s : Scan) : List Char → Except Error Scan
  | [] => .ok s
  | c :: rest =>
    match options.find? (·.letter == some c) with
    | none => .error (.unknownArgument (String.ofList ['-', c]))
    | some p =>
      match p.form with
      | .flag => do takeLetters options (← s.takeFlag p) rest
      | _ =>
        match rest with
        | [] => s.takeOption p none
        | '=' :: value => s.takeOption p (some (String.ofList value))
        | value => s.takeOption p (some (String.ofList value))

/-- Whether the option read last waits for a value that may be any argument. -/
def wantsAny (s : Scan) : Bool :=
  match s.pending with
  | some (p, none) => p.form == .option true
  | _ => false

/-- Takes an argument that is neither an option nor `--`. -/
def takeValue (s : Scan) (argument : String) : Except Error Scan :=
  match s.pending with
  | some (p, none) => .ok { s with pending := some (p, some argument) }
  | _ => s.takePlace argument

/-- Takes an argument. -/
def step (options : List Parameter) (s : Scan) (argument : String) : Except Error Scan :=
  if s.placesOnly then s.takePlace argument
  else if s.wantsAny then s.takeValue argument
  else
    match argument.toList with
    | ['-', '-'] => .ok { s with placesOnly := true }
    | '-' :: '-' :: text => takeNamed options s text
    | ['-'] => s.takeValue argument
    | '-' :: letters => takeLetters options s letters
    | _ => s.takeValue argument

end Scan

/-- Names and values of what is given, if every parameter that is required is there. -/
def scan (parameters : List Parameter) (arguments : List String) :
    Except Error (List (String × String)) := do
  let places := parameters.filter (·.form == .byPlace)
  let options := helpFlag :: parameters.filter (·.form != .byPlace)
  let s ← arguments.foldlM (Scan.step options) { places : Scan }
  let s ← s.settle
  if parameters.any fun p => p.required && (s.given.lookup p.name).isNone then
    throw .missingArguments
  return s.given

end ReleaseListing.CommandLine
