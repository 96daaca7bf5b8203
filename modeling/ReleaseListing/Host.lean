import ReleaseListing.CommandLine

/-!
# Where the program runs

The program reads and writes files, takes its input and gives its output through a host. A host
names files by their paths.
-/

namespace ReleaseListing

/-- Why a host does not do what is asked. -/
inductive HostError where
  | notFound
  | alreadyThere
  | notDirectory
  | isDirectory
  | nameTooLong
  | other (message : String)
  deriving DecidableEq, Repr

/-- The error in words. -/
def HostError.message : HostError → String
  | .notFound => "No such file or directory (os error 2)"
  | .alreadyThere => "File exists (os error 17)"
  | .notDirectory => "Not a directory (os error 20)"
  | .isDirectory => "Is a directory (os error 21)"
  | .nameTooLong => "File name too long (os error 36)"
  | .other message => message

/-- What the program asks of the place where it runs. -/
structure Host (m : Type → Type) where
  read : String → m (Except HostError (List UInt8))
  write : String → List UInt8 → m (Except HostError Unit)
  /-- Adds to the end of a file, which comes into being if it is not there. -/
  append : String → List UInt8 → m (Except HostError Unit)
  /-- Makes a directory, and those that it lies in. -/
  makeDirectories : String → m (Except HostError Unit)
  isThere : String → m Bool
  input : m (Except HostError (List UInt8))
  output : String → m Unit
  complain : String → m Unit
  /-- The time, as log lines show it. -/
  time : m String

/-- Texts that are shown as they come: other programs make them. -/
structure Texts where
  /-- The script that makes a shell complete command lines, without its last line end. -/
  completionScript : Shell → String := fun _ => ""
  /-- What those see who ask for help with the given arguments. -/
  help : List String → String := fun _ => ""
  /-- What is complained of when the page has lost its root. -/
  crash : String := ""

/-- What a run is told from outside. -/
structure Environment where
  arguments : List String
  /-- The directory for configurations. -/
  configHome : String
  /-- The directory for what a program leaves behind between its runs. -/
  stateHome : String
  /-- Which events the log holds. -/
  logFilter : Option String := none
  texts : Texts := {}

end ReleaseListing
