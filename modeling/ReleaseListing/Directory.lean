import ReleaseListing.Host
import ReleaseListing.Text.Split
import ReleaseListing.Text.Utf8

/-!
# A directory in memory

A host that keeps its files in memory. A path is relative to the directory, or starts with the
directory's own name; there is nothing outside of it.
-/

namespace ReleaseListing

/-- The names that lead to a file from the top of a directory. -/
abbrev Location := List String

/-- The files and directories below the top. -/
structure Directory where
  /-- What is at each place: the bytes of a file, or nothing for a directory. -/
  entries : List (Location × Option (List UInt8)) := []
  deriving DecidableEq, Repr

namespace Directory

/-- What is at a place. -/
inductive Kind where
  | missing
  | directory
  | file (bytes : List UInt8)
  deriving DecidableEq, Repr

/-- What is at a place. The top is a directory. -/
def kindAt (d : Directory) (l : Location) : Kind :=
  if l.isEmpty then .directory
  else
    match d.entries.lookup l with
    | none => .missing
    | some none => .directory
    | some (some bytes) => .file bytes

/-- Puts something at a place, for what is there. -/
def set (d : Directory) (l : Location) (entry : Option (List UInt8)) : Directory :=
  if (d.entries.lookup l).isSome then
    { entries := d.entries.map fun e => if e.1 == l then (l, entry) else e }
  else { entries := d.entries ++ [(l, entry)] }

/-- Goes from one place to the next. -/
def enter (d : Directory) (l : Location) (name : String) : Except HostError Location :=
  match d.kindAt l with
  | .missing => .error .notFound
  | .file _ => .error .notDirectory
  | .directory =>
    if name == "" || name == "." then .ok l
    else if name == ".." then .ok l.dropLast
    else if 255 < name.utf8ByteSize then .error .nameTooLong
    else .ok (l ++ [name])

/-- The names in a path, from the directory called `name` on; none if the path leads elsewhere. -/
def names? (name path : String) : Option (List String) :=
  let parts (cs : List Char) : List String := (cs.splitOnP (· == '/')).map String.ofList
  match Text.dropStart? name.toList path.toList with
  | some [] => some []
  | some ('/' :: rest) => some (parts rest)
  | _ => if path.toList.head? == some '/' then none else some (parts path.toList)

/-- The place that a path leads to. -/
def locate (name path : String) (d : Directory) : Except HostError Location :=
  match names? name path with
  | none => .error .notFound
  | some names => names.foldlM d.enter []

/-- The bytes of a file. -/
def read (name path : String) (d : Directory) : Except HostError (List UInt8) := do
  match d.kindAt (← d.locate name path) with
  | .missing => throw .notFound
  | .directory => throw .isDirectory
  | .file bytes => return bytes

/-- The place of a file that may come into being. A path that ends in a slash is no file's. -/
def locateFile (name path : String) (d : Directory) : Except HostError Location :=
  match path.toList.reverse.dropWhile (· == '/') with
  | [] => d.locate name path
  | last :: before =>
    let trimmed := String.ofList (last :: before).reverse
    match d.locate name trimmed with
    | .error e => .error e
    | .ok l =>
      if trimmed != path && d.kindAt l == .missing then .error .isDirectory
      else d.locate name path

/-- Gives a file the bytes that `f` makes of those it has. -/
def change (name path : String) (f : List UInt8 → List UInt8) (d : Directory) :
    Except HostError Directory := do
  let l ← d.locateFile name path
  match d.kindAt l with
  | .missing => return d.set l (some (f []))
  | .directory => throw .isDirectory
  | .file bytes => return d.set l (some (f bytes))

/-- Makes the directories on the way to a place, those below the place `done`. -/
def makeFrom (d : Directory) (done : Location) : List String → Except HostError Directory
  | [] => .ok d
  | name :: rest => do
    let l ← d.enter done name
    match d.kindAt l with
    | .missing => makeFrom (d.set l none) l rest
    | .directory => makeFrom d l rest
    | .file _ => throw (if rest.isEmpty then .alreadyThere else .notDirectory)

/-- Makes a directory, and those that it lies in. -/
def makeDirectories (name path : String) (d : Directory) : Except HostError Directory :=
  match names? name path with
  | none => .error .notFound
  | some names => d.makeFrom [] names

/-- Whether there is something at the end of a path. -/
def isThere (name path : String) (d : Directory) : Bool :=
  match d.locate name path with
  | .ok l => d.kindAt l != .missing
  | .error _ => false

end Directory

/-- A run in a directory in memory. -/
structure Scene where
  directory : Directory := {}
  input : List UInt8 := []
  /-- What has been written, latest first. -/
  output : List String := []
  complaints : List String := []

namespace Scene

/-- Does a change to the directory, or tells why not. -/
def change (f : Directory → Except HostError Directory) : StateM Scene (Except HostError Unit) := do
  let s ← get
  match f s.directory with
  | .ok directory =>
    set { s with directory }
    return .ok ()
  | .error e => return .error e

/-- The host of runs in a directory in memory, which is called `name`. The time stands still. -/
def host (name : String) : Host (StateM Scene) where
  read path := return (← get).directory.read name path
  write path bytes := change (·.change name path fun _ => bytes)
  append path bytes := change (·.change name path (· ++ bytes))
  makeDirectories path := change (·.makeDirectories name path)
  isThere path := return (← get).directory.isThere name path
  input := return .ok (← get).input
  output text := modify fun s => { s with output := text :: s.output }
  complain text := modify fun s => { s with complaints := text :: s.complaints }
  time := return "2000-01-01T00:00:00.000000Z"

end Scene

end ReleaseListing
