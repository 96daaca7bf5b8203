import ReleaseListing.Log.Time
import ReleaseListing.Program
import Std.Time.DateTime.Timestamp

/-!
# The program on a real machine
-/

namespace ReleaseListing.Machine

/-- A failure of the machine as a host's error. Some failures carry their number negated. -/
def errorOf (e : IO.Error) : HostError :=
  let coded (code : UInt32) (message : String) : HostError :=
    match if code < 0x80000000 then code else 0 - code with
    | 2 => .notFound
    | 17 => .alreadyThere
    | 20 => .notDirectory
    | 21 => .isDirectory
    | 36 => .nameTooLong
    | code => .other (message ++ " (os error " ++ toString code.toNat ++ ")")
  match e with
  | .noFileOrDirectory _ code message => coded code message
  | .inappropriateType _ code message => coded code message
  | .alreadyExists _ code message => coded code message
  | .invalidArgument _ code message => coded code message
  | .permissionDenied _ code message => coded code message
  | .resourceExhausted _ code message => coded code message
  | .noSuchThing _ code message => coded code message
  | .resourceBusy code message => coded code message
  | .otherError code message => coded code message
  | e => .other (toString e)

/-- Does something, or tells why it fails. -/
def attempt {α : Type} (action : IO α) : IO (Except HostError α) := do
  try return .ok (← action) catch e => return .error (errorOf e)

/-- All bytes that a stream gives. -/
partial def readAll (stream : IO.FS.Stream) (done : ByteArray) : IO ByteArray := do
  let more ← stream.read 65536
  if more.isEmpty then return done else readAll stream (done ++ more)

/-- Whether there is something at the end of a path. -/
def isThere (path : String) : IO Bool := do
  match ← attempt (IO.FS.readBinFile path) with
  | .error .notFound => return false
  | .error .notDirectory => return false
  | _ => return true

/-- The time now. -/
def time : IO String := do
  let now ← Std.Time.Timestamp.now
  return Log.timeText now.val.second.toInt.toNat (now.val.nano.val / 1000).toNat

/-- The machine as a host. -/
def host : Host IO where
  read path := attempt do return (← IO.FS.readBinFile path).toList
  write path bytes := attempt (IO.FS.writeBinFile path ⟨bytes.toArray⟩)
  append path bytes := attempt do
    let file ← IO.FS.Handle.mk path .append
    file.write ⟨bytes.toArray⟩
  makeDirectories path := attempt (IO.FS.createDirAll path)
  isThere path := isThere path
  input := attempt do return (← readAll (← IO.getStdin) ⟨#[]⟩).toList
  output text := do (← IO.getStdout).putStr text
  complain text := do (← IO.getStderr).putStr text
  time := time

/-- The directory that a variable names by its whole path, or else the one that is usual below the
home directory. -/
def directory (name usual : String) : IO String := do
  match (← IO.getEnv name).filter (·.startsWith "/") with
  | some path => return path
  | none => return ((← IO.getEnv "HOME").getD "") ++ usual

/-- The words that can follow the name of the program. -/
def commandWords : List String :=
  ["list", "preset", "presets", "config-path", "completions", "help"]

/-- A script that makes a shell complete the program's subcommands. -/
def completionScript (shell : Shell) : String :=
  let words := " ".intercalate commandWords
  match shell with
  | .bash => "complete -W '" ++ words ++ "' rellist"
  | .zsh => "compctl -k '(" ++ words ++ ")' rellist"
  | .fish => "complete -c rellist -f -a '" ++ words ++ "'"
  | .elvish => "set edit:completion:arg-completer[rellist] = \x7b|@a| put " ++ words ++ " \x7d"
  | .powershell =>
    "Register-ArgumentCompleter -Native -CommandName rellist -ScriptBlock \x7b '" ++ words ++
      "'.Split(' ') \x7d"

/-- Short texts, the same help for all arguments. -/
def texts : Texts where
  completionScript := completionScript
  help _ := "rellist: list release assets from a saved release page\n\n" ++
    "Usage: rellist <COMMAND>\n\nCommands: " ++ ", ".intercalate commandWords
  crash := "rellist: the page has lost its root element"

/-- What the run is told from outside. -/
def environment (arguments : List String) : IO Environment := do
  return {
    arguments
    configHome := ← directory "XDG_CONFIG_HOME" "/.config"
    stateHome := ← directory "XDG_STATE_HOME" "/.local/state"
    logFilter := ← IO.getEnv "RUST_LOG"
    texts }

end ReleaseListing.Machine

open ReleaseListing in
/-- Runs the program. -/
def main (arguments : List String) : IO UInt32 := do
  let status ← runProgram Machine.host (← Machine.environment arguments)
  return status.toUInt32
