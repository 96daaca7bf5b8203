import ReleaseListing.Text.Quoted
import ReleaseListing.Text.Visible

/-!
# Log lines

What happens in a run is told in events. An event becomes a line: its level, the part of the
program that it comes from, a message and named values.
-/

namespace ReleaseListing.Log

/-- How much an event matters. -/
inductive Level where
  | error
  | warn
  | info
  | debug
  | trace
  deriving DecidableEq, Repr

namespace Level

/-- The word for a level, five characters wide. -/
def text : Level → String
  | .error => "ERROR"
  | .warn => " WARN"
  | .info => " INFO"
  | .debug => "DEBUG"
  | .trace => "TRACE"

/-- The more a level matters, the lower its rank. -/
def rank : Level → Nat
  | .error => 1
  | .warn => 2
  | .info => 3
  | .debug => 4
  | .trace => 5

end Level

/-- Something that happened. -/
structure Event where
  level : Level
  /-- The part of the program that tells it. -/
  target : String
  message : String
  /-- Names and values, as they are written. -/
  fields : List (String × String) := []
  deriving DecidableEq, Repr

/-- A text as the value of a field, between quotes. -/
def quotedField (text : String) : String := String.ofList (Text.quoted Text.escapeInvisible text)

/-- One character of a message. Characters that steer terminals are written by their numbers. -/
def escapeSteering (c : Char) : List Char :=
  let n := c.toNat
  if [0x07, 0x08, 0x0C, 0x1B, 0x7F].contains n then "\\x".toList ++ Text.hexPadded 2 n
  else if 0x80 ≤ n && n ≤ 0x9F then "\\u\x7b".toList ++ Text.hex n ++ ['\x7d']
  else [c]

/-- The line of an event, without the time. -/
def Event.line (e : Event) : String :=
  let fields := e.fields.map fun (name, value) => " " ++ name ++ "=" ++ value
  e.level.text ++ " " ++ e.target ++ ": " ++
    String.ofList (e.message.toList.flatMap escapeSteering) ++ String.join fields

end ReleaseListing.Log
