import ReleaseListing.Config.Shape
import ReleaseListing.Toml.Document

/-!
# Configurations as text
-/

namespace ReleaseListing.Config

open Toml (Value)

/-- Why a text is no configuration. -/
inductive Fault where
  /-- The text is no TOML. -/
  | malformed
  | mismatch (m : Mismatch)
  deriving Repr

/-- The configuration that a text gives. -/
def parse (text : String) : Except Fault Config :=
  match Toml.parse? text with
  | none => .error .malformed
  | some entries =>
    match ofTable entries with
    | .ok config => .ok config
    | .error m => .error (.mismatch m)

/-- A value on one line. Tables stand under headers of their own. -/
def valueText : Value → List Char
  | .string s => Text.quoted Text.escapeAll s
  | .integer n => (toString n).toList
  | .float text => text.toList
  | .boolean b => (if b then "true" else "false").toList
  | .datetime text => text.toList
  | .array _ => ['[', ']']
  | .table _ _ => ['\x7b', '\x7d']
  | .tables _ => ['[', ']']

/-- A line that gives a value. -/
def lineText (entry : String × Value) : List Char :=
  entry.1.toList ++ " = ".toList ++ valueText entry.2 ++ ['\n']

/-- Tables under their headers; a line says so if there are none. -/
def tablesText (path key : String) (bodies : List (List Char)) : List Char :=
  if bodies.isEmpty then lineText (key, .tables [])
  else bodies.flatMap fun body => "\n[[".toList ++ path.toList ++ "]]\n".toList ++ body

/-- A preset and its jobs. -/
def presetText (preset : Preset) : List Char :=
  lineText ("name", .string preset.name) ++
    tablesText "presets.jobs" "jobs" (preset.jobs.map fun job => (jobTable job).flatMap lineText)

/-- The text of a configuration. -/
def render (config : Config) : String :=
  String.ofList <|
    lineText ("record", .string config.record) ++
    lineText ("separator", .string config.separator) ++
    lineText ("row_levels", .integer config.rowLevels) ++
    tablesText "presets" "presets" (config.presets.map presetText)

end ReleaseListing.Config
