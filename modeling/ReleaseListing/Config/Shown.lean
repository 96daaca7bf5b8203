import ReleaseListing.Config
import ReleaseListing.Text.Quoted
import ReleaseListing.Text.Visible

/-!
# Configurations for the eye

The form in which a log line shows a configuration: every field by its name.
-/

namespace ReleaseListing.Config

/-- A text between quotes. -/
def shownText (s : String) : List Char := Text.quoted Text.escapeInvisible s

/-- A text that may be absent. -/
def shownOption : Option String → List Char
  | some s => "Some(".toList ++ shownText s ++ [')']
  | none => "None".toList

/-- A record: its name, and its fields between braces. -/
def shownRecord (name : String) (fields : List (String × List Char)) : List Char :=
  name.toList ++ " \x7b ".toList ++
    ", ".toList.intercalate (fields.map fun (field, value) => field.toList ++ ": ".toList ++ value) ++
    " \x7d".toList

/-- Items between brackets. -/
def shownList (items : List (List Char)) : List Char :=
  '[' :: ", ".toList.intercalate items ++ [']']

def shownStrategy : Strategy → List Char
  | .pathTail => "PathTail".toList
  | .label => "Label".toList

def shownStyle : Style → List Char
  | .call => "Call".toList
  | .json => "Json".toList

def shownJob (job : Job) : List Char :=
  shownRecord "ListingJob"
    [("label", shownOption job.label), ("pattern", shownText job.pattern),
     ("prefix", shownText job.start), ("strategy", shownStrategy job.strategy),
     ("format", shownStyle job.style), ("base_url", shownOption job.baseUrl),
     ("assign", shownOption job.assign), ("docstring", shownOption job.docstring),
     ("remove_rows", (if job.removesRows then "true" else "false").toList)]

def shownPreset (preset : Preset) : List Char :=
  shownRecord "Preset"
    [("name", shownText preset.name), ("jobs", shownList (preset.jobs.map shownJob))]

/-- The configuration with all its fields. -/
def shown (config : Config) : String :=
  String.ofList <| shownRecord "RellistConfig"
    [("record", shownText config.record), ("separator", shownText config.separator),
     ("row_levels", (toString config.rowLevels).toList),
     ("presets", shownList (config.presets.map shownPreset))]

end ReleaseListing.Config
