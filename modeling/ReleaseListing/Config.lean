import ReleaseListing.Job

/-!
# Configuration

What all listings have in common, and the presets: named lists of jobs.
-/

namespace ReleaseListing

/-- Jobs that run one after the other on the same page. -/
structure Preset where
  name : String
  jobs : List Job := []
  deriving DecidableEq, Repr

/-- The configuration. -/
structure Config where
  record : String
  separator : String
  rowLevels : Nat
  presets : List Preset := []
  deriving DecidableEq, Repr

namespace Config

/-- The first preset of the name. -/
def preset (config : Config) (name : String) : Except Failure Preset :=
  match config.presets.find? (·.name == name) with
  | some preset => .ok preset
  | none => .error (.unknownPreset name)

/-- What the jobs of a run take from the configuration. -/
def settings (config : Config) : Settings where
  record := config.record
  separator := config.separator
  rowLevels := config.rowLevels

/-- A job of the statistics preset. -/
def statisticsJob (label pattern : String) : Job :=
  { label := some label, pattern, start := "all2/" }

/-- The presets of the standard configuration. -/
def standardPresets : List Preset :=
  [{ name := "stats2"
     jobs :=
       [statisticsJob "AS stats" "--as_stats2.csv",
        statisticsJob "AS pair stats" "--as_pair_stats2.csv",
        statisticsJob "Route stats" "--route_stats2.csv",
        statisticsJob "Route first-hop stats" "--route_first_hop_stats2.csv"] },
   { name := "ribs"
     jobs :=
       [{ label := some "RIB dumps"
          pattern := "0000."
          start := "../data/ribs/"
          strategy := .label
          baseUrl := some "https://github.com"
          assign := some "ribs"
          docstring :=
            some ("From <https://github.com/SichangHe/internet_route_verification/releases/tag/" ++
              "raw-data>.")
          removesRows := true }] }]

/-- The configuration that is written when there is none. -/
def standard : Config :=
  let format : Format := {}
  { record := format.record
    separator := format.separator
    rowLevels := 2
    presets := standardPresets }

end Config

end ReleaseListing
