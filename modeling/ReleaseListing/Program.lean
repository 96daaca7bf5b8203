import ReleaseListing.CommandLine
import ReleaseListing.Config.Shown
import ReleaseListing.Config.Text
import ReleaseListing.Host
import ReleaseListing.Job.Report
import ReleaseListing.Log.Filter
import ReleaseListing.Page.Tree
import ReleaseListing.Text.Utf8

/-!
# The program

A run opens its log, reads its arguments and its configuration, and does what it is asked for. A
log that cannot be opened goes where complaints go.
-/

namespace ReleaseListing

/-- How a run ends before its time. -/
inductive Ending where
  /-- The arguments are not understood, or not to be. -/
  | misused (e : CommandLine.Error)
  /-- Something cannot be done: what, and why, outermost first. -/
  | failed (chain : List String)
  /-- The page has lost the element that everything stands in. -/
  | crashed
  deriving DecidableEq, Repr

namespace Ending

/-- What a run gives back to the one who started it. -/
def status : Ending → UInt8
  | .misused .helpRequested => 0
  | .misused _ => 2
  | .failed _ => 1
  | .crashed => 101

/-- A host's error, and what it kept from being done. -/
def ofHost (doing : String) (e : HostError) : Ending := .failed [doing, e.message]

/-- A failure and its causes. -/
def ofFailure (f : Failure) : Ending := .failed (f.message :: f.causes)

/-- Why a job does not come to its end. -/
def ofStop : Job.Stop → Ending
  | .failure f => ofFailure f
  | .rootless => .crashed

end Ending

/-- A run: where it runs, and where its log goes. -/
structure Run (m : Type → Type) where
  host : Host m
  environment : Environment
  filter : Log.Filter
  /-- The file of the log, if it has been opened. -/
  logFile : Option String

/-- The part of a run that may end before its time. -/
abbrev RunM (m : Type → Type) := ExceptT Ending m

namespace Run

variable {m : Type → Type} [Monad m]

/-! ## Log -/

/-- The bytes of a text. -/
def bytes (text : String) : List UInt8 := Text.Utf8.encode text.toList

/-- Tells an event. -/
def tell (r : Run m) (e : Log.Event) : m Unit := do
  if r.filter.admits e then
    let line := (← r.host.time) ++ " " ++ e.line ++ "\n"
    match r.logFile with
    | some path => discard (r.host.append path (bytes line))
    | none => r.host.complain line

/-- The directory of the log. -/
def logDirectory (e : Environment) : String := e.stateHome ++ "/rellist/rellist"

/-- The file of the log. -/
def logPath (e : Environment) : String := logDirectory e ++ "/rellist.log"

/-- Opens the log, or says why it goes where complaints go. -/
def start (host : Host m) (environment : Environment) : m (Run m) := do
  let filter := Log.Filter.ofSetting environment.logFilter
  let directory := logDirectory environment
  let path := logPath environment
  let withoutFile (doing : String) (e : HostError) : m (Run m) := do
    let r : Run m := { host, environment, filter, logFile := none }
    r.tell {
      level := .warn
      target := "rellist"
      message := "file logging unavailable, using stderr: " ++ doing ++ ": " ++ e.message }
    return r
  match ← host.makeDirectories directory with
  | .error e => withoutFile ("create log dir: " ++ directory) e
  | .ok () =>
    match ← host.append path [] with
    | .error e => withoutFile ("open log file: " ++ path) e
    | .ok () =>
      let r : Run m := { host, environment, filter, logFile := some path }
      r.tell {
        level := .info
        target := "rellist_core::logging"
        message := "rellist logging initialized at " ++ path }
      return r

/-! ## Configuration -/

/-- Gives the result of a host, or ends the run. -/
def orEnd {α : Type} (ending : HostError → Ending) (action : m (Except HostError α)) :
    RunM m α := do
  match ← (action : m (Except HostError α)) with
  | .ok a => return a
  | .error e => throw (ending e)

/-- The directory of the configuration. -/
def configDirectory (e : Environment) : String := e.configHome ++ "/rellist"

/-- The file of the configuration, whose directory is made if it is not there. -/
def configPath (r : Run m) : RunM m String := do
  let directory := configDirectory r.environment
  orEnd (fun e => .failed [e.message]) (r.host.makeDirectories directory)
  return directory ++ "/config.toml"

/-- What is said of a text that is no configuration. -/
def faultText : Config.Fault → String
  | .malformed => "TOML parse error"
  | .mismatch m => "TOML parse error\n" ++ m.message

/-- Reads the configuration, from a new file if there is none. -/
def config (r : Run m) : RunM m Config := do
  let path ← r.configPath
  if ← r.host.isThere path then
    let data ← orEnd (.ofHost ("read config: " ++ path)) (r.host.read path)
    match Text.Utf8.decode? data with
    | none =>
      throw (.failed ["read config: " ++ path, "stream did not contain valid UTF-8"])
    | some text =>
      match Config.parse (String.ofList text) with
      | .ok config => return config
      | .error fault => throw (.failed ["parse config: " ++ path, faultText fault])
  else
    orEnd (.ofHost ("write config: " ++ path)) (r.host.write path (bytes Config.standard.render))
    r.tell {
      level := .info
      target := "rellist_core::config"
      message := "created default config at " ++ path }
    return .standard

/-! ## Pages -/

/-- Whether a path stands for the input of the program. -/
def isInput (path : String) : Bool :=
  path.toList.head? == some '-' &&
    (path.toList.splitOnP (· == '/')).filter (fun p => p != [] && p != ['.']) == [['-']]

/-- Reads a page. -/
def readPage (r : Run m) (path : String) : RunM m TreePage := do
  let doing := if isInput path then "read page from stdin" else "read page: " ++ path
  let data ← orEnd (.ofHost doing) (if isInput path then r.host.input else r.host.read path)
  match Text.Utf8.decode? data with
  | none => throw (.failed [doing, "stream did not contain valid UTF-8"])
  | some text =>
    r.tell {
      level := .debug
      target := "rellist::cli::commands::input"
      message := "parsing page from " ++ path
      fields := [("bytes", toString data.length)] }
    return .ofSource (String.ofList text)

/-- Writes a page, if there is a place for it. -/
def writePage (r : Run m) (page : TreePage) : Option String → RunM m Unit
  | none => return ()
  | some path => do
    orEnd (.ofHost ("write rewritten page: " ++ path)) (r.host.write path (bytes page.render))
    r.tell {
      level := .info
      target := "rellist::cli::commands::input"
      message := "wrote rewritten page to " ++ path }

/-! ## Commands -/

/-- Writes a line. -/
def putLine (r : Run m) (line : String) : RunM m Unit := r.host.output (line ++ "\n")

/-- Runs a job on a page, and tells of it. -/
def runJob (r : Run m) (job : Job) (settings : Settings) (page : TreePage) :
    RunM m (Outcome × TreePage) := do
  match job.run settings page with
  | .error stop => throw (.ofStop stop)
  | .ok (outcome, rest) =>
    (job.report settings page outcome).forM fun e => r.tell e
    return (outcome, rest)

end Run

namespace ListRequest

/-- The job of a single listing. -/
def job (request : ListRequest) : Job where
  pattern := request.pattern
  start := request.start
  strategy := request.strategy
  style := request.style
  baseUrl := request.baseUrl
  assign := request.assign
  docstring := request.docstring
  removesRows := request.removesRows

/-- The settings of a single listing, from the configuration where the request has none. -/
def settings (request : ListRequest) (config : Config) : Settings where
  record := request.record.getD config.record
  separator := request.separator.getD config.separator
  rowLevels := request.levels.getD config.rowLevels

end ListRequest

namespace Run

variable {m : Type → Type} [Monad m]

/-- Writes a single listing. -/
def list (r : Run m) (config : Config) (request : ListRequest) : RunM m Unit := do
  let page ← r.readPage request.input
  let (outcome, page) ← r.runJob request.job (request.settings config) page
  r.putLine outcome.listing
  if outcome.removed != 0 then
    r.tell {
      level := .info
      target := "rellist::cli::commands::list"
      message := "removed " ++ toString outcome.removed ++ " row(s)" }
  r.writePage page request.remainder

/-- Runs the jobs of a preset one after the other on the same page. Gives the page, and the number
of rows removed. -/
def runJobs (r : Run m) (settings : Settings) (page : TreePage) (removed : Nat) :
    List Job → RunM m (TreePage × Nat)
  | [] => return (page, removed)
  | job :: jobs => do
    let (outcome, page) ← r.runJob job settings page
    match job.label with
    | some label => r.putLine ("# " ++ label ++ ":")
    | none => pure ()
    r.putLine outcome.listing
    runJobs r settings page (removed + outcome.removed) jobs

/-- Writes the listings of a preset. -/
def preset (r : Run m) (config : Config) (name input : String) (remainder : Option String) :
    RunM m Unit := do
  match config.preset name with
  | .error f => throw (.ofFailure f)
  | .ok preset =>
    let page ← r.readPage input
    let (page, removed) ← r.runJobs config.settings page 0 preset.jobs
    r.tell {
      level := .info
      target := "rellist::cli::commands::preset"
      message := "preset finished"
      fields :=
        [("preset", Log.quotedField name), ("jobs", toString preset.jobs.length),
         ("removed", toString removed)] }
    r.writePage page remainder

/-- A text filled with blanks to a width. -/
def padded (width : Nat) (text : String) : String :=
  text ++ String.ofList (List.replicate (width - text.length) ' ')

/-- A line of the table of presets. -/
def tableLine (name jobs patterns : String) : String :=
  padded 16 name ++ " " ++ padded 6 jobs ++ " " ++ patterns

/-- Writes the table of presets. -/
def presets (r : Run m) (config : Config) : RunM m Unit := do
  if config.presets.isEmpty then r.putLine "No presets configured."
  else
    r.putLine (tableLine "NAME" "JOBS" "PATTERNS")
    config.presets.forM fun p =>
      r.putLine
        (tableLine p.name (toString p.jobs.length) (" ".intercalate (p.jobs.map (·.pattern))))

/-- Does what is asked for. -/
def dispatch (r : Run m) (command : Command) : RunM m Unit := do
  match command with
  | .completions shell => r.putLine (r.environment.texts.completionScript shell)
  | command =>
    let config ← r.config
    r.tell {
      level := .debug
      target := "rellist::cli"
      message := "loaded config: " ++ config.shown }
    match command with
    | .list request => r.list config request
    | .preset name input remainder => r.preset config name input remainder
    | .presets => r.presets config
    | .configPath => r.putLine (← r.configPath)
    | .completions _ => return ()

/-- Says why a run ends before its time. -/
def explain (r : Run m) : Ending → m Unit
  | .misused .helpRequested => r.host.output (r.environment.texts.help r.environment.arguments ++ "\n")
  | .misused e => r.host.complain (e.message ++ "\n")
  | .failed chain => r.host.complain ("rellist error: " ++ ": ".intercalate chain ++ "\n")
  | .crashed => r.host.complain (r.environment.texts.crash ++ "\n")

/-- Does what the arguments ask for. -/
def proceed (r : Run m) : RunM m Unit := do
  match CommandLine.parse r.environment.arguments with
  | .error e => throw (.misused e)
  | .ok command => r.dispatch command

end Run

/-- A run from its start to its end, and what it gives back. -/
def runProgram {m : Type → Type} [Monad m] (host : Host m) (environment : Environment) :
    m UInt8 := do
  let r ← Run.start host environment
  match ← r.proceed.run with
  | .ok () => return 0
  | .error ending =>
    r.explain ending
    return ending.status

end ReleaseListing
