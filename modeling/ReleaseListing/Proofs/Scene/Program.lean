import ReleaseListing.Proofs.Scene.Play

/-!
# Runs of the program in a directory in memory

What it comes to in a directory in memory to make the directory of the configuration
(`play_configPath`), to read the configuration from its file or to make that file (`play_configAt`),
and to run the program from its start to its end (`play_runProgram`).
-/

namespace ReleaseListing

/-- The configuration that a file gives, or why it gives none. -/
def Directory.config (d : Directory) (name path : String) : Except Ending Config := do
  let data ← (d.read name path).mapError (.ofHost ("read config: " ++ path))
  match Text.Utf8.decode? data with
  | none => throw (.failed ["read config: " ++ path, "stream did not contain valid UTF-8"])
  | some text =>
    match Config.parse (String.ofList text) with
    | .ok config => return config
    | .error fault => throw (.failed ["parse config: " ++ path, Run.faultText fault])

namespace Run

/-! ## The configuration -/

/-- The path of the file of the configuration. -/
def configFile (e : Environment) : String := configDirectory e ++ "/config.toml"

theorem configFile_eq (e : Environment) :
    configFile e = configDirectory e ++ "/" ++ "config.toml" := by
  rw [String.append_assoc]
  rfl

theorem logPath_eq (e : Environment) : logPath e = logDirectory e ++ "/" ++ "rellist.log" := by
  rw [String.append_assoc]
  rfl

theorem configDirectory_ne_empty (e : Environment) : configDirectory e ≠ "" := by
  intro h
  simpa [configDirectory] using congrArg String.toList h

theorem logDirectory_ne_empty (e : Environment) : logDirectory e ≠ "" := by
  intro h
  simpa [logDirectory] using congrArg String.toList h

section

variable {m : Type → Type} [Monad m]

/-- Reads the configuration from the file at the path, which is made if it is not there. -/
def configAt (r : Run m) (path : String) : RunM m Config := do
  if ← r.host.isThere path then
    let data ← orEnd (.ofHost ("read config: " ++ path)) (r.host.read path)
    match Text.Utf8.decode? data with
    | none =>
      throw (.failed ["read config: " ++ path, "stream did not contain valid UTF-8"])
    | some text =>
      match Config.parse (String.ofList text) with
      | .ok config => return config
      | .error fault => throw (.failed ["parse config: " ++ path, faultText fault])
  else
    orEnd (.ofHost ("write config: " ++ path)) (r.host.write path (bytes Config.standard.render))
    r.tell {
      level := .info
      target := "rellist_core::config"
      message := "created default config at " ++ path }
    return .standard

theorem config_eq (r : Run m) : r.config = r.configPath >>= r.configAt := rfl

end

variable {r : Run (StateM Scene)} {name : String} {environment : Environment}

theorem play_configPath (hhost : r.host = Scene.host name) (s : Scene) :
    s.play r.configPath.run =
      match s.directory.makeDirectories name (configDirectory r.environment) with
      | .error e => (.error (.failed [e.message]), s)
      | .ok directory => (.ok (configFile r.environment), { s with directory }) := by
  unfold configPath
  rw [play_run_bind, play_orEnd, hhost, Scene.play_makeDirectories]
  cases s.directory.makeDirectories name (configDirectory r.environment) <;> rfl

/-- A configuration that is there is read, and nothing changes; otherwise its file is made. -/
theorem play_configAt (hhost : r.host = Scene.host name) (path : String) :
    ∃ event : Log.Event, ∀ s : Scene, s.play (r.configAt path).run =
      if s.directory.isThere name path then (s.directory.config name path, s)
      else
        match s.directory.change name path fun _ => bytes Config.standard.render with
        | .error e => (.error (.ofHost ("write config: " ++ path) e), s)
        | .ok directory => (.ok .standard, (Scene.play { s with directory } (r.tell event)).2) := by
  refine ⟨{
      level := .info
      target := "rellist_core::config"
      message := "created default config at " ++ path }, fun s => ?_⟩
  have hthere : s.play (r.host.isThere path) = (s.directory.isThere name path, s) := by
    rw [hhost]
    rfl
  unfold configAt
  rw [play_run_bind, play_lift, hthere]
  cases s.directory.isThere name path with
  | true =>
    rw [if_pos rfl]
    dsimp only
    rw [if_pos rfl, play_run_bind, play_orEnd, hhost, Scene.play_read]
    unfold Directory.config
    cases s.directory.read name path with
    | error e => rfl
    | ok data =>
      dsimp only [Except.mapError, bind, Except.bind]
      cases Text.Utf8.decode? data with
      | none => rfl
      | some text =>
        dsimp only
        cases Config.parse (String.ofList text) <;> rfl
  | false =>
    rw [if_neg Bool.false_ne_true]
    dsimp only
    rw [if_neg Bool.false_ne_true, play_run_bind, play_orEnd, hhost, Scene.play_write]
    cases s.directory.change name path fun _ => bytes Config.standard.render <;> rfl

/-! ## Whole runs -/

/-- The run that is started, and where its log goes. -/
def started (name : String) (environment : Environment) (logFile : Option String) :
    Run (StateM Scene) :=
  { host := Scene.host name, environment
    filter := Log.Filter.ofSetting environment.logFilter, logFile }

/-- The run is in the directory `name`, where it has been told `environment`, and its log goes to
its own file or to complaints. -/
structure RunsIn (r : Run (StateM Scene)) (name : String) (environment : Environment) : Prop where
  host : r.host = Scene.host name
  told : r.environment = environment
  log : ∀ path, r.logFile = some path → path = logPath environment

theorem runsIn_started {logFile : Option String}
    (h : ∀ path, logFile = some path → path = logPath environment) :
    (started name environment logFile).RunsIn name environment := ⟨rfl, rfl, h⟩

/-- A start makes the directory of the log and its file, and tells so; if that fails, it tells why. -/
theorem play_start (name : String) (environment : Environment) :
    ∃ (unmade unopened : HostError → Log.Event) (opened : Log.Event), ∀ s : Scene,
      let silent := started name environment none
      let logging := started name environment (some (logPath environment))
      s.play (start (Scene.host name) environment) =
        match s.directory.makeDirectories name (logDirectory environment) with
        | .error e => (silent, (s.play (silent.tell (unmade e))).2)
        | .ok made =>
          match made.change name (logPath environment) (· ++ []) with
          | .error e =>
            (silent, (Scene.play { s with directory := made } (silent.tell (unopened e))).2)
          | .ok file => (logging, (Scene.play { s with directory := file } (logging.tell opened)).2)
    := by
  refine ⟨fun e => {
      level := .warn
      target := "rellist"
      message := "file logging unavailable, using stderr: " ++
        ("create log dir: " ++ logDirectory environment) ++ ": " ++ e.message },
    fun e => {
      level := .warn
      target := "rellist"
      message := "file logging unavailable, using stderr: " ++
        ("open log file: " ++ logPath environment) ++ ": " ++ e.message },
    { level := .info
      target := "rellist_core::logging"
      message := "rellist logging initialized at " ++ logPath environment }, fun s => ?_⟩
  unfold start
  simp only [Scene.play_bind, Scene.play_makeDirectories]
  cases s.directory.makeDirectories name (logDirectory environment) with
  | error e => rfl
  | ok made =>
    simp only [Scene.play_bind, Scene.play_append]
    cases made.change name (logPath environment) (· ++ []) <;> rfl

theorem runsIn_start (s : Scene) (name : String) (environment : Environment) :
    (s.play (start (Scene.host name) environment)).1.RunsIn name environment := by
  obtain ⟨unmade, unopened, opened, heq⟩ := play_start name environment
  rw [heq]
  split
  · exact runsIn_started (by rintro path ⟨⟩)
  · split
    · exact runsIn_started (by rintro path ⟨⟩)
    · exact runsIn_started (by rintro path ⟨⟩; rfl)

/-- A run is started, goes on as far as it gets, and says why if it does not get to its end. -/
theorem play_runProgram (s : Scene) (name : String) (environment : Environment) :
    let started := s.play (start (Scene.host name) environment)
    let done := started.2.play started.1.proceed.run
    s.play (runProgram (Scene.host name) environment) =
      match done.1 with
      | .ok () => (0, done.2)
      | .error ending => (ending.status, (done.2.play (started.1.explain ending)).2) := by
  intro started done
  show (match done.1 with
    | .ok () => pure 0
    | .error ending => do
      started.1.explain ending
      return ending.status : StateM Scene UInt8).run done.2 = _
  cases done.1 <;> rfl

end Run

end ReleaseListing
