import ReleaseListing.Proofs.Command.Footprint

/-!
# What a run gives does not depend on its log

Two runs that differ in which events they tell are done side by side, in scenes that are alike but
for the file of the log (`Run.Apart`). Every part of the one gives what the same part of the other
gives and leaves the scenes alike (`Run.Alike`): telling something reaches the log and nothing else,
and nothing is read from the log. So the runs end alike (`logging_leaks_nothing`).
-/

namespace ReleaseListing

open Directory (SameBut SameResult places)

namespace Run

variable {α β : Type} {r r' : Run (StateM Scene)} {s t : Scene} {name path : String}
  {log : Set Location}

/-- Runs that tell different events. -/
structure Twins (r r' : Run (StateM Scene)) (name : String) (log : Set Location) : Prop where
  host : r.host = Scene.host name
  host' : r'.host = Scene.host name
  arguments : r'.environment.arguments = r.environment.arguments
  configHome : r'.environment.configHome = r.environment.configHome
  texts : r'.environment.texts = r.environment.texts
  logFile : r'.logFile = r.logFile
  place : ∀ path, r.logFile = some path → places name path ⊆ log

/-- The log of the run stands, and the scenes are alike but for the file of the log; and for
complaints, if the log goes there. -/
structure Apart (r : Run (StateM Scene)) (name : String) (log : Set Location) (s t : Scene) :
    Prop where
  stands : r.Stands name s.directory
  input : t.input = s.input
  output : t.output = s.output
  complaints : r.logFile.isSome → t.complaints = s.complaints
  directory : SameBut log s.directory t.directory

/-- In scenes that are alike the actions give the same and leave scenes that are alike. -/
def Alike (r : Run (StateM Scene)) (name : String) (log : Set Location)
    (action action' : StateM Scene α) : Prop :=
  ∀ s t : Scene, Apart r name log s t →
    (s.play action).1 = (t.play action').1 ∧ Apart r name log (s.play action).2 (t.play action').2

theorem Alike.pure (a : α) : Alike r name log (pure a) (pure a) := fun _ _ h => ⟨rfl, h⟩

theorem Alike.bind {action action' : StateM Scene α} {next next' : α → StateM Scene β}
    (h : Alike r name log action action') (hnext : ∀ a, Alike r name log (next a) (next' a)) :
    Alike r name log (action >>= next) (action' >>= next') := by
  intro s t hst
  obtain ⟨hresult, hleft⟩ := h s t hst
  rw [Scene.play_bind, Scene.play_bind, ← hresult]
  exact hnext _ _ _ hleft

theorem alike_run_bind {x x' : RunM (StateM Scene) α} {next next' : α → RunM (StateM Scene) β}
    (h : Alike r name log x.run x'.run)
    (hnext : ∀ a, Alike r name log (next a).run (next' a).run) :
    Alike r name log (x >>= next).run (x' >>= next').run := by
  intro s t hst
  obtain ⟨hresult, hleft⟩ := h s t hst
  rw [play_run_bind, play_run_bind, ← hresult]
  cases (s.play x.run).1 with
  | ok a => exact hnext a _ _ hleft
  | error ending => exact ⟨rfl, hleft⟩

theorem alike_lift {action action' : StateM Scene α} (h : Alike r name log action action') :
    Alike r name log (liftM action : RunM (StateM Scene) α).run
      (liftM action' : RunM (StateM Scene) α).run := by
  intro s t hst
  obtain ⟨hresult, hleft⟩ := h s t hst
  rw [play_lift, play_lift, hresult]
  exact ⟨rfl, hleft⟩

theorem alike_orEnd {ending : HostError → Ending}
    {action action' : StateM Scene (Except HostError α)} (h : Alike r name log action action') :
    Alike r name log (orEnd ending action).run (orEnd ending action').run := by
  intro s t hst
  obtain ⟨hresult, hleft⟩ := h s t hst
  rw [play_orEnd, play_orEnd, hresult]
  exact ⟨rfl, hleft⟩

/-! ## What the host does -/

theorem alike_change {f : Directory → Except HostError Directory}
    (hgrows : ∀ d e, f d = .ok e → Directory.Extends d e)
    (hresult : ∀ d e, SameBut log d e → SameResult log (f d) (f e)) :
    Alike r name log (Scene.change f) (Scene.change f) := by
  intro s t h
  rw [Scene.play_change, Scene.play_change]
  obtain ⟨d, e, hd, he, hde⟩ | ⟨error, hd, he⟩ := (hresult _ _ h.directory).ok_or_error
  · rw [hd, he]
    exact ⟨rfl, h.stands.of_extends (hgrows _ _ hd), h.input, h.output, h.complaints, hde⟩
  · rw [hd, he]
    exact ⟨rfl, h⟩

theorem alike_write (path : String) (bytes : List UInt8) :
    Alike r name log ((Scene.host name).write path bytes) ((Scene.host name).write path bytes) :=
  alike_change (fun _ _ => Directory.extends_change) fun _ _ h => h.change_result name path _

theorem alike_makeDirectories (path : String) :
    Alike r name log ((Scene.host name).makeDirectories path)
      ((Scene.host name).makeDirectories path) :=
  alike_change (fun _ _ h => (Directory.footprint_makeDirectories h).grows)
    fun _ _ h => h.makeDirectories name path

theorem alike_output (text : String) :
    Alike r name log ((Scene.host name).output text) ((Scene.host name).output text) :=
  fun _ _ h => ⟨rfl, h.stands, h.input, congrArg (text :: ·) h.output, h.complaints, h.directory⟩

theorem alike_complain (text : String) :
    Alike r name log ((Scene.host name).complain text) ((Scene.host name).complain text) :=
  fun _ _ h => ⟨rfl, h.stands, h.input, h.output, 
    fun hlog => congrArg (text :: ·) (h.complaints hlog),
    h.directory⟩

theorem alike_isThere (path : String) :
    Alike r name log ((Scene.host name).isThere path) ((Scene.host name).isThere path) :=
  fun _ _ h => ⟨h.directory.isThere name path, h⟩

theorem alike_input : Alike r name log (Scene.host name).input (Scene.host name).input :=
  fun _ _ h => ⟨congrArg Except.ok h.input.symm, h⟩

/-- A file that is not the log is read alike. -/
theorem alike_read (hpath : ∀ l ∈ places name path, l ∉ log) :
    Alike r name log ((Scene.host name).read path) ((Scene.host name).read path) := by
  intro s t h
  refine ⟨?_, h⟩
  show s.directory.read name path = t.directory.read name path
  unfold Directory.read
  rw [← h.directory.locate]
  cases hl : s.directory.locate name path with
  | error x => rfl
  | ok l =>
    have hnot : l ∉ log := hpath l (Directory.place?_of_locate hl)
    dsimp only [bind, Except.bind]
    rw [h.directory.kindAt hnot]

/-! ## Telling -/

/-- Telling something where there is a log leaves complaints as they are. -/
theorem complaints_tell (hhost : r.host = Scene.host name) (hlog : r.logFile.isSome) (s : Scene)
    (e : Log.Event) : (s.play (r.tell e)).2.complaints = s.complaints := by
  obtain ⟨path, hp⟩ := Option.isSome_iff_exists.1 hlog
  unfold Run.tell
  split
  · rw [hhost, hp]
    simp only [Scene.play_bind, Scene.play_discard, Scene.play_append]
    split <;> rfl
  · rfl

namespace Twins

theorem logPlaces_subset (h : Twins r r' name log) (d : Directory) :
    r.logPlaces name d ⊆ log := by
  rintro l ⟨path, hp, hl⟩
  exact h.place path hp (Directory.place?_of_locateFile hl)

theorem stands (h : Twins r r' name log) (hst : Apart r name log s t) :
    r'.Stands name t.directory where
  host := h.host'
  log := h.logFile ▸ (hst.stands.sameBut hst.directory).log

/-- What is told in two scenes that are alike leaves them alike, even if it is told in one only. -/
theorem alike_tell (h : Twins r r' name log) (e e' : Log.Event) :
    Alike r name log (r.tell e) (r'.tell e') := by
  intro s t hst
  have hs := hst.stands.wrote_tell e
  have ht := (h.stands hst).wrote_tell e'
  have hplaces : r'.logPlaces name t.directory ⊆ log := by
    unfold logPlaces
    rw [h.logFile]
    exact h.logPlaces_subset t.directory
  refine ⟨rfl, hst.stands.sameBut hs.directory, ?_, ?_, fun hlog => ?_, ?_⟩
  · rw [ht.input, hs.input, hst.input]
  · rw [ht.output, hs.output, hst.output]
  · rw [complaints_tell h.host' (h.logFile ▸ hlog), complaints_tell h.host hlog,
      hst.complaints hlog]
  · exact ((hs.directory.mono (h.logPlaces_subset _)).symm.trans hst.directory).trans
      (ht.directory.mono hplaces)

theorem alike_forM_tell (h : Twins r r' name log) (events : List Log.Event) :
    Alike r name log (events.forM fun e => r.tell e) (events.forM fun e => r'.tell e) := by
  induction events with
  | nil => exact .pure _
  | cons e events ih => exact .bind (h.alike_tell e e) fun _ => ih

/-! ## The parts of a run -/

theorem alike_putLine (h : Twins r r' name log) (line : String) :
    Alike r name log (r.putLine line).run (r'.putLine line).run := by
  unfold putLine
  rw [h.host, h.host']
  exact alike_lift (alike_output _)

theorem alike_configPath (h : Twins r r' name log) :
    Alike r name log r.configPath.run r'.configPath.run := by
  unfold configPath configDirectory
  rw [h.host, h.host', h.configHome]
  exact alike_run_bind (alike_orEnd (alike_makeDirectories _)) fun _ _ _ hst => ⟨rfl, hst⟩

/-- The configuration that is read is the same, as it is not read from the log. -/
theorem alike_configAt (h : Twins r r' name log) (hpath : ∀ l ∈ places name path, l ∉ log) :
    Alike r name log (r.configAt path).run (r'.configAt path).run := by
  unfold configAt
  rw [h.host, h.host']
  refine alike_run_bind (alike_lift (alike_isThere path)) fun there => ?_
  split
  · refine alike_run_bind (alike_orEnd (alike_read hpath)) fun data => ?_
    cases Text.Utf8.decode? data with
    | none => exact fun _ _ hst => ⟨rfl, hst⟩
    | some text =>
      dsimp only
      cases Config.parse (String.ofList text) <;> exact fun _ _ hst => ⟨rfl, hst⟩
  · refine alike_run_bind (alike_orEnd (alike_write _ _)) fun _ => ?_
    exact alike_run_bind (alike_lift (h.alike_tell _ _)) fun _ _ _ hst => ⟨rfl, hst⟩

theorem alike_config (h : Twins r r' name log)
    (hconfig : ∀ l ∈ places name (configFile r.environment), l ∉ log) :
    Alike r name log r.config.run r'.config.run := by
  intro s t hst
  obtain ⟨hresult, hleft⟩ := h.alike_configPath s t hst
  have hpath : ∀ path, (s.play r.configPath.run).1 = .ok path → path = configFile r.environment := by
    intro path hp
    rw [play_configPath h.host] at hp
    split at hp
    · cases hp
    · exact (Except.ok.inj hp).symm
  rw [config_eq, config_eq, play_run_bind, play_run_bind, ← hresult]
  cases hp : (s.play r.configPath.run).1 with
  | error ending => exact ⟨rfl, hleft⟩
  | ok path =>
    obtain rfl := hpath path hp
    exact h.alike_configAt hconfig _ _ hleft

/-- The page that is read is the same, unless it is read from the log. -/
theorem alike_readPage (h : Twins r r' name log) (hpath : ∀ l ∈ places name path, l ∉ log) :
    Alike r name log (r.readPage path).run (r'.readPage path).run := by
  unfold readPage
  rw [h.host, h.host']
  refine alike_run_bind (alike_orEnd ?_) fun data => ?_
  · split
    · exact alike_input
    · exact alike_read hpath
  · cases Text.Utf8.decode? data with
    | none => exact fun _ _ hst => ⟨rfl, hst⟩
    | some text =>
      exact alike_run_bind (alike_lift (h.alike_tell _ _)) fun _ _ _ hst => ⟨rfl, hst⟩

theorem alike_runJob (h : Twins r r' name log) (job : Job) (settings : Settings)
    (page : TreePage) :
    Alike r name log (r.runJob job settings page).run (r'.runJob job settings page).run := by
  unfold runJob
  cases job.run settings page with
  | error stop => exact fun _ _ hst => ⟨rfl, hst⟩
  | ok p =>
    refine alike_run_bind (fun s t hst => ?_) fun _ _ _ hst => ⟨rfl, hst⟩
    rw [play_forM_lift, play_forM_lift]
    exact ⟨rfl, (h.alike_forM_tell _ s t hst).2⟩

theorem alike_runJobs (h : Twins r r' name log) (settings : Settings) (page : TreePage)
    (removed : Nat) (jobs : List Job) :
    Alike r name log (r.runJobs settings page removed jobs).run
      (r'.runJobs settings page removed jobs).run := by
  induction jobs generalizing page removed with
  | nil => exact fun _ _ hst => ⟨rfl, hst⟩
  | cons job jobs ih =>
    unfold runJobs
    refine alike_run_bind (h.alike_runJob job settings page) fun p => ?_
    cases job.label with
    | none => exact alike_run_bind (h.alike_putLine _) fun _ => ih _ _
    | some label =>
      exact alike_run_bind (h.alike_putLine _) fun _ =>
        alike_run_bind (h.alike_putLine _) fun _ => ih _ _

theorem alike_writePage (h : Twins r r' name log) (page : TreePage) (remainder : Option String) :
    Alike r name log (r.writePage page remainder).run (r'.writePage page remainder).run := by
  unfold writePage
  cases remainder with
  | none => exact fun _ _ hst => ⟨rfl, hst⟩
  | some path =>
    dsimp only
    rw [h.host, h.host']
    exact alike_run_bind (alike_orEnd (alike_write _ _)) fun _ => alike_lift (h.alike_tell _ _)

/-! ### Commands -/

theorem alike_list (h : Twins r r' name log) (config : Config) (request : ListRequest)
    (hinput : ∀ l ∈ places name request.input, l ∉ log) :
    Alike r name log (r.list config request).run (r'.list config request).run := by
  unfold Run.list
  refine alike_run_bind (h.alike_readPage hinput) fun page => ?_
  refine alike_run_bind (h.alike_runJob _ _ _) fun p => ?_
  refine alike_run_bind (h.alike_putLine _) fun _ => ?_
  split
  · exact alike_run_bind (alike_lift (h.alike_tell _ _)) fun _ => h.alike_writePage _ _
  · exact h.alike_writePage _ _

theorem alike_preset (h : Twins r r' name log) (config : Config) (title input : String)
    (remainder : Option String) (hinput : ∀ l ∈ places name input, l ∉ log) :
    Alike r name log (r.preset config title input remainder).run
      (r'.preset config title input remainder).run := by
  unfold Run.preset
  cases config.preset title with
  | error f => exact fun _ _ hst => ⟨rfl, hst⟩
  | ok preset =>
    refine alike_run_bind (h.alike_readPage hinput) fun page => ?_
    refine alike_run_bind (h.alike_runJobs _ _ _ _) fun p => ?_
    exact alike_run_bind (alike_lift (h.alike_tell _ _)) fun _ => h.alike_writePage _ _

theorem alike_presets (h : Twins r r' name log) (config : Config) :
    Alike r name log (r.presets config).run (r'.presets config).run := by
  unfold presets
  split
  · exact h.alike_putLine _
  · refine alike_run_bind (h.alike_putLine _) fun _ => ?_
    induction config.presets with
    | nil => exact fun _ _ hst => ⟨rfl, hst⟩
    | cons preset presets ih => exact alike_run_bind (h.alike_putLine _) fun _ => ih

theorem alike_dispatch (h : Twins r r' name log) (command : Command)
    (hconfig : ∀ l ∈ places name (configFile r.environment), l ∉ log)
    (hinput : ∀ path, command.input? = some path → ∀ l ∈ places name path, l ∉ log) :
    Alike r name log (r.dispatch command).run (r'.dispatch command).run := by
  unfold dispatch
  rw [h.texts]
  cases command with
  | completions shell => exact h.alike_putLine _
  | list request =>
    exact alike_run_bind (h.alike_config hconfig) fun config =>
      alike_run_bind (alike_lift (h.alike_tell _ _)) fun _ =>
        h.alike_list config request (hinput _ rfl)
  | preset title input remainder =>
    exact alike_run_bind (h.alike_config hconfig) fun config =>
      alike_run_bind (alike_lift (h.alike_tell _ _)) fun _ =>
        h.alike_preset config title input remainder (hinput _ rfl)
  | presets =>
    exact alike_run_bind (h.alike_config hconfig) fun config =>
      alike_run_bind (alike_lift (h.alike_tell _ _)) fun _ => h.alike_presets config
  | configPath =>
    exact alike_run_bind (h.alike_config hconfig) fun config =>
      alike_run_bind (alike_lift (h.alike_tell _ _)) fun _ =>
        alike_run_bind h.alike_configPath fun _ => h.alike_putLine _

theorem alike_proceed (h : Twins r r' name log)
    (hconfig : ∀ l ∈ places name (configFile r.environment), l ∉ log)
    (hinput : ∀ command path, CommandLine.parse r.environment.arguments = .ok command →
      command.input? = some path → ∀ l ∈ places name path, l ∉ log) :
    Alike r name log r.proceed.run r'.proceed.run := by
  unfold proceed
  rw [h.arguments]
  cases hparse : CommandLine.parse r.environment.arguments with
  | error e => exact fun _ _ hst => ⟨rfl, hst⟩
  | ok command => exact h.alike_dispatch command hconfig fun path => hinput command path hparse

theorem alike_explain (h : Twins r r' name log) (ending : Ending) :
    Alike r name log (r.explain ending) (r'.explain ending) := by
  unfold explain
  rw [h.host, h.host', h.arguments, h.texts]
  split
  · exact alike_output _
  all_goals exact alike_complain _

end Twins

/-! ## The start -/

/-- What opening the log comes to in two directories: it fails at the same step, or succeeds. -/
inductive OpenAlike (name : String) (environment : Environment) (log : Set Location)
    (d e : Directory) : Prop
  | unmade (error : HostError)
    (hd : d.makeDirectories name (logDirectory environment) = .error error)
    (he : e.makeDirectories name (logDirectory environment) = .error error)
    (h : SameBut log d e)
  | unopened (error : HostError) {made made' : Directory}
    (hd : d.makeDirectories name (logDirectory environment) = .ok made)
    (he : e.makeDirectories name (logDirectory environment) = .ok made')
    (hd' : made.change name (logPath environment) (· ++ []) = .error error)
    (he' : made'.change name (logPath environment) (· ++ []) = .error error)
    (h : SameBut log made made')
  | opened {made made' file file' : Directory}
    (hd : d.makeDirectories name (logDirectory environment) = .ok made)
    (he : e.makeDirectories name (logDirectory environment) = .ok made')
    (hd' : made.change name (logPath environment) (· ++ []) = .ok file)
    (he' : made'.change name (logPath environment) (· ++ []) = .ok file')
    (h : SameBut log file file')

variable {d e : Directory} {environment : Environment}

theorem openAlike_of_sameBut (h : SameBut log d e) : OpenAlike name environment log d e := by
  obtain ⟨made, made', hd, he, hmade⟩ | ⟨error, hd, he⟩ :=
    (h.makeDirectories name (logDirectory environment)).ok_or_error
  · obtain ⟨file, file', hd', he', hfile⟩ | ⟨error, hd', he'⟩ :=
      (hmade.change_result name (logPath environment) (· ++ [])).ok_or_error
    · exact .opened hd he hd' he' hfile
    · exact .unopened error hd he hd' he' hmade
  · exact .unmade error hd he h

/-- What the path of the log leads to is no directory, so it can be opened as a file. -/
theorem change_logPath {l : Location} (h : d.locate name (logPath environment) = .ok l)
    (hl : d.kindAt l ≠ .directory) :
    d.makeDirectories name (logDirectory environment) = .ok d ∧
      d.locateFile name (logPath environment) = .ok l ∧
      ∃ file, d.change name (logPath environment) (· ++ []) = .ok file := by
  have hlocate : d.locateFile name (logPath environment) = .ok l := by
    rw [logPath_eq, Directory.locateFile_child (by decide), ← logPath_eq]
    exact h
  refine ⟨?_, hlocate, ?_⟩
  · rw [logPath_eq] at h
    exact Directory.makeDirectories_of_locate_child (logDirectory_ne_empty _) (by decide) h hl
  · obtain ⟨bytes, hbytes⟩ : ∃ bytes, (d.kindAt l).bytes? = some bytes := by
      cases hk : d.kindAt l with
      | missing => exact ⟨[], rfl⟩
      | directory => exact (hl hk).elim
      | file bytes => exact ⟨bytes, rfl⟩
    exact ⟨_, Directory.change_eq_ok_iff.2 ⟨l, bytes, hlocate, hbytes, rfl⟩⟩

/-- The directories differ at most in the file that the path leads to: in its bytes, or in whether it
is there. -/
def SameButFile (name path : String) (d e : Directory) : Prop :=
  ∀ l, d.kindAt l = e.kindAt l ∨
    (d.locate name path = .ok l ∧ e.locate name path = .ok l ∧ d.kindAt l ≠ .directory ∧
      e.kindAt l ≠ .directory)

theorem openAlike_of_sameButFile (h : SameButFile name (logPath environment) d e) :
    OpenAlike name environment (places name (logPath environment)) d e := by
  by_cases hsame : ∀ l, d.kindAt l = e.kindAt l
  · exact openAlike_of_sameBut fun l => .inl (hsame l)
  · obtain ⟨l, hdiffers⟩ := not_forall.1 hsame
    obtain ⟨hd, he, hkd, hke⟩ := (h l).resolve_left hdiffers
    obtain ⟨hmade, hlocate, file, hfile⟩ := change_logPath hd hkd
    obtain ⟨hmade', hlocate', file', hfile'⟩ := change_logPath he hke
    refine .opened hmade hmade' hfile hfile' fun l' => ?_
    rw [Directory.kindAt_change hlocate hfile, Directory.kindAt_change hlocate' hfile']
    by_cases hl' : l' = l
    · subst hl'
      rw [if_pos rfl, if_pos rfl]
      exact .inr ⟨Directory.place?_of_locate hd, ⟨_, rfl⟩, _, rfl⟩
    · rw [if_neg hl', if_neg hl']
      refine .inl ((h l').resolve_right ?_)
      rintro ⟨hd', -⟩
      exact hl' (Except.ok.inj (hd'.symm.trans hd))

theorem twins_started (environment : Environment) (setting : Option String)
    {logFile : Option String} (hlog : ∀ path, logFile = some path → places name path ⊆ log) :
    Twins (started name environment logFile)
      (started name { environment with logFilter := setting } logFile) name log where
  host := rfl
  host' := rfl
  arguments := rfl
  configHome := rfl
  texts := rfl
  logFile := rfl
  place := hlog

/-- Two runs that differ in their filters start alike. -/
theorem alike_start (setting : Option String) (hinput : t.input = s.input)
    (houtput : t.output = s.output) (hcomplaints : t.complaints = s.complaints)
    (h : OpenAlike name environment (places name (logPath environment)) s.directory t.directory) :
    let begun := s.play (start (Scene.host name) environment)
    let begun' :=
      t.play (start (Scene.host name) { environment with logFilter := setting })
    Twins begun.1 begun'.1 name (places name (logPath environment)) ∧
      Apart begun.1 name (places name (logPath environment)) begun.2 begun'.2 := by
  obtain ⟨unmade, unopened, opened, heq⟩ := play_start name environment
  obtain ⟨unmade', unopened', opened', heq'⟩ :=
    play_start name { environment with logFilter := setting }
  have hdirectory : logDirectory { environment with logFilter := setting } =
      logDirectory environment := rfl
  have hpath : logPath { environment with logFilter := setting } = logPath environment := rfl
  -- What a start ends with: a run that tells something.
  have htold : ∀ (logFile : Option String) (e e' : Log.Event) (d d' : Directory),
      (∀ path, logFile = some path → places name path ⊆ places name (logPath environment)) →
      (started name environment logFile).Stands name d →
      SameBut (places name (logPath environment)) d d' →
      let r := started name environment logFile
      let r' := started name { environment with logFilter := setting } logFile
      Twins r r' name (places name (logPath environment)) ∧
        Apart r name (places name (logPath environment))
          (Scene.play { s with directory := d } (r.tell e)).2
          (Scene.play { t with directory := d' } (r'.tell e')).2 := by
    intro logFile e e' d d' hlog hstands hdd r r'
    have htwins : Twins r r' name (places name (logPath environment)) :=
      twins_started environment setting hlog
    exact ⟨htwins, (htwins.alike_tell e e' { s with directory := d } { t with directory := d' }
      ⟨hstands, hinput, houtput, fun _ => hcomplaints, hdd⟩).2⟩
  have hnone : ∀ path, (none : Option String) = some path →
      places name path ⊆ places name (logPath environment) := by
    rintro path ⟨⟩
  dsimp only
  rw [heq, heq', hdirectory, hpath]
  cases h with
  | unmade error hd he h =>
    rw [hd, he]
    exact htold none _ _ _ _ hnone (stands_of_none rfl rfl) h
  | unopened error hd he hd' he' h =>
    rw [hd, he]
    dsimp only
    rw [hd', he']
    exact htold none _ _ _ _ hnone (stands_of_none rfl rfl) h
  | opened hd he hd' he' h =>
    rw [hd, he]
    dsimp only
    rw [hd', he']
    exact htold (some (logPath environment)) _ _ _ _ (by rintro path ⟨⟩; exact subset_rfl)
      (stands_of_append rfl rfl hd') h

/-- A log that can be opened is opened. -/
theorem isSome_logFile {made file : Directory}
    (hmade : s.directory.makeDirectories name (logDirectory environment) = .ok made)
    (hfile : made.change name (logPath environment) (· ++ []) = .ok file) :
    (s.play (start (Scene.host name) environment)).1.logFile.isSome := by
  obtain ⟨unmade, unopened, opened, heq⟩ := play_start name environment
  rw [heq, hmade]
  dsimp only
  rw [hfile]
  rfl

end Run

open Run in
/-- **Logging never leaks into what a run gives.** Two runs are asked for the same, in directories
that differ at most in the file of the log, which may have other bytes or not be there, and may be
told in other words which events the log holds. They read no page from the log. Then they write the
same output and end with the same status, and apart from the log they leave the same. If the log can
be opened, they complain of the same. -/
theorem logging_leaks_nothing (name : String) (environment : Environment) (setting : Option String)
    (s t : Scene) (hinput : t.input = s.input) (houtput : t.output = s.output)
    (hcomplaints : t.complaints = s.complaints)
    (hdirectory : SameButFile name (logPath environment) s.directory t.directory)
    (hpage : ∀ command path, CommandLine.parse environment.arguments = .ok command →
      command.input? = some path →
      ∀ l ∈ places name path, l ∉ places name (logPath environment)) :
    let played := s.play (runProgram (Scene.host name) environment)
    let played' :=
      t.play (runProgram (Scene.host name) { environment with logFilter := setting })
    played.1 = played'.1 ∧ played'.2.output = played.2.output ∧
      (∀ l ∉ places name (logPath environment),
        played.2.directory.kindAt l = played'.2.directory.kindAt l) ∧
      ∀ made file, s.directory.makeDirectories name (logDirectory environment) = .ok made →
        made.change name (logPath environment) (· ++ []) = .ok file →
        played'.2.complaints = played.2.complaints := by
  obtain ⟨htwins, hbegun⟩ := alike_start setting hinput houtput hcomplaints
    (openAlike_of_sameButFile hdirectory)
  have hruns := runsIn_start s name environment
  have hopened : ∀ made file,
      s.directory.makeDirectories name (logDirectory environment) = .ok made →
      made.change name (logPath environment) (· ++ []) = .ok file →
      (s.play (start (Scene.host name) environment)).1.logFile.isSome :=
    fun _ _ => isSome_logFile
  rw [play_runProgram, play_runProgram]
  generalize s.play (start (Scene.host name) environment) = begun at *
  generalize t.play (start (Scene.host name) { environment with logFilter := setting }) = begun' at *
  obtain ⟨hresult, hleft⟩ := htwins.alike_proceed
    (by rw [hruns.told]; exact not_mem_places_logPath name environment)
    (by rw [hruns.told]; exact hpage) _ _ hbegun
  dsimp only
  -- What is left to be done is to say why the runs end, if they end before their time.
  have hgiven : ∀ (status : UInt8) (u v : Scene),
      Apart begun.1 name (places name (logPath environment)) u v →
      let played := (status, u)
      let played' := (status, v)
      played.1 = played'.1 ∧ played'.2.output = played.2.output ∧
        (∀ l ∉ places name (logPath environment),
          played.2.directory.kindAt l = played'.2.directory.kindAt l) ∧
        ∀ made file, s.directory.makeDirectories name (logDirectory environment) = .ok made →
          made.change name (logPath environment) (· ++ []) = .ok file →
          played'.2.complaints = played.2.complaints :=
    fun status u v h => ⟨rfl, h.output, fun l hl => h.directory.kindAt hl,
      fun made file hmade hfile => h.complaints (hopened made file hmade hfile)⟩
  rw [← hresult]
  cases (begun.2.play begun.1.proceed.run).1 with
  | ok => exact hgiven 0 _ _ hleft
  | error ending => exact hgiven ending.status _ _ (htwins.alike_explain ending _ _ hleft).2

open Run in
/-- One run finds no file for its log and is told nothing about it, the other one finds the file and
is to log everything. -/
theorem logging_leaks_nothing_trace :
    let environment : Environment :=
      { arguments := ["list", "page.html", "--pattern", "x"], configHome := "config"
        stateHome := "state" }
    let d : Directory := ⟨[(["page.html"], some [60, 97, 62]), (["state"], none),
      (["state", "rellist"], none), (["state", "rellist", "rellist"], none)]⟩
    let s : Scene := { directory := d }
    let t : Scene :=
      { directory := d.set ["state", "rellist", "rellist", "rellist.log"] (some [10]) }
    let played := s.play (runProgram (Scene.host "/here") environment)
    let played' :=
      t.play (runProgram (Scene.host "/here") { environment with logFilter := some "trace" })
    played.1 = played'.1 ∧ played'.2.output = played.2.output ∧
      played'.2.complaints = played.2.complaints := by
  intro environment d s t
  have hparse : CommandLine.parse environment.arguments = .ok (.list {
      input := "page.html", pattern := "x" }) := by decide +kernel
  have hplace : Directory.place? "/here" (logPath environment) =
      some ["state", "rellist", "rellist", "rellist.log"] := by decide +kernel
  have hpage : ∀ command path, CommandLine.parse environment.arguments = .ok command →
      command.input? = some path →
      ∀ l ∈ places "/here" path, l ∉ places "/here" (logPath environment) := by
    intro command path hcommand hinput
    obtain rfl := Except.ok.inj (hparse.symm.trans hcommand)
    obtain rfl := Option.some.inj hinput
    intro l hl hl'
    obtain rfl := Option.some.inj (hplace.symm.trans hl')
    have hne : Directory.place? "/here" "page.html" ≠
        some ["state", "rellist", "rellist", "rellist.log"] := by decide +kernel
    exact hne hl
  have hdirectory : SameButFile "/here" (logPath environment) s.directory t.directory := by
    intro l
    by_cases hl : l = ["state", "rellist", "rellist", "rellist.log"]
    · subst hl
      exact .inr ⟨by decide +kernel, by decide +kernel, by decide +kernel, by decide +kernel⟩
    · exact .inl (by rw [Directory.kindAt_set d (by decide), if_neg hl])
  obtain ⟨hstatus, houtput, -, hcomplaints⟩ :=
    logging_leaks_nothing "/here" environment (some "trace") s t rfl rfl rfl hdirectory hpage
  have hmade : d.makeDirectories "/here" (logDirectory environment) = .ok d := by decide +kernel
  have hopened : d.change "/here" (logPath environment) (· ++ []) =
      .ok (d.set ["state", "rellist", "rellist", "rellist.log"] (some [])) := by decide +kernel
  exact ⟨hstatus, houtput, hcomplaints _ _ hmade hopened⟩

end ReleaseListing
