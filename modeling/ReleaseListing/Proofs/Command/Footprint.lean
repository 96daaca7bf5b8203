import ReleaseListing.Proofs.Directory.Paths
import ReleaseListing.Proofs.Scene.Program

/-!
# What a run of the program touches

A run writes to the file of its log, to that of the configuration if there is none, and to the file
that a page is to be written to (`runProgram_footprint`). That page is the last thing that is
written: a run that does not end well has not written it (`Settles`). There is one lemma for each
part of a run, and each is about every scene that the part may be done in (`Scene.Within`).
-/

namespace ReleaseListing

open Directory (Footprint places)

/-- Where the page goes that a command leaves. -/
def Command.remainder? : Command → Option String
  | .list request => request.remainder
  | .preset _ _ remainder => remainder
  | _ => none

/-- Where the page comes from that a command reads. -/
def Command.input? : Command → Option String
  | .list request => some request.input
  | .preset _ input _ => some input
  | _ => none

namespace Scene

variable {α β : Type} {name path : String} {written fresh : Set Location}

/-- In whatever scene the action is done, it leaves a footprint only at the places. -/
def Within (written fresh : Set Location) (action : StateM Scene α) : Prop :=
  ∀ s : Scene, Footprint written fresh s.directory (s.play action).2.directory

theorem Within.of_directory {action : StateM Scene α}
    (h : ∀ s : Scene, (s.play action).2.directory = s.directory) : Within written fresh action := by
  intro s
  rw [h s]
  exact .refl _ _ _

theorem Within.bind {action : StateM Scene α} {next : α → StateM Scene β}
    (h : Within written fresh action) (hnext : ∀ a, Within written fresh (next a)) :
    Within written fresh (action >>= next) :=
  fun s => (h s).trans (hnext _ _)

theorem within_change {f : Directory → Except HostError Directory}
    (h : ∀ d e, f d = .ok e → Footprint written fresh d e) : Within written fresh (change f) := by
  intro s
  rw [play_change]
  cases hf : f s.directory with
  | ok directory => exact h _ _ hf
  | error e => exact .refl _ _ _

theorem within_append (hpath : places name path ⊆ written) (bytes : List UInt8) :
    Within written fresh ((host name).append path bytes) :=
  within_change fun _ _ h => (Directory.footprint_change h).mono hpath (Set.empty_subset _)

theorem within_makeDirectories : Within written fresh ((host name).makeDirectories path) :=
  within_change fun _ _ h =>
    (Directory.footprint_makeDirectories h).mono (Set.empty_subset _) (Set.empty_subset _)

end Scene

namespace Run

open Scene (Within)

variable {α β : Type} {r : Run (StateM Scene)} {environment : Environment} {name : String}
  {written fresh rewritten : Set Location}

/-! ## Parts that may end a run -/

theorem within_run_bind {x : RunM (StateM Scene) α} {next : α → RunM (StateM Scene) β}
    (h : Within written fresh x.run) (hnext : ∀ a, Within written fresh (next a).run) :
    Within written fresh (x >>= next).run := by
  intro s
  rw [play_run_bind]
  have hx := h s
  cases (s.play x.run).1 with
  | ok a => exact hx.trans (hnext a _)
  | error ending => exact hx

theorem within_lift {action : StateM Scene α} (h : Within written fresh action) :
    Within written fresh (liftM action : RunM (StateM Scene) α).run :=
  fun s => h s

theorem within_orEnd {ending : HostError → Ending} {action : StateM Scene (Except HostError α)}
    (h : Within written fresh action) : Within written fresh (orEnd ending action).run := by
  intro s
  rw [play_orEnd]
  exact h s

theorem within_pure (a : α) : Within written fresh (pure a : RunM (StateM Scene) α).run :=
  .of_directory fun _ => rfl

theorem within_throw (ending : Ending) :
    Within written fresh (throw ending : RunM (StateM Scene) α).run :=
  .of_directory fun _ => rfl

/-- In whatever scene the part of a run is done, it leaves a footprint only at the places, and at the
places `rewritten` only if it does not end the run. -/
def Settles (written fresh rewritten : Set Location) (x : RunM (StateM Scene) α) : Prop :=
  ∀ s : Scene,
    Footprint (written ∪ {l | l ∈ rewritten ∧ ∃ a, (s.play x.run).1 = .ok a}) fresh s.directory
      (s.play x.run).2.directory

theorem Settles.of_within {x : RunM (StateM Scene) α} (h : Within written fresh x.run) :
    Settles written fresh rewritten x :=
  fun s => (h s).mono Set.subset_union_left subset_rfl

/-- What is written to the places `rewritten` is written last. -/
theorem Settles.bind {x : RunM (StateM Scene) α} {next : α → RunM (StateM Scene) β}
    (h : Within written fresh x.run) (hnext : ∀ a, Settles written fresh rewritten (next a)) :
    Settles written fresh rewritten (x >>= next) := by
  intro s
  rw [play_run_bind]
  have hx := h s
  cases (s.play x.run).1 with
  | ok a => exact (hx.mono Set.subset_union_left subset_rfl).trans (hnext a _)
  | error ending => exact hx.mono Set.subset_union_left subset_rfl

/-! ## The parts of a run -/

namespace RunsIn

theorem within_tell (h : r.RunsIn name environment) (e : Log.Event) :
    Within (places name (logPath environment)) fresh (r.tell e) := by
  unfold Run.tell
  split
  · rw [h.host]
    refine .bind (.of_directory fun _ => rfl) fun time => ?_
    cases hp : r.logFile with
    | none => exact .of_directory fun _ => rfl
    | some path =>
      obtain rfl := h.log path hp
      exact fun s => Scene.within_append subset_rfl _ s
  · exact .of_directory fun _ => rfl

theorem within_forM_tell (h : r.RunsIn name environment) (events : List Log.Event) :
    Within (places name (logPath environment)) fresh (events.forM fun e => r.tell e) := by
  induction events with
  | nil => exact .of_directory fun _ => rfl
  | cons e events ih => exact .bind (h.within_tell e) fun _ => ih

theorem within_putLine (h : r.RunsIn name environment) (line : String) :
    Within written fresh (r.putLine line).run := by
  unfold putLine
  rw [h.host]
  exact .of_directory fun _ => rfl

theorem within_configPath (h : r.RunsIn name environment) : Within written fresh r.configPath.run := by
  unfold configPath
  refine within_run_bind (within_orEnd ?_) fun _ => within_pure _
  rw [h.host]
  exact Scene.within_makeDirectories

/-- The configuration is written only where there is none. -/
theorem within_config (h : r.RunsIn name environment) :
    Within (places name (logPath environment)) (places name (configFile environment))
      r.config.run := by
  intro s
  rw [config_eq, play_run_bind, play_configPath h.host, h.told]
  cases hmade : s.directory.makeDirectories name (configDirectory environment) with
  | error e => exact .refl _ _ _
  | ok made =>
    dsimp only
    obtain ⟨event, heq⟩ := play_configAt h.host (configFile environment)
    rw [heq]
    have hdirectories : Footprint (places name (logPath environment))
        (places name (configFile environment)) s.directory made :=
      (Directory.footprint_makeDirectories hmade).mono (Set.empty_subset _) (Set.empty_subset _)
    refine hdirectories.trans ?_
    split
    · exact .refl _ _ _
    · rename_i hnew
      rw [Bool.not_eq_true] at hnew
      cases hc : made.change name (configFile environment) fun _ => bytes Config.standard.render with
      | error e => exact .refl _ _ _
      | ok filled =>
        have hfile := (Directory.footprint_new hnew hc).mono
          (Set.empty_subset (places name (logPath environment))) subset_rfl
        exact hfile.trans (h.within_tell event { s with directory := filled })

/-! ### Pages -/

theorem within_readPage (h : r.RunsIn name environment) (path : String) :
    Within (places name (logPath environment)) fresh (r.readPage path).run := by
  intro s
  obtain ⟨event, heq⟩ := play_readPage_eq h.host s path
  rw [heq]
  cases s.source name path with
  | error e => exact .refl _ _ _
  | ok data =>
    dsimp only
    cases Text.Utf8.decode? data with
    | none => exact .refl _ _ _
    | some text => exact h.within_tell _ s

theorem within_runJob (h : r.RunsIn name environment) (job : Job) (settings : Settings)
    (page : TreePage) :
    Within (places name (logPath environment)) fresh (r.runJob job settings page).run := by
  intro s
  rw [play_runJob]
  cases job.run settings page with
  | error stop => exact .refl _ _ _
  | ok p => exact h.within_forM_tell _ s

theorem within_runJobs (h : r.RunsIn name environment) (settings : Settings) (page : TreePage)
    (removed : Nat) (jobs : List Job) :
    Within (places name (logPath environment)) fresh (r.runJobs settings page removed jobs).run := by
  induction jobs generalizing page removed with
  | nil => exact within_pure _
  | cons job jobs ih =>
    unfold runJobs
    refine within_run_bind (h.within_runJob job settings page) fun p => ?_
    obtain ⟨outcome, rest⟩ := p
    have hlater : Within (places name (logPath environment)) fresh
        (do
          r.putLine outcome.listing
          r.runJobs settings rest (removed + outcome.removed) jobs :
            RunM (StateM Scene) (TreePage × Nat)).run :=
      within_run_bind (h.within_putLine _) fun _ => ih _ _
    cases job.label with
    | none => exact hlater
    | some label => exact within_run_bind (h.within_putLine _) fun _ => hlater

/-- A page is written where it is to be written, or not at all. -/
theorem settles_writePage (h : r.RunsIn name environment) (page : TreePage)
    (remainder : Option String) :
    Settles (places name (logPath environment)) fresh
      {l | ∃ path, remainder = some path ∧ l ∈ places name path}
      (r.writePage page remainder) := by
  intro s
  obtain ⟨events, heq⟩ := play_writePage_eq h.host page remainder
  rw [heq s]
  cases hw : s.rewritten name page remainder with
  | error ending => exact .refl _ _ _
  | ok directory =>
    have htold : Within (places name (logPath environment)) fresh
        (events.forM fun e => r.tell e) := h.within_forM_tell events
    refine Footprint.trans ?_ ((htold { s with directory }).mono Set.subset_union_left subset_rfl)
    cases remainder with
    | none =>
      obtain rfl := Except.ok.inj hw
      exact .refl _ _ _
    | some path =>
      have hc : s.directory.change name path (fun _ => bytes page.render) = .ok directory := by
        unfold Scene.rewritten at hw
        dsimp only at hw
        cases hc : s.directory.change name path fun _ => bytes page.render with
        | error e => simp [hc, Except.mapError] at hw
        | ok d => simpa [hc, Except.mapError] using hw
      exact (Directory.footprint_change hc).mono
        (fun l hl => .inr ⟨⟨path, rfl, hl⟩, (), rfl⟩) (Set.empty_subset _)

/-! ### Commands -/

theorem within_presets (h : r.RunsIn name environment) (config : Config) :
    Within written fresh (r.presets config).run := by
  unfold presets
  split
  · exact h.within_putLine _
  · refine within_run_bind (h.within_putLine _) fun _ => ?_
    induction config.presets with
    | nil => exact within_pure _
    | cons preset presets ih => exact within_run_bind (h.within_putLine _) fun _ => ih

theorem settles_list (h : r.RunsIn name environment) (config : Config) (request : ListRequest) :
    Settles (places name (logPath environment)) fresh
      {l | ∃ path, request.remainder = some path ∧ l ∈ places name path}
      (r.list config request) := by
  unfold Run.list
  refine .bind (h.within_readPage _) fun page => .bind (h.within_runJob _ _ _) fun p => ?_
  refine .bind (h.within_putLine _) fun _ => ?_
  split
  · exact .bind (within_lift (h.within_tell _)) fun _ => h.settles_writePage _ _
  · exact h.settles_writePage _ _

theorem settles_preset (h : r.RunsIn name environment) (config : Config) (title input : String)
    (remainder : Option String) :
    Settles (places name (logPath environment)) fresh
      {l | ∃ path, remainder = some path ∧ l ∈ places name path}
      (r.preset config title input remainder) := by
  unfold Run.preset
  cases config.preset title with
  | error f => exact .of_within (within_throw _)
  | ok preset =>
    refine .bind (h.within_readPage _) fun page => .bind (h.within_runJobs _ _ _ _) fun p => ?_
    exact .bind (within_lift (h.within_tell _)) fun _ => h.settles_writePage _ _

/-- The page goes to the place that the command names. -/
theorem settles_dispatch (h : r.RunsIn name environment) (command : Command) :
    Settles (places name (logPath environment)) (places name (configFile environment))
      {l | ∃ path, command.remainder? = some path ∧ l ∈ places name path}
      (r.dispatch command) := by
  unfold dispatch
  cases command with
  | completions shell => exact .of_within (h.within_putLine _)
  | list request =>
    exact .bind h.within_config fun config => .bind (within_lift (h.within_tell _)) fun _ =>
      h.settles_list config request
  | preset title input remainder =>
    exact .bind h.within_config fun config => .bind (within_lift (h.within_tell _)) fun _ =>
      h.settles_preset config title input remainder
  | presets =>
    exact .bind h.within_config fun config => .bind (within_lift (h.within_tell _)) fun _ =>
      .of_within (h.within_presets config)
  | configPath =>
    exact .bind h.within_config fun config => .bind (within_lift (h.within_tell _)) fun _ =>
      .bind h.within_configPath fun _ => .of_within (h.within_putLine _)

end RunsIn

/-! ## Whole runs -/

/-- A start touches the file of the log and no other. -/
theorem within_start (name : String) (environment : Environment) :
    Within (places name (logPath environment)) fresh (start (Scene.host name) environment) := by
  intro s
  obtain ⟨unmade, unopened, opened, heq⟩ := play_start name environment
  rw [heq]
  have hsilent : (started name environment none).RunsIn name environment :=
    runsIn_started (by rintro path ⟨⟩)
  have hlogging : (started name environment (some (logPath environment))).RunsIn name environment :=
    runsIn_started (by rintro path ⟨⟩; rfl)
  cases hmade : s.directory.makeDirectories name (logDirectory environment) with
  | error e => exact hsilent.within_tell (unmade e) s
  | ok made =>
    have hdirectories : Footprint (places name (logPath environment)) fresh s.directory made :=
      (Directory.footprint_makeDirectories hmade).mono (Set.empty_subset _) (Set.empty_subset _)
    refine hdirectories.trans ?_
    cases hopened : made.change name (logPath environment) (· ++ []) with
    | error e =>
      dsimp only
      rw [hopened]
      exact hsilent.within_tell (unopened e) { s with directory := made }
    | ok file =>
      dsimp only
      rw [hopened]
      have hfile := (Directory.footprint_change hopened).mono subset_rfl (Set.empty_subset fresh)
      exact hfile.trans (hlogging.within_tell opened { s with directory := file })

theorem within_explain (hhost : r.host = Scene.host name) (ending : Ending) :
    Within written fresh (r.explain ending) := by
  unfold explain
  rw [hhost]
  split <;> exact .of_directory fun _ => rfl

/-- Where the page goes that the arguments ask for. -/
def target? (environment : Environment) : Option String :=
  match CommandLine.parse environment.arguments with
  | .ok command => command.remainder?
  | .error _ => none

theorem RunsIn.settles_proceed (h : r.RunsIn name environment) :
    Settles (places name (logPath environment)) (places name (configFile environment))
      {l | ∃ path, target? environment = some path ∧ l ∈ places name path} r.proceed := by
  unfold proceed target?
  rw [h.told]
  cases CommandLine.parse environment.arguments with
  | error e => exact .of_within (within_throw _)
  | ok command => exact h.settles_dispatch command

/-- The files of the configuration and of the log are two. -/
theorem not_mem_places_logPath (name : String) (environment : Environment) :
    ∀ l ∈ places name (configFile environment), l ∉ places name (logPath environment) := by
  rw [configFile_eq, logPath_eq]
  exact Directory.not_mem_places_child (configDirectory_ne_empty _) (logDirectory_ne_empty _)
    (by decide) (by decide) (by decide)

end Run

open Run in
/-- A run leaves a footprint at the places of its log and of a new configuration, and at the place
that a page is to be written to only if it ends well. -/
theorem runProgram_footprint (name : String) (environment : Environment) (s : Scene) :
    let played := s.play (runProgram (Scene.host name) environment)
    Footprint (places name (logPath environment) ∪
        {l | (∃ path, target? environment = some path ∧ l ∈ places name path) ∧ played.1 = 0})
      (places name (configFile environment)) s.directory played.2.directory := by
  rw [play_runProgram]
  dsimp only
  have hproceed := (runsIn_start s name environment).settles_proceed
    (s.play (start (Scene.host name) environment)).2
  have hdone := ((within_start name environment s).mono Set.subset_union_left subset_rfl).trans
    hproceed
  have hhost := (runsIn_start s name environment).host
  generalize s.play (start (Scene.host name) environment) = started at hdone hhost ⊢
  generalize started.2.play started.1.proceed.run = done at hdone ⊢
  obtain ⟨result, left⟩ := done
  cases result with
  | ok a => exact hdone.mono (fun l hl => hl.imp_right fun h => ⟨h.1, rfl⟩) subset_rfl
  | error ending =>
    have hnone : Footprint (places name (logPath environment)) (places name (configFile environment))
        s.directory left.directory := by
      refine hdone.mono ?_ subset_rfl
      rintro l (hl | ⟨-, a, ⟨⟩⟩)
      exact hl
    exact (hnone.trans (within_explain hhost ending left)).mono Set.subset_union_left subset_rfl

open Run in
/-- **A run touches only its own files.** Whatever it is asked for, whatever there is and however it
ends, a file has the same bytes afterwards and none comes into being, apart from the file of the log,
that of the configuration if there was nothing in its place, and the one that a page is to be
written to if the run ends well. So a configuration that is there changes only if a page is written
in its place, and the same is true of the page that is read, unless the log is written there. -/
theorem touches_only_own (name : String) (environment : Environment) (s : Scene) :
    let played := s.play (runProgram (Scene.host name) environment)
    let log := places name (logPath environment)
    let config := places name (configFile environment)
    let target := {l | ∃ path, target? environment = some path ∧ l ∈ places name path}
    (∀ l, l ∉ log → (l ∈ config → s.directory.kindAt l ≠ .missing) → (l ∈ target → played.1 ≠ 0) →
      played.2.directory.fileAt? l = s.directory.fileAt? l) ∧
    (∀ l ∈ config, s.directory.kindAt l ≠ .missing → (l ∈ target → played.1 ≠ 0) →
      played.2.directory.fileAt? l = s.directory.fileAt? l) ∧
    ∀ command path, CommandLine.parse environment.arguments = .ok command →
      command.input? = some path → ∀ l ∈ places name path, (s.directory.fileAt? l).isSome →
      l ∉ log → (l ∈ target → played.1 ≠ 0) →
      played.2.directory.fileAt? l = s.directory.fileAt? l := by
  intro played log config target
  have hkept : ∀ l, l ∉ log → (l ∈ config → s.directory.kindAt l ≠ .missing) →
      (l ∈ target → played.1 ≠ 0) → played.2.directory.fileAt? l = s.directory.fileAt? l := by
    intro l hlog hconfig htarget
    refine (runProgram_footprint name environment s).file l ?_ hconfig
    rintro (hl | ⟨hl, hstatus⟩)
    · exact hlog hl
    · exact htarget hl hstatus
  refine ⟨hkept, fun l hconfig hthere => hkept l ?_ fun _ => hthere, ?_⟩
  · exact not_mem_places_logPath name environment l hconfig
  · intro command path _ _ l _ hfile hlog
    refine hkept l hlog fun _ hmissing => ?_
    simp [Directory.fileAt?, hmissing] at hfile

open Run in
/-- A page whose rest is written to another file stays as it is. -/
theorem touches_only_own_rest :
    let environment : Environment :=
      { arguments := ["list", "page.html", "--pattern", "x", "--remove-rows", "--rewrite", "rest.html"]
        configHome := "config", stateHome := "state" }
    let page : List UInt8 := [60, 97, 32, 104, 114, 101, 102, 61, 47, 120, 62]
    let s : Scene := { directory := ⟨[(["page.html"], some page)]⟩ }
    (target? environment = some "rest.html" ∧
      CommandLine.parse environment.arguments = .ok (.list {
        input := "page.html", pattern := "x", removesRows := true
        remainder := some "rest.html" })) ∧
      (s.play (runProgram (Scene.host "/here") environment)).2.directory.fileAt? ["page.html"] =
        some page := by
  intro environment page s
  have hparse : CommandLine.parse environment.arguments = .ok (.list {
      input := "page.html", pattern := "x", removesRows := true
      remainder := some "rest.html" }) := by decide +kernel
  have htarget : target? environment = some "rest.html" := by
    unfold target?
    rw [hparse]
    rfl
  have hlog : ["page.html"] ∉ places "/here" (logPath environment) := by
    show ¬ Directory.place? "/here" (logPath environment) = some ["page.html"]
    decide +kernel
  have hrest : ["page.html"] ∉
      {l | ∃ path, target? environment = some path ∧ l ∈ places "/here" path} := by
    rintro ⟨path, hpath, hl⟩
    obtain rfl := Option.some.inj (htarget.symm.trans hpath)
    have hplace : Directory.place? "/here" "rest.html" ≠ some ["page.html"] := by decide +kernel
    exact hplace hl
  refine ⟨⟨htarget, hparse⟩, ?_⟩
  exact (touches_only_own "/here" environment s).2.2 _ "page.html" hparse rfl ["page.html"]
    (show Directory.place? "/here" "page.html" = some ["page.html"] by decide +kernel) rfl hlog
    fun h => (hrest h).elim

end ReleaseListing
