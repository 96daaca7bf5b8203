import ReleaseListing.Proofs.Command.Preset

/-!
# A listing is a preset of one job

`list` and `preset` are the same program on one job (`list_eq_preset`): they read the page and run
the job alike (`play_list_eq`, `play_preset_eq`), and what they tell in between changes nothing but
the log, so they end alike (`play_ending`).
-/

namespace ReleaseListing

open Directory (SameBut)

/-- What takes the place of settings of the configuration. -/
structure Overrides where
  record : Option String := none
  separator : Option String := none
  levels : Option Nat := none

/-- The configuration with other settings. -/
def Config.override (config : Config) (o : Overrides) : Config :=
  { config with
    record := o.record.getD config.record
    separator := o.separator.getD config.separator
    rowLevels := o.levels.getD config.rowLevels }

/-- The request for the listing of a job. -/
def Job.request (job : Job) (input : String) (o : Overrides) (remainder : Option String) :
    ListRequest where
  input
  pattern := job.pattern
  start := job.start
  strategy := job.strategy
  style := job.style
  record := o.record
  separator := o.separator
  baseUrl := job.baseUrl
  assign := job.assign
  docstring := job.docstring
  removesRows := job.removesRows
  levels := o.levels
  remainder

/-- What is written in front of the listing of a job. -/
def Job.heading (job : Job) : List String :=
  (job.label.map fun label => "# " ++ label ++ ":" ++ "\n").toList

namespace Run

variable {r : Run (StateM Scene)} {s t u : Scene} {name title input : String} {config : Config}
  {job : Job} {page rest : TreePage} {outcome : Outcome} {remainder : Option String}

theorem request_settings (job : Job) (input : String) (o : Overrides) (remainder : Option String)
    (config : Config) :
    (job.request input o remainder).settings config = (config.override o).settings := rfl

/-- The label of a job makes no difference to what comes of it. -/
theorem run_request (job : Job) (input : String) (o : Overrides) (remainder : Option String)
    (settings : Settings) (page : TreePage) :
    (job.request input o remainder).job.run settings page = job.run settings page := rfl

theorem report_request (job : Job) (input : String) (o : Overrides) (remainder : Option String)
    (settings : Settings) (page : TreePage) (outcome : Outcome) :
    (job.request input o remainder).job.report settings page outcome =
      job.report settings page outcome := rfl

/-! ## The end of a run -/

/-- What is left to be done when all has been listed: telling so, and writing the page. -/
def ending (r : Run (StateM Scene)) (events : List Log.Event) (page : TreePage)
    (remainder : Option String) : RunM (StateM Scene) Unit := do
  events.forM fun e => r.tell e
  r.writePage page remainder

/-- Runs end alike, whatever they tell. -/
theorem Stands.play_ending (h : r.Stands name s.directory)
    (hst : SameBut (r.logPlaces name s.directory) s.directory t.directory)
    (told told' : List Log.Event) (page : TreePage) (remainder : Option String) :
    let left := s.play (r.ending told page remainder).run
    let left' := t.play (r.ending told' page remainder).run
    left.1 = left'.1 ∧ left.2.output = s.output ∧ left'.2.output = t.output ∧
      SameBut (r.logPlaces name s.directory \ s.target name remainder)
        left.2.directory left'.2.directory := by
  have ht := h.sameBut hst
  have hs₁ := h.wrote_forM_tell told
  have ht₁ := ht.wrote_forM_tell told'
  rw [← r.logPlaces_congr hst] at ht₁
  have hboth := (hs₁.directory.symm.trans hst).trans ht₁.directory
  unfold ending
  rw [play_run_bind, play_run_bind, play_forM_lift, play_forM_lift]
  dsimp only
  have htarget := Scene.target_congr hs₁.directory name remainder
  rw [r.logPlaces_congr hs₁.directory] at hboth
  obtain ⟨hresult, hout, hout', hdirectory⟩ :=
    (h.sameBut hs₁.directory).sameBut_writePage hboth page remainder
  rw [← r.logPlaces_congr hs₁.directory, ← htarget] at hdirectory
  exact ⟨hresult, hout.trans hs₁.output, hout'.trans ht₁.output, hdirectory⟩

/-! ## The two commands -/

/-- A listing runs its job, tells of it, writes what comes of it, and ends. -/
theorem play_list_eq (config : Config) (request : ListRequest)
    (hread : s.play (r.readPage request.input).run = (.ok page, t))
    (hrun : request.job.run (request.settings config) page = .ok (outcome, rest)) :
    ∃ told, s.play (r.list config request).run =
      (((t.play ((request.job.report (request.settings config) page outcome).forM
        fun e => r.tell e)).2.play (r.host.output (outcome.listing ++ "\n"))).2.play
          (r.ending told rest request.remainder).run) := by
  refine ⟨if outcome.removed != 0 then [{
      level := .info
      target := "rellist::cli::commands::list"
      message := "removed " ++ toString outcome.removed ++ " row(s)" }] else [], ?_⟩
  unfold Run.list ending
  rw [play_run_bind, hread]
  dsimp only
  rw [play_run_bind, play_runJob, hrun]
  dsimp only
  rw [play_run_bind]
  by_cases hremoved : outcome.removed != 0
  · rw [if_pos hremoved, if_pos hremoved]
    rfl
  · rw [if_neg hremoved, if_neg hremoved]
    rfl

/-- Announcing a job tells of it, and then writes its heading and its listing. -/
theorem play_announce (hhost : r.host = Scene.host name) (s : Scene) (settings : Settings)
    (stage : Job.Stage TreePage) :
    let told := (s.play ((stage.job.report settings stage.page stage.outcome).forM
      fun e => r.tell e)).2
    (s.play (r.announce settings stage)).2 =
      { told with
        output := (stage.outcome.listing ++ "\n") :: (stage.job.heading ++ told.output) } := by
  unfold announce Job.heading
  rw [hhost]
  cases stage.job.label <;> rfl

/-- A preset of one job runs it, announces it, and ends. -/
theorem play_preset_eq (config : Config) (remainder : Option String) {preset : Preset}
    (hpreset : config.preset title = .ok preset)
    (hjobs : preset.jobs = [job])
    (hread : s.play (r.readPage input).run = (.ok page, t))
    (hrun : job.run config.settings page = .ok (outcome, rest)) :
    ∃ told, s.play (r.preset config title input remainder).run =
      (t.play (r.announce config.settings ⟨job, page, outcome, rest⟩)).2.play
          (r.ending told rest remainder).run := by
  refine ⟨[{
      level := .info
      target := "rellist::cli::commands::preset"
      message := "preset finished"
      fields :=
        [("preset", Log.quotedField title), ("jobs", toString preset.jobs.length),
         ("removed", toString (0 + outcome.removed))] }], ?_⟩
  have hall : Job.runAll config.settings page [job] = ([⟨job, page, outcome, rest⟩], none) :=
    Job.runAll_cons_ok hrun
  unfold Run.preset ending
  rw [hpreset]
  dsimp only
  rw [play_run_bind, hread, hjobs]
  dsimp only
  rw [play_run_bind, runJobs_run, hall]
  rfl

/-- What keeps the page from being read, or the job from coming to its end, ends both. -/
theorem play_stop (o : Overrides) (remainder : Option String) {preset : Preset} {ending : Ending}
    (hpreset : config.preset title = .ok preset) (hjobs : preset.jobs = [job])
    (hstop : s.play (r.readPage input).run = (.error ending, t) ∨
      ∃ (page : TreePage) (stop : Job.Stop), s.play (r.readPage input).run = (.ok page, t) ∧
        job.run (config.override o).settings page = .error stop ∧ ending = .ofStop stop) :
    s.play (r.list config (job.request input o remainder)).run = (.error ending, t) ∧
      s.play (r.preset (config.override o) title input remainder).run = (.error ending, t) := by
  have hinput : (job.request input o remainder).input = input := rfl
  have hpreset' : (config.override o).preset title = .ok preset := hpreset
  unfold Run.list Run.preset
  rw [hpreset', hinput]
  dsimp only
  rw [play_run_bind, play_run_bind]
  rcases hstop with hread | ⟨page, stop, hread, hstop, rfl⟩
  · rw [hread]
    exact ⟨rfl, rfl⟩
  · rw [hread]
    dsimp only
    constructor
    · rw [play_run_bind, play_runJob, request_settings, run_request, hstop]
    · rw [play_run_bind, hjobs, runJobs_run, Job.runAll_cons_error hstop]
      rfl

/-- A page that has been read has its root. -/
theorem isSome_anchors?_of_page? (hpage : s.page? name input = some page) :
    (Page.anchors? page).isSome := by
  unfold Scene.page? at hpage
  split at hpage
  · obtain ⟨text, -, rfl⟩ := Option.map_eq_some_iff.1 hpage
    obtain ⟨html, attributes, children, -, hfirst⟩ :=
      TreePage.rooted_ofSource (String.ofList text)
    have hanchors : ∀ p : TreePage, Page.anchors? p = p.nodes.firstElement?.map (·.anchors) :=
      fun _ => rfl
    rw [hanchors, hfirst]
    rfl
  · cases hpage

/-- **A listing is a preset of one job.** For every job and whatever takes the place of settings, the
listing of the job and a preset of only this job, with these settings, end in the same way, with the
same error if there is one. They leave the same directory, the log aside unless the page is written
there. If the page can be read and the job does not fail, both write the same listing, the preset
behind the heading of the job, if it has one; otherwise they write nothing. -/
theorem list_eq_preset (h : r.Stands name s.directory) (config : Config) (o : Overrides) (job : Job)
    (title input : String) (remainder : Option String) (preset : Preset)
    (hpreset : config.preset title = .ok preset) (hjobs : preset.jobs = [job]) :
    let listed := s.play (r.list config (job.request input o remainder)).run
    let preset := s.play (r.preset (config.override o) title input remainder).run
    listed.1 = preset.1 ∧
      SameBut (r.logPlaces name s.directory \ s.target name remainder)
        listed.2.directory preset.2.directory ∧
      ((s.page? name input).isSome → (∀ failure, ¬ job.Fails failure) →
        ∃ listing : String,
          listed.2.output = (listing ++ "\n") :: s.output ∧
          preset.2.output = (listing ++ "\n") :: (job.heading ++ s.output)) ∧
      (s.page? name input = none ∨ (∃ failure, job.Fails failure) →
        listed.2.output = s.output ∧ preset.2.output = s.output) := by
  cases hpage : s.page? name input with
  | none =>
    obtain ⟨chain, hread⟩ := play_readPage_none h.host hpage
    obtain ⟨hlist, hpre⟩ := play_stop (r := r) o remainder hpreset hjobs (.inl hread)
    dsimp only
    rw [hlist, hpre]
    refine ⟨rfl, .refl _ _, fun hsome => ?_, fun _ => ⟨rfl, rfl⟩⟩
    cases hsome
  | some page =>
    obtain ⟨t, hread, hw⟩ := h.play_readPage hpage
    cases hrun : job.run (config.override o).settings page with
    | error stop =>
      obtain ⟨hlist, hpre⟩ := play_stop (r := r) o remainder hpreset hjobs
        (.inr ⟨page, stop, hread, hrun, rfl⟩)
      dsimp only
      rw [hlist, hpre]
      refine ⟨rfl, .refl _ _, fun _ hnone => ?_, fun _ => ⟨hw.output, hw.output⟩⟩
      obtain ⟨outcome, rest, hok⟩ := Job.run_ok_iff.2 ⟨hnone, isSome_anchors?_of_page? hpage⟩
      rw [hok] at hrun
      cases hrun
    | ok p =>
      obtain ⟨outcome, rest⟩ := p
      obtain ⟨told, hlist⟩ := play_list_eq (r := r) config (job.request input o remainder)
        hread hrun
      obtain ⟨told', hpre⟩ :=
        play_preset_eq (r := r) (config.override o) remainder hpreset hjobs hread hrun
      -- Both have told the same of the job.
      have hreport := (h.sameBut hw.directory).wrote_forM_tell
        (job.report (config.override o).settings page outcome)
      rw [← r.logPlaces_congr hw.directory] at hreport
      rw [request_settings, report_request, h.host, Scene.play_output,
        show (job.request input o remainder).remainder = remainder from rfl] at hlist
      rw [play_announce h.host] at hpre
      generalize (t.play ((job.report (config.override o).settings page outcome).forM
        fun e => r.tell e)).2 = t₁ at hreport hlist hpre
      have hw₁ := hw.trans hreport
      have hstands : r.Stands name t₁.directory := h.sameBut hw₁.directory
      have hout₁ : t₁.output = s.output := hw₁.output
      obtain ⟨hresult, hout, hout', hdirectory⟩ :=
        hstands.play_ending (s := { t₁ with output := (outcome.listing ++ "\n") :: t₁.output })
          (t := { t₁ with
            output := (outcome.listing ++ "\n") :: (job.heading ++ t₁.output) })
          (.refl _ _) told told' rest remainder
      have htarget : t₁.target name remainder = s.target name remainder :=
        (Scene.target_congr hw₁.directory name remainder).symm
      dsimp only at hlist hpre ⊢
      rw [hlist, hpre]
      refine ⟨hresult, ?_, fun _ _ => ⟨outcome.listing, ?_, ?_⟩, ?_⟩
      · rw [r.logPlaces_congr hw₁.directory, ← htarget]
        exact hdirectory
      · rw [hout, hout₁]
      · rw [hout', hout₁]
      · rintro (hnone | ⟨failure, hfails⟩)
        · cases hnone
        · rw [Job.run_failure_iff.2 hfails] at hrun
          cases hrun

/-- The preset of a job with a heading writes it in front of what the listing writes. -/
theorem list_eq_preset_heading :
    let page := "<ul><li><a href=/x>x</a></li><li><a href=/y>y</a></li></ul>"
    let job : Job :=
      { label := some "First", pattern := "x", style := .json, removesRows := true }
    let config : Config :=
      { record := "R", separator := "", rowLevels := 2, presets := [⟨"one", [job]⟩] }
    let o : Overrides := { levels := some 1 }
    let s : Scene := { directory := ⟨[(["page.html"], some (bytes page)), (["log"], some [])]⟩ }
    let r : Run (StateM Scene) :=
      { host := Scene.host "/here"
        environment := { arguments := [], configHome := "", stateHome := "" }
        filter := Log.Filter.standard, logFile := some "log" }
    ∃ result left left' listing,
      s.play (r.list config (job.request "page.html" o (some "page.html"))).run = (result, left) ∧
      s.play (r.preset (config.override o) "one" "page.html" (some "page.html")).run =
        (result, left') ∧
      left.output = [listing ++ "\n"] ∧ left'.output = [listing ++ "\n", "# First:\n"] := by
  intro page job config o s r
  have hstands : r.Stands "/here" s.directory := by
    refine ⟨rfl, fun path hp => ?_⟩
    obtain rfl : "log" = path := Option.some.inj hp
    exact ⟨["log"], [], by decide +kernel, by decide +kernel⟩
  have hfails : ∀ failure, ¬ job.Fails failure := by
    rintro failure ⟨url, cause, hurl, -⟩
    cases hurl
  obtain ⟨hresult, -, hlisted, -⟩ :=
    list_eq_preset hstands config o job "one" "page.html" (some "page.html") ⟨"one", [job]⟩
      (by decide +kernel) rfl
  obtain ⟨listing, hout, hout'⟩ := hlisted (by decide +kernel) hfails
  have hheading : job.heading = ["# First:\n"] := by decide +kernel
  rw [hheading] at hout'
  generalize s.play (r.list config (job.request "page.html" o (some "page.html"))).run = listed
    at hresult hout ⊢
  generalize s.play (r.preset (config.override o) "one" "page.html" (some "page.html")).run = preset
    at hresult hout' ⊢
  exact ⟨listed.1, listed.2, preset.2, listing, rfl, Prod.ext hresult.symm rfl, hout, hout'⟩

end Run

end ReleaseListing
