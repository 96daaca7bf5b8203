import ReleaseListing.Proofs.Page.Agreement
import ReleaseListing.Proofs.Scene.Play

/-!
# Presets that fail on the way

A job fails exactly if its base URL cannot be read (`Job.run_failure_iff`), whatever the page. So
the jobs of a preset come to their end up to the first one whose base URL cannot be read
(`Job.runAll_of_fails`). What has been written by then stays written, and the page is not
(`preset_fails_exactly`).
-/

namespace ReleaseListing

open Directory (SameBut)

namespace Job

variable {P : Type} [Page P] {job : Job} {settings : Settings} {page : P} {failure : Failure}

/-- The base URL of the job is there and cannot be read, which is the failure. -/
def Fails (job : Job) (failure : Failure) : Prop :=
  ∃ url cause, job.baseUrl = some url ∧ Url.parse url = .error cause ∧
    failure = .invalidBaseUrl url cause

theorem extraction_eq_error_iff : job.extraction = .error failure ↔ job.Fails failure := by
  unfold extraction Fails
  cases hb : job.baseUrl with
  | none => simp [bind, Except.bind, pure, Except.pure]
  | some url =>
    cases hp : Url.parse url with
    | error cause =>
      simp [readBaseUrl, hp, bind, Except.bind, Functor.map, Except.map, eq_comm]
    | ok base =>
      simp [readBaseUrl, hp, bind, Except.bind, pure, Except.pure, Functor.map, Except.map]

theorem run_failure_iff : job.run settings page = .error (.failure failure) ↔ job.Fails failure := by
  rw [← extraction_eq_error_iff]
  unfold run
  cases hx : job.extraction with
  | error f => simp
  | ok x => cases Page.anchors? page <;> simp

theorem run_ok_iff :
    (∃ outcome rest, job.run settings page = .ok (outcome, rest)) ↔
      (∀ failure, ¬ job.Fails failure) ∧ (Page.anchors? page).isSome := by
  simp only [← extraction_eq_error_iff]
  unfold run
  cases hx : job.extraction with
  | error f => simp
  | ok x => cases Page.anchors? page <;> simp

/-! ## Several jobs -/

variable {jobs : List Job}

/-- Jobs that do not fail all come to their end, as long as the page keeps its root. -/
theorem runAll_of_not_fails (hjobs : ∀ job ∈ jobs, ∀ failure, ¬ job.Fails failure)
    (hroot : (runAll settings page jobs).2 ≠ some .rootless) :
    (runAll settings page jobs).2 = none := by
  induction jobs generalizing page with
  | nil => rfl
  | cons job jobs ih =>
    obtain ⟨hjob, hjobs⟩ := List.forall_mem_cons.1 hjobs
    cases hr : job.run settings page with
    | error stop =>
      rw [runAll_cons_error hr] at hroot
      cases stop with
      | failure f => exact (hjob f (run_failure_iff.1 hr)).elim
      | rootless => exact (hroot rfl).elim
    | ok p =>
      rw [runAll_cons_ok hr] at hroot ⊢
      exact ih hjobs hroot

/-- Up to the first job that fails all jobs come to their end, and that one stops the run, as long
as the page keeps its root. -/
theorem runAll_of_fails {earlier later : List Job}
    (hearlier : ∀ job ∈ earlier, ∀ failure, ¬ job.Fails failure) (hjob : job.Fails failure)
    (hroot : (runAll settings page (earlier ++ job :: later)).2 ≠ some .rootless) :
    runAll settings page (earlier ++ job :: later) =
        ((runAll settings page earlier).1, some (.failure failure)) ∧
      (runAll settings page earlier).2 = none := by
  induction earlier generalizing page with
  | nil => exact ⟨runAll_cons_error (run_failure_iff.2 hjob), rfl⟩
  | cons first earlier ih =>
    obtain ⟨hfirst, hearlier⟩ := List.forall_mem_cons.1 hearlier
    rw [List.cons_append] at hroot ⊢
    cases hr : first.run settings page with
    | error stop =>
      rw [runAll_cons_error hr] at hroot
      cases stop with
      | failure f => exact (hfirst f (run_failure_iff.1 hr)).elim
      | rootless => exact (hroot rfl).elim
    | ok p =>
      rw [runAll_cons_ok hr] at hroot ⊢
      obtain ⟨hall, hnone⟩ := ih hearlier hroot
      rw [runAll_cons_ok hr, hall]
      exact ⟨rfl, hnone⟩

end Job

namespace Run

open Job (Stage runAll lastPage)

variable {r : Run (StateM Scene)} {s : Scene} {name title input : String} {config : Config}
  {preset : Preset} {page : TreePage} {remainder : Option String}

/-- A preset whose page can be read writes the blocks of the jobs that come to their end, and then
the page, unless a job has stopped it. -/
theorem Stands.play_preset (h : r.Stands name s.directory)
    (hpreset : config.preset title = .ok preset) (hpage : s.page? name input = some page)
    (remainder : Option String) :
    let done := runAll config.settings page preset.jobs
    let played := s.play (r.preset config title input remainder).run
    let rewritten := s.rewritten name (lastPage page done.1) remainder
    played.2.output = (done.1.flatMap Stage.block).reverse ++ s.output ∧
      match done.2 with
      | some stop =>
        played.1 = .error (.ofStop stop) ∧
          SameBut (r.logPlaces name s.directory) s.directory played.2.directory
      | none =>
        played.1 = rewritten.map (fun _ => ()) ∧
          SameBut (r.logPlaces name s.directory) (rewritten.toOption.getD s.directory)
            played.2.directory := by
  obtain ⟨s₁, hread, hw₁⟩ := h.play_readPage hpage
  have h₁ := h.sameBut hw₁.directory
  obtain ⟨s₂, hjobs, hw₂⟩ := h₁.play_runJobs config.settings page preset.jobs
  rw [← r.logPlaces_congr hw₁.directory] at hw₂
  have hw := hw₁.trans hw₂
  unfold Run.preset
  rw [hpreset]
  dsimp only
  rw [play_run_bind, hread]
  dsimp only
  rw [play_run_bind, hjobs]
  cases (runAll config.settings page preset.jobs).2 with
  | some stop => exact ⟨hw.output, rfl, hw.directory⟩
  | none =>
    dsimp only
    rw [play_run_bind, play_lift]
    dsimp only
    have htold := (h.sameBut hw.directory).wrote_tell {
      level := .info
      target := "rellist::cli::commands::preset"
      message := "preset finished"
      fields :=
        [("preset", Log.quotedField title), ("jobs", toString preset.jobs.length),
         ("removed", toString ((runAll config.settings page preset.jobs).1.foldl
            (fun n stage => n + stage.outcome.removed) 0))] }
    rw [← r.logPlaces_congr hw.directory] at htold
    have hw₃ := hw.trans htold
    obtain ⟨left, hwrite, hout, hdirectory⟩ := h.play_writePage hw₃
      (lastPage page (runAll config.settings page preset.jobs).1) remainder
    rw [hwrite]
    refine ⟨hout.trans ?_, rfl, hdirectory⟩
    rw [hw₃.output, List.append_nil]
    rfl

/-- A preset that is not there, or whose page cannot be read, leaves everything as it is. -/
theorem play_preset_unknown (s : Scene) (hpreset : ∀ preset ∈ config.presets, preset.name ≠ title) :
    s.play (r.preset config title input remainder).run =
      (.error (.ofFailure (.unknownPreset title)), s) := by
  have hfind : config.presets.find? (·.name == title) = none := by
    rw [List.find?_eq_none]
    intro preset hmem
    simpa using hpreset preset hmem
  have hnone : config.preset title = .error (.unknownPreset title) := by
    unfold Config.preset
    rw [hfind]
  unfold Run.preset
  rw [hnone]
  rfl

theorem play_preset_unread (hhost : r.host = Scene.host name) (hpage : s.page? name input = none) :
    ∃ ending, s.play (r.preset config title input remainder).run = (.error ending, s) := by
  unfold Run.preset
  cases config.preset title with
  | error failure => exact ⟨_, rfl⟩
  | ok preset =>
    obtain ⟨chain, hread⟩ := play_readPage_none hhost hpage
    dsimp only
    rw [play_run_bind, hread]
    exact ⟨_, rfl⟩

/-- **Failing on the way is exact.** A job fails exactly if its base URL is there and cannot be read,
and then the page stays as it is; it never fails for want of matches. A preset that is not there, or
whose page cannot be read, leaves everything as it is. A preset none of whose jobs fails writes the
block of every job and then the page that they leave, and ends well unless that page cannot be
written. Otherwise it writes the blocks of the jobs before the first one that fails, ends with its
failure, and writes no page: of the directory only the log has changed. -/
theorem preset_fails_exactly :
    (∀ {P : Type} [Page P] (job : Job) (settings : Settings) (page : P),
      (∀ failure, job.run settings page = .error (.failure failure) ↔ job.Fails failure) ∧
      (∀ failure, job.Fails failure →
        (Request.run job settings).serve page = (.stop (.failure failure), page)) ∧
      ((∃ outcome rest, job.run settings page = .ok (outcome, rest)) ↔
        (∀ failure, ¬ job.Fails failure) ∧ (Page.anchors? page).isSome) ∧
      ((∀ failure, ¬ job.Fails failure) → (Page.anchors? page).isSome → job.listed page = [] →
        ∃ outcome rest, job.run settings page = .ok (outcome, rest) ∧ outcome.matched = 0)) ∧
    ∀ (r : Run (StateM Scene)) (name : String) (s : Scene), r.Stands name s.directory →
      ∀ (config : Config) (title input : String) (remainder : Option String),
      let played := s.play (r.preset config title input remainder).run
      let log := r.logPlaces name s.directory
      ((∀ preset ∈ config.presets, preset.name ≠ title) →
        played = (.error (.ofFailure (.unknownPreset title)), s)) ∧
      (s.page? name input = none → ∃ ending, played = (.error ending, s)) ∧
      ∀ (preset : Preset) (page : TreePage),
        config.preset title = .ok preset → s.page? name input = some page →
        let done := runAll config.settings page preset.jobs
        done.2 ≠ some .rootless →
        ((∀ job ∈ preset.jobs, ∀ failure, ¬ job.Fails failure) →
          let rewritten := s.rewritten name (lastPage page done.1) remainder
          done.1.map (·.job) = preset.jobs ∧
          played.2.output = (done.1.flatMap Stage.block).reverse ++ s.output ∧
          played.1 = rewritten.map (fun _ => ()) ∧
          SameBut log (rewritten.toOption.getD s.directory) played.2.directory) ∧
        ∀ (earlier : List Job) (job : Job) (later : List Job) (failure : Failure),
          preset.jobs = earlier ++ job :: later →
          (∀ job ∈ earlier, ∀ failure, ¬ job.Fails failure) → job.Fails failure →
          done.1.map (·.job) = earlier ∧
          played.2.output = (done.1.flatMap Stage.block).reverse ++ s.output ∧
          played.1 = .error (.ofFailure failure) ∧
          SameBut log s.directory played.2.directory := by
  refine ⟨?_, ?_⟩
  · intro P _ job settings page
    refine ⟨fun failure => Job.run_failure_iff, fun failure hfails => ?_, Job.run_ok_iff, ?_⟩
    · rw [Request.serve, Job.run_failure_iff.2 hfails]
    · intro hjob hroot hlisted
      obtain ⟨outcome, rest, hrun⟩ := Job.run_ok_iff.2 ⟨hjob, hroot⟩
      obtain ⟨x, -, -, -, hmatched, -⟩ := Job.run_ok hrun
      exact ⟨outcome, rest, hrun, by rw [hmatched, hlisted, List.length_nil]⟩
  · intro r name s h config title input remainder
    refine ⟨play_preset_unknown s, play_preset_unread h.host, ?_⟩
    intro preset page hpreset hpage
    have hplay := h.play_preset hpreset hpage remainder
    dsimp only at hplay ⊢
    intro hroot
    refine ⟨fun hjobs => ?_, fun earlier job later failure hsplit hearlier hjob => ?_⟩
    · have hnone := Job.runAll_of_not_fails hjobs hroot
      rw [hnone] at hplay
      exact ⟨Job.runAll_jobs_of_none hnone, hplay⟩
    · rw [hsplit] at hroot hplay ⊢
      obtain ⟨hstages, hnone⟩ := Job.runAll_of_fails hearlier hjob hroot
      rw [hstages] at hplay ⊢
      exact ⟨Job.runAll_jobs_of_none hnone, hplay⟩

/-- A job that removes its rows comes to its end; the next one has a base URL that cannot be read,
and the page stays as it is. -/
theorem preset_fails_exactly_second :
    let page := "<ul><li><a href=/x>x</a></li><li><a href=/y>y</a></li></ul>"
    let config : Config := {
      record := "R", separator := "", rowLevels := 1
      presets := [⟨"two", [
        { label := some "First", pattern := "x", style := .json, removesRows := true },
        { label := some "Second", pattern := "y", baseUrl := some "/base" },
        { pattern := "y" }]⟩] }
    let s : Scene := { directory := ⟨[(["page.html"], some (bytes page)), (["log"], some [])]⟩ }
    let r : Run (StateM Scene) :=
      { host := Scene.host "/here"
        environment := { arguments := [], configHome := "", stateHome := "" }
        filter := Log.Filter.standard, logFile := some "log" }
    ∃ left, s.play (r.preset config "two" "page.html" (some "page.html")).run =
        (.error (.failed ["invalid base URL `/base`", "relative URL without a base"]), left) ∧
      left.output = ["[\x7b\"name\":\"x\",\"url\":\"/x\"\x7d]\n", "# First:\n"] ∧
      left.directory.kindAt ["page.html"] = .file (bytes page) := by
  intro page config s r
  have hlog : s.directory.locateFile "/here" "log" = .ok ["log"] := by decide +kernel
  have hstands : r.Stands "/here" s.directory := by
    refine ⟨rfl, fun path hp => ?_⟩
    obtain rfl : "log" = path := Option.some.inj hp
    exact ⟨_, [], hlog, by decide +kernel⟩
  have hplace : ["page.html"] ∉ r.logPlaces "/here" s.directory := by
    rintro ⟨path, hp, hl⟩
    obtain rfl : "log" = path := Option.some.inj hp
    rw [hlog] at hl
    revert hl
    decide
  have hfirst : ∀ job ∈ (config.presets.flatMap (·.jobs)).take 1, ∀ failure, ¬ job.Fails failure := by
    rintro job hjob failure ⟨url, cause, hurl, -⟩
    obtain rfl : job = _ := List.mem_singleton.1 hjob
    cases hurl
  obtain ⟨-, houtput, hresult, hdirectory⟩ :=
    ((preset_fails_exactly.2 r "/here" s hstands config "two" "page.html" (some "page.html")).2.2
      ⟨"two", config.presets.flatMap (·.jobs)⟩ (.ofSource page) (by decide +kernel)
      (by decide +kernel) (by decide +kernel)).2
      _ _ _ (.invalidBaseUrl "/base" .relativeWithoutBase) rfl hfirst
      ⟨"/base", .relativeWithoutBase, rfl, by decide +kernel, rfl⟩
  refine ⟨_, Prod.ext hresult rfl, ?_, ?_⟩
  · rw [houtput]
    decide +kernel
  · rw [← hdirectory.kindAt hplace]
    decide +kernel

end Run

end ReleaseListing
