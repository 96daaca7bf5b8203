import ReleaseListing.Job
import ReleaseListing.Program

/-!
# Jobs that run one after the other

`Job.runAll` runs jobs on one page and keeps a record of each job that comes to its end
(`Job.Stage`), and why the next one does not, if there is one. The program runs the jobs of a
preset in this way (`runJobs_run`).
-/

namespace ReleaseListing

namespace Job

/-- A job that has come to its end: the page in front of it, what it comes to and the page that it
leaves. -/
structure Stage (P : Type) where
  job : Job
  page : P
  outcome : Outcome
  rest : P
  deriving DecidableEq

section

variable {P : Type} [Page P]

/-- Runs jobs one after the other, each on the page that the one before it leaves: the jobs that
come to their end, and why the next one does not. -/
def runAll (settings : Settings) : P → List Job → List (Stage P) × Option Stop
  | _, [] => ([], none)
  | page, job :: jobs =>
    match job.run settings page with
    | .error stop => ([], some stop)
    | .ok (outcome, rest) =>
      let later := runAll settings rest jobs
      (⟨job, page, outcome, rest⟩ :: later.1, later.2)

/-- The anchors of a page that a job lists. -/
def listed (job : Job) (page : P) : List PlacedAnchor :=
  Page.select job.pattern ((Page.anchors? page).getD [])

/-- The page behind a number of stages. -/
def lastPage (page : P) (stages : List (Stage P)) : P :=
  (stages.getLast?.map (·.rest)).getD page

variable {job : Job} {settings : Settings} {page rest : P} {outcome : Outcome} {jobs : List Job}

omit [Page P] in
theorem lastPage_cons (page : P) (s : Stage P) (stages : List (Stage P)) :
    lastPage page (s :: stages) = lastPage s.rest stages := by
  cases stages with
  | nil => rfl
  | cons t later => simp [lastPage, List.getLast?_cons]

/-! ## One job -/

/-- A job has its entries exactly if its base URL is absent or can be read. -/
theorem extraction_isOk_iff :
    (∃ x, job.extraction = .ok x) ↔
      ∀ url, job.baseUrl = some url → ∃ base, readBaseUrl url = .ok base := by
  unfold extraction
  cases hb : job.baseUrl with
  | none => simp [bind, Except.bind, pure, Except.pure]
  | some url =>
    cases hr : readBaseUrl url with
    | error e => simp [bind, Except.bind, hr, Functor.map, Except.map]
    | ok base =>
      simp [bind, Except.bind, pure, Except.pure, hr, Functor.map, Except.map]

theorem extraction_pattern {x : Extraction} (h : job.extraction = .ok x) :
    x.pattern = job.pattern := by
  unfold extraction at h
  cases hm : job.baseUrl.mapM readBaseUrl with
  | error e => simp [hm, bind, Except.bind] at h
  | ok base =>
    simp only [hm, bind, Except.bind, pure, Except.pure, Except.ok.injEq] at h
    rw [← h]

/-- A job whose base URL can be read comes to its end on a page that has its root. -/
theorem run_eq (settings : Settings) {x : Extraction} {anchors : List PlacedAnchor}
    (hx : job.extraction = .ok x) (ha : Page.anchors? page = some anchors) :
    let after :=
      if job.removesRows then Page.removeRows (x.nodes anchors) settings.rowLevels page
      else (page, 0)
    job.run settings page = .ok
      ({ listing := Listing.render (x.entries anchors) (job.format settings)
         matched := (x.entries anchors).length
         removed := after.2 }, after.1) := by
  simp [run, hx, ha]

/-- What a job that comes to its end does. -/
theorem run_ok (h : job.run settings page = .ok (outcome, rest)) :
    ∃ x, job.extraction = .ok x ∧ (Page.anchors? page).isSome ∧
      outcome.listing = Listing.render
        ((job.listed page).map fun a => x.entry a.anchor) (job.format settings) ∧
      outcome.matched = (job.listed page).length ∧
      (rest, outcome.removed) =
        if job.removesRows then
          Page.removeRows ((job.listed page).map (·.node)) settings.rowLevels page
        else (page, 0) := by
  cases hx : job.extraction with
  | error e => simp [run, hx] at h
  | ok x =>
    cases ha : Page.anchors? page with
    | none => simp [run, hx, ha] at h
    | some anchors =>
      rw [run_eq settings hx ha, Except.ok.injEq, Prod.mk.injEq] at h
      obtain ⟨rfl, rfl⟩ := h
      have hl : x.matched anchors = job.listed page := by
        simp [Extraction.matched, listed, ha, extraction_pattern hx]
      refine ⟨x, rfl, rfl, ?_, ?_, ?_⟩
      · simp [Extraction.entries, hl]
      · simp [Extraction.entries, hl]
      · simp [Extraction.nodes, hl]

/-- A job whose base URL can be read fails exactly on a page that has lost its root. -/
theorem run_error_iff (hx : ∃ x, job.extraction = .ok x) {stop : Stop} :
    job.run settings page = .error stop ↔ Page.anchors? page = none ∧ stop = .rootless := by
  obtain ⟨x, hx⟩ := hx
  cases ha : Page.anchors? page with
  | none => simp [run, hx, ha, eq_comm]
  | some anchors => simp [run_eq settings hx ha]

/-! ## All jobs -/

theorem runAll_cons_ok (h : job.run settings page = .ok (outcome, rest)) :
    runAll settings page (job :: jobs) =
      (⟨job, page, outcome, rest⟩ :: (runAll settings rest jobs).1,
        (runAll settings rest jobs).2) := by
  simp [runAll, h]

theorem runAll_cons_error {stop : Stop} (h : job.run settings page = .error stop) :
    runAll settings page (job :: jobs) = ([], some stop) := by
  simp [runAll, h]

/-- The stages are those of the first jobs, of all if nothing stops the run. -/
theorem runAll_jobs (settings : Settings) (page : P) (jobs : List Job) :
    (runAll settings page jobs).1.map (·.job) =
        jobs.take (runAll settings page jobs).1.length ∧
      ((runAll settings page jobs).2 = none ↔
        (runAll settings page jobs).1.length = jobs.length) := by
  induction jobs generalizing page with
  | nil => simp [runAll]
  | cons job jobs ih =>
    cases hr : job.run settings page with
    | error stop => simp [runAll_cons_error hr]
    | ok p => simp [runAll_cons_ok hr, ih p.2]

/-- A stage is that of the job in its place. -/
theorem runAll_job {earlier later : List (Stage P)} {s : Stage P}
    (h : (runAll settings page jobs).1 = earlier ++ s :: later) :
    jobs[earlier.length]? = some s.job := by
  have hget : ((runAll settings page jobs).1.map (·.job))[earlier.length]? = some s.job := by
    rw [h]
    simp
  rw [(runAll_jobs settings page jobs).1, List.getElem?_take] at hget
  split at hget
  · exact hget
  · cases hget

/-- A run that nothing stops has a stage of every job. -/
theorem runAll_jobs_of_none (h : (runAll settings page jobs).2 = none) :
    (runAll settings page jobs).1.map (·.job) = jobs := by
  obtain ⟨hjobs, hlen⟩ := runAll_jobs settings page jobs
  rw [hjobs, hlen.1 h, List.take_length]

end

end Job

/-! ## In the program -/

namespace Run

open Job (Stage runAll lastPage)

variable {m : Type → Type} [Monad m]

/-- What the program tells and writes of a job that has come to its end. -/
def announce (r : Run m) (settings : Settings) (s : Stage TreePage) : m Unit := do
  (s.job.report settings s.page s.outcome).forM fun e => r.tell e
  match s.job.label with
  | some label => r.host.output ("# " ++ label ++ ":" ++ "\n")
  | none => pure ()
  r.host.output (s.outcome.listing ++ "\n")

theorem forM_lift_run [LawfulMonad m] {α ε : Type} (f : α → m Unit) (xs : List α) :
    ExceptT.run (forM xs fun x => (liftM (f x) : ExceptT ε m Unit)) = do
      forM xs f
      return .ok () := by
  induction xs with
  | nil => simp
  | cons x xs ih => simp [ExceptT.run_bind, ih]

/-- The program announces the jobs that come to their end, and then goes on with the page that they
leave, or ends as the next job does. -/
theorem runJobs_run [LawfulMonad m] (r : Run m) (settings : Settings) (page : TreePage)
    (removed : Nat) (jobs : List Job) :
    (r.runJobs settings page removed jobs).run = do
      (runAll settings page jobs).1.forM (r.announce settings)
      return match (runAll settings page jobs).2 with
        | some stop => .error (.ofStop stop)
        | none =>
          .ok (lastPage page (runAll settings page jobs).1,
            (runAll settings page jobs).1.foldl (fun n s => n + s.outcome.removed) removed) := by
  induction jobs generalizing page removed with
  | nil => simp [runJobs, runAll, lastPage]
  | cons job jobs ih =>
    cases hr : job.run settings page with
    | error stop =>
      simp [runJobs, runJob, hr, Job.runAll_cons_error hr]
    | ok p =>
      obtain ⟨outcome, rest⟩ := p
      simp only [Job.runAll_cons_ok hr, Job.lastPage_cons, List.foldl_cons]
      have hlater := ih rest (removed + outcome.removed)
      cases hl : job.label with
      | none =>
        simp [runJobs, runJob, announce, hr, hl, putLine, ExceptT.run_bind, forM_lift_run, hlater]
      | some label =>
        simp [runJobs, runJob, announce, hr, hl, putLine, ExceptT.run_bind, forM_lift_run, hlater]

end Run

end ReleaseListing
