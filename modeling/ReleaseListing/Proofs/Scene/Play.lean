import ReleaseListing.Proofs.Directory.Places
import ReleaseListing.Proofs.Job.Stages

/-!
# Runs in a directory in memory

`Scene.play` is what an action gives in a scene and the scene that it leaves. A run whose log
stands (`Run.Stands`, which holds of every run that has been started, `stands_start`) writes what it
says it writes, and beyond that it only tells: it leaves the directory as it was but for the log
(`Scene.Wrote`). There is one lemma for each part of a run: reading a page, announcing the stages of
jobs, writing a page.
-/

namespace ReleaseListing

open Directory (SameBut Extends)

namespace Scene

variable {α β : Type} {s t u : Scene} {name path : String} {bytes : List UInt8}

/-- What an action gives in a scene, and the scene that it leaves. -/
def play (s : Scene) (action : StateM Scene α) : α × Scene := action.run s

@[simp] theorem play_pure (s : Scene) (a : α) : s.play (pure a) = (a, s) := rfl

@[simp] theorem play_bind (s : Scene) (action : StateM Scene α) (next : α → StateM Scene β) :
    s.play (action >>= next) = (s.play action).2.play (next (s.play action).1) := rfl

@[simp] theorem play_map (s : Scene) (f : α → β) (action : StateM Scene α) :
    s.play (f <$> action) = (f (s.play action).1, (s.play action).2) := rfl

@[simp] theorem play_discard (s : Scene) (action : StateM Scene α) :
    s.play (discard action) = ((), (s.play action).2) := rfl

/-! ## The host -/

@[simp] theorem play_change (s : Scene) (f : Directory → Except HostError Directory) :
    s.play (change f) =
      match f s.directory with
      | .ok directory => (.ok (), { s with directory })
      | .error e => (.error e, s) := by
  show (match f s.directory with
    | .ok directory => _
    | .error e => _ : StateM Scene (Except HostError Unit)).run s = _
  cases f s.directory <;> rfl

@[simp] theorem play_read :
    s.play ((host name).read path) = (s.directory.read name path, s) := rfl

@[simp] theorem play_time :
    s.play (host name).time = ("2000-01-01T00:00:00.000000Z", s) := rfl

@[simp] theorem play_input : s.play (host name).input = (.ok s.input, s) := rfl

@[simp] theorem play_output {text : String} :
    s.play ((host name).output text) = ((), { s with output := text :: s.output }) := rfl

@[simp] theorem play_complain {text : String} :
    s.play ((host name).complain text) = ((), { s with complaints := text :: s.complaints }) := rfl

@[simp] theorem play_write :
    s.play ((host name).write path bytes) =
      match s.directory.change name path (fun _ => bytes) with
      | .ok directory => (.ok (), { s with directory })
      | .error e => (.error e, s) :=
  play_change s _

@[simp] theorem play_append :
    s.play ((host name).append path bytes) =
      match s.directory.change name path (· ++ bytes) with
      | .ok directory => (.ok (), { s with directory })
      | .error e => (.error e, s) :=
  play_change s _

/-- What is added to a file in two scenes adds nothing to what differs in them. -/
theorem sameBut_append {places : Set Location} (h : SameBut places s.directory t.directory)
    (name path : String) (bytes : List UInt8) :
    SameBut places (s.play ((host name).append path bytes)).2.directory
      (t.play ((host name).append path bytes)).2.directory := by
  rw [play_append, play_append]
  cases hs : s.directory.change name path (· ++ bytes) with
  | error e =>
    rw [h.change_error hs]
    exact h
  | ok d =>
    obtain ⟨e, ht⟩ := h.change_ok hs (· ++ bytes)
    rw [ht]
    exact h.change_alike hs ht

@[simp] theorem play_makeDirectories :
    s.play ((host name).makeDirectories path) =
      match s.directory.makeDirectories name path with
      | .ok directory => (.ok (), { s with directory })
      | .error e => (.error e, s) :=
  play_change s _

/-! ## Scenes that follow each other -/

/-- `t` follows on `s`: `written` has been written, and of the directory only the files at `places`
may have other bytes. -/
structure Wrote (places : Set Location) (written : List String) (s t : Scene) : Prop where
  input : t.input = s.input
  output : t.output = written.reverse ++ s.output
  directory : SameBut places s.directory t.directory

namespace Wrote

variable {places : Set Location} {first second : List String}

theorem refl (places : Set Location) (s : Scene) : Wrote places [] s s :=
  ⟨rfl, rfl, .refl _ _⟩

theorem trans (h : Wrote places first s t) (h' : Wrote places second t u) :
    Wrote places (first ++ second) s u where
  input := h'.input.trans h.input
  output := by rw [h'.output, h.output, List.reverse_append, List.append_assoc]
  directory := h.directory.trans h'.directory

end Wrote

/-- Writing a text. -/
theorem wrote_output (places : Set Location) (s : Scene) (name text : String) :
    Wrote places [text] s (s.play ((host name).output text)).2 :=
  ⟨rfl, rfl, .refl _ _⟩

/-! ## The page of a scene -/

/-- The bytes that a page is read from. -/
def source (s : Scene) (name path : String) : Except HostError (List UInt8) :=
  if Run.isInput path then .ok s.input else s.directory.read name path

/-- The page that a path leads to; none if it cannot be read. -/
def page? (s : Scene) (name path : String) : Option TreePage :=
  match s.source name path with
  | .ok data => (Text.Utf8.decode? data).map fun text => .ofSource (String.ofList text)
  | .error _ => none

end Scene

/-- The directory behind writing a page, if there is a place for it; why it cannot be written, if
it cannot. -/
def Scene.rewritten (s : Scene) (name : String) (page : TreePage) :
    Option String → Except Ending Directory
  | none => .ok s.directory
  | some path =>
    (s.directory.change name path fun _ => Run.bytes page.render).mapError
      (.ofHost ("write rewritten page: " ++ path))

/-- The place that a page is written to. -/
def Scene.target (s : Scene) (name : String) (remainder : Option String) : Set Location :=
  {l | ∃ path, remainder = some path ∧ s.directory.locateFile name path = .ok l}

theorem Scene.target_congr {places : Set Location} {s t : Scene}
    (h : SameBut places s.directory t.directory) (name : String) (remainder : Option String) :
    s.target name remainder = t.target name remainder := by
  unfold Scene.target
  simp only [h.locateFile]

/-- In two directories that are alike a page is written or not, for the same reason, and where it is
written nothing differs any more. -/
theorem Scene.rewritten_congr {places : Set Location} {s t : Scene}
    (h : SameBut places s.directory t.directory) (name : String) (page : TreePage)
    (remainder : Option String) :
    ((s.rewritten name page remainder).map fun _ => ()) =
        ((t.rewritten name page remainder).map fun _ => ()) ∧
      SameBut (places \ s.target name remainder)
        ((s.rewritten name page remainder).toOption.getD s.directory)
        ((t.rewritten name page remainder).toOption.getD t.directory) := by
  cases remainder with
  | none =>
    refine ⟨rfl, h.mono ?_⟩
    rintro l hl
    exact ⟨hl, by rintro ⟨path, hp, -⟩; cases hp⟩
  | some path =>
    unfold Scene.rewritten
    dsimp only
    cases hs : s.directory.change name path (fun _ => Run.bytes page.render) with
    | error e =>
      rw [h.change_error hs]
      refine ⟨rfl, fun l => ?_⟩
      rcases h l with hk | ⟨hmem, hfile, hfile'⟩
      · exact .inl hk
      · refine .inr ⟨⟨hmem, ?_⟩, hfile, hfile'⟩
        -- A file that is there can be written.
        rintro ⟨path', hp, hl⟩
        obtain rfl : path = path' := Option.some.inj hp
        obtain ⟨bytes, hbytes⟩ := hfile
        rcases Directory.change_eq_error_iff.1 hs with he | ⟨-, k, hk, hdir⟩
        · rw [hl] at he
          cases he
        · obtain rfl : l = k := by simpa [hl] using hk
          rw [hbytes] at hdir
          cases hdir
    | ok d =>
      obtain ⟨e, ht⟩ := h.change_ok hs fun _ => Run.bytes page.render
      obtain ⟨l, hl, -⟩ := Directory.exists_locateFile_of_change hs
      rw [ht]
      refine ⟨rfl, (h.write hl hs ht).mono ?_⟩
      rintro k ⟨hk, hne⟩
      refine ⟨hk, ?_⟩
      rintro ⟨path', hp, hl'⟩
      obtain rfl : path = path' := Option.some.inj hp
      rw [hl] at hl'
      exact hne (Except.ok.inj hl').symm

/-- What is written of a job that has come to its end: its heading, if it has one, and its
listing. -/
def Job.Stage.block {P : Type} (stage : Job.Stage P) : List String :=
  (stage.job.label.map fun label => "# " ++ label ++ ":" ++ "\n").toList ++
    [stage.outcome.listing ++ "\n"]

namespace Run

open Job (Stage runAll lastPage)
open Scene (Wrote)

section

variable {m : Type → Type}

/-- The place of the log. -/
def logPlaces (r : Run m) (name : String) (d : Directory) : Set Location :=
  {l | ∃ path, r.logFile = some path ∧ d.locateFile name path = .ok l}

theorem logPlaces_congr (r : Run m) {name : String} {places : Set Location} {d e : Directory}
    (h : SameBut places d e) : r.logPlaces name d = r.logPlaces name e := by
  unfold logPlaces
  simp only [h.locateFile]

end

/-- The run is one in a directory in memory, and the file of its log is there. -/
structure Stands (r : Run (StateM Scene)) (name : String) (d : Directory) : Prop where
  host : r.host = Scene.host name
  log : ∀ path, r.logFile = some path →
    ∃ l bytes, d.locateFile name path = .ok l ∧ d.kindAt l = .file bytes

variable {r : Run (StateM Scene)} {s t : Scene} {d e : Directory} {name path : String}

/-! ## Parts that may end a run -/

/-- What comes next is done in the scene that is there, unless the run has ended. -/
theorem play_run_bind {α β : Type} (s : Scene) (x : RunM (StateM Scene) α)
    (next : α → RunM (StateM Scene) β) :
    s.play (x >>= next).run =
      match (s.play x.run).1 with
      | .ok a => (s.play x.run).2.play (next a).run
      | .error ending => (.error ending, (s.play x.run).2) := by
  rw [ExceptT.run_bind, Scene.play_bind]
  cases (s.play x.run).1 <;> rfl

/-- What only acts does not end a run. -/
theorem play_lift {α : Type} (s : Scene) (action : StateM Scene α) :
    s.play (liftM action : RunM (StateM Scene) α).run = (.ok (s.play action).1, (s.play action).2) :=
  rfl

theorem play_forM_lift (s : Scene) (events : List Log.Event) :
    s.play (events.forM fun e => (r.tell e : RunM (StateM Scene) Unit)).run =
      (.ok (), (s.play (events.forM fun e => r.tell e)).2) := by
  rw [show (events.forM fun e => (r.tell e : RunM (StateM Scene) Unit)).run = _ from
    forM_lift_run r.tell events]
  rfl

/-- A job is run, and told of if it comes to its end. -/
theorem play_runJob (s : Scene) (job : Job) (settings : Settings) (page : TreePage) :
    s.play (r.runJob job settings page).run =
      match job.run settings page with
      | .error stop => (.error (.ofStop stop), s)
      | .ok (outcome, rest) =>
        (.ok (outcome, rest),
          (s.play ((job.report settings page outcome).forM fun e => r.tell e)).2) := by
  unfold runJob
  cases job.run settings page with
  | error stop => rfl
  | ok p =>
    dsimp only
    rw [play_run_bind, play_forM_lift]
    rfl

theorem play_orEnd {α : Type} (s : Scene) (ending : HostError → Ending)
    (action : StateM Scene (Except HostError α)) :
    s.play (orEnd ending action).run =
      ((s.play action).1.mapError ending, (s.play action).2) := by
  unfold orEnd
  rw [play_run_bind, play_lift]
  dsimp only
  cases (s.play action).1 <;> rfl

/-- What reading a page does: it reads and decodes the bytes, and tells how many there are. -/
theorem play_readPage_eq (hhost : r.host = Scene.host name) (s : Scene) (path : String) :
    let doing := if isInput path then "read page from stdin" else "read page: " ++ path
    ∃ event : List UInt8 → Log.Event, s.play (r.readPage path).run =
      match s.source name path with
      | .error e => (.error (.ofHost doing e), s)
      | .ok data =>
        match Text.Utf8.decode? data with
        | none => (.error (.failed [doing, "stream did not contain valid UTF-8"]), s)
        | some text => (.ok (.ofSource (String.ofList text)), (s.play (r.tell (event data))).2) := by
  refine ⟨fun data =>
    { level := .debug
      target := "rellist::cli::commands::input"
      message := "parsing page from " ++ path
      fields := [("bytes", toString data.length)] }, ?_⟩
  have hdata : s.play (if isInput path then r.host.input else r.host.read path) =
      (s.source name path, s) := by
    rw [hhost]
    unfold Scene.source
    split <;> rfl
  unfold readPage
  rw [play_run_bind, play_orEnd, hdata]
  cases s.source name path with
  | error e => rfl
  | ok data =>
    dsimp only [Except.mapError]
    cases Text.Utf8.decode? data <;> rfl

namespace Stands

theorem sameBut {places : Set Location} (h : r.Stands name d) (hs : SameBut places d e) :
    r.Stands name e where
  host := h.host
  log path hp := by
    obtain ⟨l, bytes, hl, hk⟩ := h.log path hp
    obtain ⟨bytes', hk'⟩ := hs.exists_file ⟨bytes, hk⟩
    exact ⟨l, bytes', hs.locateFile .. ▸ hl, hk'⟩

theorem of_extends (h : r.Stands name d) (he : Extends d e) : r.Stands name e where
  host := h.host
  log path hp := by
    obtain ⟨l, bytes, hl, hk⟩ := h.log path hp
    obtain ⟨bytes', hk'⟩ := he.file ⟨bytes, hk⟩
    exact ⟨l, bytes', he.locateFile hl, hk'⟩

theorem logPlaces_of_extends (h : r.Stands name d) (he : Extends d e) :
    r.logPlaces name d = r.logPlaces name e := by
  ext l
  constructor
  · rintro ⟨path, hp, hl⟩
    exact ⟨path, hp, he.locateFile hl⟩
  · rintro ⟨path, hp, hl⟩
    obtain ⟨k, bytes, hk, -⟩ := h.log path hp
    obtain rfl : l = k := by simpa [hl] using he.locateFile hk
    exact ⟨path, hp, hk⟩

/-! ## Telling -/

/-- Telling changes nothing but the log. -/
theorem wrote_tell (h : r.Stands name s.directory) (e : Log.Event) :
    Wrote (r.logPlaces name s.directory) [] s (s.play (r.tell e)).2 := by
  unfold Run.tell
  split
  · rw [h.host]
    cases hp : r.logFile with
    | none =>
      refine ⟨rfl, rfl, .refl _ _⟩
    | some path =>
      obtain ⟨l, bytes, hl, hk⟩ := h.log path hp
      simp only [Scene.play_bind, Scene.play_discard, Scene.play_append]
      have hplace : ({l} : Set Location) ⊆ r.logPlaces name s.directory := by
        rintro k rfl
        exact ⟨path, hp, hl⟩
      split
      · rename_i directory hc
        exact ⟨rfl, rfl, (Directory.sameBut_change hl ⟨bytes, hk⟩ hc).mono hplace⟩
      · exact Wrote.refl _ _
  · exact Wrote.refl _ _

theorem wrote_forM_tell (h : r.Stands name s.directory) (events : List Log.Event) :
    Wrote (r.logPlaces name s.directory) [] s (s.play (events.forM fun e => r.tell e)).2 := by
  induction events generalizing s with
  | nil => exact Wrote.refl _ _
  | cons e events ih =>
    have hfirst := h.wrote_tell e
    have hlater := ih (h.sameBut hfirst.directory)
    rw [← r.logPlaces_congr hfirst.directory] at hlater
    exact hfirst.trans hlater

/-! ## Pages -/

/-- A page that can be read is read. -/
theorem play_readPage (h : r.Stands name s.directory) {page : TreePage}
    (hpage : s.page? name path = some page) :
    ∃ t, s.play (r.readPage path).run = (.ok page, t) ∧
      Wrote (r.logPlaces name s.directory) [] s t := by
  cases hs : s.source name path with
  | error e => simp [Scene.page?, hs] at hpage
  | ok data =>
    cases hd : Text.Utf8.decode? data with
    | none => simp [Scene.page?, hs, hd] at hpage
    | some text =>
      obtain rfl : TreePage.ofSource (String.ofList text) = page := by
        simpa [Scene.page?, hs, hd] using hpage
      obtain ⟨event, heq⟩ := play_readPage_eq h.host s path
      rw [heq, hs]
      simp only [hd]
      exact ⟨_, rfl, h.wrote_tell _⟩

/-! ## Jobs -/

/-- Announcing a job writes its heading, if it has one, and its listing. -/
theorem wrote_announce (h : r.Stands name s.directory) (settings : Settings)
    (stage : Stage TreePage) :
    Wrote (r.logPlaces name s.directory) stage.block s (s.play (r.announce settings stage)).2 := by
  have htold := h.wrote_forM_tell (stage.job.report settings stage.page stage.outcome)
  unfold announce Stage.block
  cases stage.job.label with
  | none =>
    simp only [Scene.play_bind, h.host]
    exact htold.trans (Scene.wrote_output _ _ name _)
  | some label =>
    simp only [Scene.play_bind, h.host]
    exact htold.trans ((Scene.wrote_output _ _ name _).trans (Scene.wrote_output _ _ name _))

theorem wrote_forM_announce (h : r.Stands name s.directory) (settings : Settings)
    (stages : List (Stage TreePage)) :
    Wrote (r.logPlaces name s.directory) (stages.flatMap Stage.block) s
      (s.play (stages.forM (r.announce settings))).2 := by
  induction stages generalizing s with
  | nil => exact Wrote.refl _ _
  | cons stage stages ih =>
    have hfirst := h.wrote_announce settings stage
    have hlater := ih (h.sameBut hfirst.directory)
    rw [← r.logPlaces_congr hfirst.directory] at hlater
    exact hfirst.trans hlater

/-- Jobs write the blocks of those that come to their end. -/
theorem play_runJobs (h : r.Stands name s.directory) (settings : Settings) (page : TreePage)
    (jobs : List Job) :
    let stages := (runAll settings page jobs).1
    ∃ t, s.play (r.runJobs settings page 0 jobs).run =
        (match (runAll settings page jobs).2 with
          | some stop => .error (.ofStop stop)
          | none => .ok (lastPage page stages,
              stages.foldl (fun n stage => n + stage.outcome.removed) 0), t) ∧
      Wrote (r.logPlaces name s.directory) (stages.flatMap Stage.block) s t := by
  refine ⟨_, ?_, h.wrote_forM_announce settings _⟩
  exact congrArg s.play (runJobs_run r settings page 0 jobs)

/-! ## Telling in two scenes -/

/-- What is told in two scenes adds nothing to what differs in them. -/
theorem sameBut_tell {places : Set Location} (h : r.Stands name s.directory)
    (hs : SameBut places s.directory t.directory) (e : Log.Event) :
    SameBut places (s.play (r.tell e)).2.directory (t.play (r.tell e)).2.directory := by
  unfold Run.tell
  split
  · rw [h.host]
    cases r.logFile with
    | none => exact hs
    | some path =>
      simp only [Scene.play_bind, Scene.play_time, Scene.play_discard]
      exact Scene.sameBut_append hs name path _
  · exact hs

theorem sameBut_forM_tell {places : Set Location} (h : r.Stands name s.directory)
    (hs : SameBut places s.directory t.directory) (events : List Log.Event) :
    SameBut places (s.play (events.forM fun e => r.tell e)).2.directory
      (t.play (events.forM fun e => r.tell e)).2.directory := by
  induction events generalizing s t with
  | nil => exact hs
  | cons e events ih =>
    exact ih (h.sameBut (h.wrote_tell e).directory) (h.sameBut_tell hs e)

end Stands

/-! ## Pages that cannot be read, or written -/

/-- Reading a page that cannot be read ends the run, and leaves everything as it is. -/
theorem play_readPage_none (hhost : r.host = Scene.host name)
    (hpage : s.page? name path = none) :
    ∃ chain, s.play (r.readPage path).run = (.error (.failed chain), s) := by
  obtain ⟨event, heq⟩ := play_readPage_eq hhost s path
  rw [heq]
  cases hs : s.source name path with
  | error e => exact ⟨_, rfl⟩
  | ok data =>
    have hd : Text.Utf8.decode? data = none := by simpa [Scene.page?, hs] using hpage
    simp only [hd]
    exact ⟨_, rfl⟩

/-- What writing a page does: it writes the file, and tells so. -/
theorem play_writePage_eq (hhost : r.host = Scene.host name) (page : TreePage)
    (remainder : Option String) :
    ∃ events : List Log.Event, ∀ s : Scene, s.play (r.writePage page remainder).run =
      match s.rewritten name page remainder with
      | .error ending => (.error ending, s)
      | .ok directory =>
        (.ok (), (Scene.play { s with directory } (events.forM fun e => r.tell e)).2) := by
  cases remainder with
  | none => exact ⟨[], fun s => rfl⟩
  | some path =>
    refine ⟨[{
        level := .info
        target := "rellist::cli::commands::input"
        message := "wrote rewritten page to " ++ path }], fun s => ?_⟩
    unfold writePage Scene.rewritten
    dsimp only
    rw [play_run_bind, play_orEnd, hhost, Scene.play_write]
    cases s.directory.change name path (fun _ => bytes page.render) <;> rfl

theorem extends_rewritten {page : TreePage} {remainder : Option String}
    (h : s.rewritten name page remainder = .ok d) : Extends s.directory d := by
  cases remainder with
  | none =>
    obtain rfl : s.directory = d := by simpa [Scene.rewritten] using h
    exact ⟨id, id⟩
  | some path =>
    unfold Scene.rewritten at h
    cases hc : s.directory.change name path (fun _ => bytes page.render) with
    | error e => simp [hc, Except.mapError] at h
    | ok directory =>
      obtain rfl : directory = d := by simpa [hc, Except.mapError] using h
      exact Directory.extends_change hc

/-- Writing a page changes the directory as it should, and beyond that only the log; telling
something before makes no difference. -/
theorem Stands.play_writePage {written : List String} (h : r.Stands name s.directory)
    (hw : Wrote (r.logPlaces name s.directory) written s t) (page : TreePage)
    (remainder : Option String) :
    ∃ left, t.play (r.writePage page remainder).run =
        ((s.rewritten name page remainder).map fun _ => (), left) ∧
      left.output = t.output ∧
      SameBut (r.logPlaces name s.directory)
        ((s.rewritten name page remainder).toOption.getD s.directory) left.directory := by
  obtain ⟨hresult, hdirectory⟩ := Scene.rewritten_congr hw.directory name page remainder
  replace hdirectory := hdirectory.mono Set.sdiff_subset
  obtain ⟨events, heq⟩ := play_writePage_eq h.host page remainder
  rw [heq t, hresult]
  cases ht : t.rewritten name page remainder with
  | error ending =>
    rw [ht] at hdirectory
    exact ⟨t, rfl, rfl, hdirectory⟩
  | ok directory =>
    rw [ht] at hdirectory
    have hstands := h.sameBut hw.directory
    have he := extends_rewritten ht
    have htold := (hstands.of_extends he).wrote_forM_tell (s := { t with directory }) events
    refine ⟨_, rfl, htold.output, hdirectory.trans ?_⟩
    rw [r.logPlaces_congr hw.directory, hstands.logPlaces_of_extends he]
    exact htold.directory

/-- In two scenes that are alike but for the log a page is written alike. -/
theorem Stands.sameBut_writePage (h : r.Stands name s.directory)
    (hst : SameBut (r.logPlaces name s.directory) s.directory t.directory) (page : TreePage)
    (remainder : Option String) :
    let left := s.play (r.writePage page remainder).run
    let left' := t.play (r.writePage page remainder).run
    left.1 = left'.1 ∧ left.2.output = s.output ∧ left'.2.output = t.output ∧
      SameBut (r.logPlaces name s.directory \ s.target name remainder)
        left.2.directory left'.2.directory := by
  obtain ⟨hresult, hdirectory⟩ := Scene.rewritten_congr hst name page remainder
  obtain ⟨left, hs, hout, -⟩ := h.play_writePage (.refl _ s) page remainder
  obtain ⟨left', ht, hout', -⟩ := (h.sameBut hst).play_writePage (.refl _ t) page remainder
  refine ⟨by rw [hs, ht, hresult], by rw [hs, hout], by rw [ht, hout'], ?_⟩
  obtain ⟨events, hwrite⟩ := play_writePage_eq h.host page remainder
  rw [hwrite, hwrite]
  cases hs' : s.rewritten name page remainder with
  | error e =>
    cases ht' : t.rewritten name page remainder with
    | error e' =>
      rw [hs', ht'] at hdirectory
      exact hdirectory
    | ok d' =>
      rw [hs', ht'] at hresult
      cases hresult
  | ok d =>
    cases ht' : t.rewritten name page remainder with
    | error e' =>
      rw [hs', ht'] at hresult
      cases hresult
    | ok d' =>
      rw [hs', ht'] at hdirectory
      have hstands := h.of_extends (extends_rewritten hs')
      exact hstands.sameBut_forM_tell (s := { s with directory := d })
        (t := { t with directory := d' }) hdirectory events

/-! ## The start -/

theorem stands_of_none (hhost : r.host = Scene.host name) (hlog : r.logFile = none) :
    r.Stands name d where
  host := hhost
  log path hp := by
    rw [hlog] at hp
    cases hp

/-- A run whose file takes something at its end stands. -/
theorem stands_of_append {path : String} {bytes : List UInt8} (hhost : r.host = Scene.host name)
    (hlog : r.logFile = some path) (h : d.change name path (· ++ bytes) = .ok e) :
    r.Stands name e where
  host := hhost
  log path' hp := by
    obtain rfl : path = path' := Option.some.inj (hlog.symm.trans hp)
    obtain ⟨l, hl, hk⟩ := Directory.exists_locateFile_of_change h
    exact ⟨l, _, (Directory.extends_change h).locateFile hl, hk⟩

/-- A run that has been started stands. -/
theorem stands_start (s : Scene) (name : String) (environment : Environment) :
    let started := s.play (Run.start (Scene.host name) environment)
    started.1.Stands name started.2.directory := by
  -- What the start ends with: telling something.
  have htold : ∀ {r : Run (StateM Scene)} {t : Scene} (e : Log.Event),
      r.Stands name t.directory → r.Stands name (t.play (r.tell e)).2.directory :=
    fun e h => h.sameBut (h.wrote_tell e).directory
  unfold Run.start
  simp only [Scene.play_bind, Scene.play_makeDirectories]
  cases s.directory.makeDirectories name (logDirectory environment) with
  | error e => exact htold _ (stands_of_none rfl rfl)
  | ok directory =>
    simp only [Scene.play_bind, Scene.play_append]
    cases hc : directory.change name (logPath environment) (· ++ []) with
    | error e => exact htold _ (stands_of_none rfl rfl)
    | ok opened => exact htold _ (stands_of_append rfl rfl hc)

end Run

end ReleaseListing
