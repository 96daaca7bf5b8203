import ReleaseListing.Proofs.Job.Stages
import ReleaseListing.Proofs.Page.Removal

/-!
# Jobs on a page read from HTML

A page that jobs run on is at any time the page in front of all of them without the rows that they
have detached (`runAll_split`). What follows is told by the first page alone:

* `listed_of_stage`: a job lists the anchors that match it and stand in no row that an earlier job
  has detached, each once and in the order of the page;
* `runAll_stop_iff_html_detached`: a run comes to its end unless a job, other than the last,
  detaches `html`; then the next job finds no root.
-/

namespace ReleaseListing.Job

open Html (Forest)

namespace Stage

/-- The anchors that the job of a stage lists. -/
def listed (s : Stage TreePage) : List PlacedAnchor := s.job.listed s.page

/-- The rows that a stage detaches, as they stand on the page `origin`: what is so many levels
above the anchors that it lists, apart from the document. -/
def rows (origin : TreePage) (levels : Nat) (s : Stage TreePage) : List Nat :=
  if s.job.removesRows then origin.rows levels (s.listed.map (·.node)) else []

theorem mem_rows {origin : TreePage} {levels row : Nat} {s : Stage TreePage} (h0 : row ≠ 0) :
    row ∈ s.rows origin levels ↔
      s.job.removesRows = true ∧ ∃ a ∈ s.listed, origin.rowOf? levels a.node = some row := by
  cases hj : s.job.removesRows with
  | false => simp [rows, hj]
  | true => simp [rows, hj, TreePage.mem_rows, h0]

end Stage

variable {origin page rest : TreePage} {root : Nat} {gone : List Nat} {job : Job}
  {settings : Settings} {outcome : Outcome} {jobs : List Job} {s : Stage TreePage}

/-! ## One job -/

theorem select_links (pattern : String) (anchors : List PlacedAnchor) :
    (Page.select pattern anchors).map PlacedAnchor.link =
      (anchors.map PlacedAnchor.link).filter fun l =>
        Text.occursIn pattern.toList l.2.toList := by
  rw [Page.select, List.filter_map]
  rfl

/-- A job lists the anchors that match and stand in no row that has gone. -/
theorem listed_links (hn : origin.nodes.Numbered) (hr : origin.nodes.Rooted root)
    (hp : page.nodes = origin.nodes.without gone) (hg : root ∉ gone) (job : Job) :
    (job.listed page).map PlacedAnchor.link =
      (origin.nodes.anchors.filter fun a =>
        Text.occursIn job.pattern.toList a.anchor.href.toList ∧
          origin.nodes.Spares gone a.node).map PlacedAnchor.link := by
  rw [listed, select_links, TreePage.anchors?_without hr hp, if_neg hg, Option.getD_some, hp,
    Forest.links_without hn.nodup, List.filter_map, List.filter_filter]
  simp [PlacedAnchor.link]

/-- What a job lists stands on the first page, in no row that has gone. -/
theorem exists_of_mem_listed (hn : origin.nodes.Numbered) (hr : origin.nodes.Rooted root)
    (hp : page.nodes = origin.nodes.without gone) (hg : root ∉ gone) {node : Nat}
    (h : node ∈ (job.listed page).map (·.node)) :
    ∃ a ∈ origin.nodes.anchors, a.node = node ∧ origin.nodes.Spares gone node := by
  obtain ⟨b, hb, rfl⟩ := List.mem_map.1 h
  have hl : b.link ∈ (job.listed page).map PlacedAnchor.link := List.mem_map_of_mem hb
  rw [listed_links hn hr hp hg] at hl
  obtain ⟨a, ha, hab⟩ := List.mem_map.1 hl
  have hnode : a.node = b.node := (Prod.mk.inj hab).1
  simp only [List.mem_filter, decide_eq_true_eq] at ha
  exact ⟨a, ha.1, hnode, hnode ▸ ha.2.2⟩

theorem listed_nodes_sublist (hr : origin.nodes.Rooted root)
    (hp : page.nodes = origin.nodes.without gone) (job : Job) :
    ((job.listed page).map (·.node)).Sublist page.nodes.ids := by
  rw [listed, TreePage.anchors?_without hr hp]
  split
  · exact List.nil_sublist _
  · exact (List.filter_sublist.map _).trans (Forest.anchors_nodes_sublist _)

/-- A job leaves the page without the rows that it detaches. -/
theorem run_rest (hn : origin.nodes.Numbered) (hr : origin.nodes.Rooted root)
    (hp : page.nodes = origin.nodes.without gone)
    (h : job.run settings page = .ok (outcome, rest)) :
    rest.nodes =
      page.nodes.without (Stage.rows origin settings.rowLevels ⟨job, page, outcome, rest⟩) := by
  obtain ⟨x, -, -, -, -, hrest⟩ := run_ok h
  cases hj : job.removesRows with
  | false =>
    rw [hj, if_neg Bool.false_ne_true] at hrest
    obtain ⟨rfl, -⟩ := Prod.mk.inj hrest
    simp [Stage.rows, hj, Forest.without_eq_self]
  | true =>
    rw [hj, if_pos rfl] at hrest
    obtain ⟨rfl, -⟩ := Prod.mk.inj hrest
    have hmem : ∀ node ∈ (job.listed page).map (·.node), node ∈ page.nodes.ids :=
      fun node hm => (listed_nodes_sublist hr hp job).subset hm
    rw [show Stage.rows origin settings.rowLevels _ =
        origin.rows settings.rowLevels ((job.listed page).map (·.node)) by
      simp [Stage.rows, Stage.listed, hj]]
    rw [← TreePage.rows_of_mem hn hp hmem]
    exact TreePage.removeRows_nodes (hp ▸ hn.without gone) _ _

theorem run_rest_origin (hn : origin.nodes.Numbered) (hr : origin.nodes.Rooted root)
    (hp : page.nodes = origin.nodes.without gone)
    (h : job.run settings page = .ok (outcome, rest)) :
    rest.nodes = origin.nodes.without
      (gone ++ Stage.rows origin settings.rowLevels ⟨job, page, outcome, rest⟩) := by
  rw [run_rest hn hr hp h, hp, Forest.without_without]

/-! ## All jobs -/

/-- The page in front of a stage is the first page without the rows of the stages before it, and it
has its root. -/
theorem runAll_split (hn : origin.nodes.Numbered) (hr : origin.nodes.Rooted root)
    (hp : page.nodes = origin.nodes.without gone) {earlier later : List (Stage TreePage)}
    (h : (runAll settings page jobs).1 = earlier ++ s :: later) :
    s.page.nodes = origin.nodes.without
        (gone ++ earlier.flatMap (·.rows origin settings.rowLevels)) ∧
      root ∉ gone ++ earlier.flatMap (·.rows origin settings.rowLevels) ∧
      s.job.run settings s.page = .ok (s.outcome, s.rest) := by
  induction jobs generalizing page gone earlier with
  | nil => simp [runAll] at h
  | cons job jobs ih =>
    cases hrun : job.run settings page with
    | error stop => simp [runAll_cons_error hrun] at h
    | ok p =>
      obtain ⟨outcome, rest⟩ := p
      rw [runAll_cons_ok hrun] at h
      have hroot : root ∉ gone := by
        obtain ⟨x, -, ha, -⟩ := run_ok hrun
        rw [TreePage.anchors?_without hr hp] at ha
        by_contra hg
        simp [hg] at ha
      cases earlier with
      | nil =>
        obtain ⟨rfl, -⟩ := List.cons.inj h
        simpa using ⟨hp, hroot, hrun⟩
      | cons first earlier =>
        obtain ⟨rfl, hlater⟩ := List.cons.inj h
        simpa [List.append_assoc] using ih (run_rest_origin hn hr hp hrun) hlater

/-- Behind the loss of the root no job comes to its end. -/
theorem runAll_rootless (settings : Settings) (hr : origin.nodes.Rooted root)
    (hp : page.nodes = origin.nodes.without gone) (hg : root ∈ gone)
    (hx : ∀ job ∈ jobs, ∃ x, job.extraction = .ok x) :
    runAll settings page jobs = ([], if jobs = [] then none else some .rootless) := by
  cases jobs with
  | nil => rfl
  | cons job jobs =>
    have hstop : job.run settings page = .error .rootless := by
      rw [run_error_iff (hx job List.mem_cons_self), TreePage.anchors?_without hr hp, if_pos hg]
      exact ⟨rfl, rfl⟩
    simp [runAll_cons_error hstop]

/-- A run comes to its end or loses the root. -/
theorem runAll_stop_cases (settings : Settings) (page : TreePage)
    (hx : ∀ job ∈ jobs, ∃ x, job.extraction = .ok x) :
    (runAll settings page jobs).2 = none ∨ (runAll settings page jobs).2 = some .rootless := by
  induction jobs generalizing page with
  | nil => exact .inl rfl
  | cons job jobs ih =>
    cases hrun : job.run settings page with
    | error stop =>
      obtain ⟨-, rfl⟩ := (run_error_iff (hx job List.mem_cons_self)).1 hrun
      exact .inr (by rw [runAll_cons_error hrun])
    | ok p =>
      rw [runAll_cons_ok hrun]
      exact ih p.2 fun job hj => hx job (List.mem_cons_of_mem _ hj)

/-- A run loses the root exactly if a job other than the last detaches it. -/
theorem runAll_rootless_iff (settings : Settings) (hn : origin.nodes.Numbered)
    (hr : origin.nodes.Rooted root) (hp : page.nodes = origin.nodes.without gone) (hg : root ∉ gone)
    (hx : ∀ job ∈ jobs, ∃ x, job.extraction = .ok x) :
    (runAll settings page jobs).2 = some .rootless ↔
      ∃ s ∈ (runAll settings page jobs.dropLast).1, root ∈ s.rows origin settings.rowLevels := by
  induction jobs generalizing page gone with
  | nil => simp [runAll]
  | cons job jobs ih =>
    have hjob := hx job List.mem_cons_self
    have hjobs : ∀ job ∈ jobs, ∃ x, job.extraction = .ok x :=
      fun job hj => hx job (List.mem_cons_of_mem _ hj)
    cases hrun : job.run settings page with
    | error stop =>
      obtain ⟨ha, -⟩ := (run_error_iff hjob).1 hrun
      rw [TreePage.anchors?_without hr hp, if_neg hg] at ha
      cases ha
    | ok p =>
      obtain ⟨outcome, rest⟩ := p
      cases jobs with
      | nil => simp [runAll, hrun]
      | cons next jobs =>
        let first : Stage TreePage := ⟨job, page, outcome, rest⟩
        have hrest : rest.nodes =
            origin.nodes.without (gone ++ first.rows origin settings.rowLevels) :=
          run_rest_origin hn hr hp hrun
        rw [runAll_cons_ok hrun, List.dropLast_cons_cons, runAll_cons_ok hrun]
        by_cases hlost : root ∈ first.rows origin settings.rowLevels
        · have := runAll_rootless settings hr hrest
            (List.mem_append_right _ hlost) hjobs
          simp only [this]
          simpa using .inl hlost
        · have hgone : root ∉ gone ++ first.rows origin settings.rowLevels := by
            simpa using ⟨hg, hlost⟩
          simp only [List.mem_cons, exists_eq_or_imp]
          rw [ih hrest hgone hjobs]
          exact (or_iff_right hlost).symm

/-! ## From the source of a page -/

/-- A row other than the document is the node itself or something that it stands in. -/
theorem not_spares_of_rowOf? {levels node row : Nat} (h : origin.rowOf? levels node = some row)
    (h0 : row ≠ 0) (hg : row ∈ gone) : ¬origin.nodes.Spares gone node := by
  intro hs
  cases hl : origin.nodes.lineage? node with
  | none => simp [TreePage.rowOf?, hl] at h
  | some line =>
    simp only [TreePage.rowOf?, hl, Option.bind_some] at h
    have hmem : row ∈ line ++ [0] := List.mem_of_getElem? h
    have hline : row ∈ line := by simpa [h0] using hmem
    exact hs line hl row hline hg

/-- What a job detaches is listed by no later job. -/
theorem not_listed_later (hn : origin.nodes.Numbered) (hr : origin.nodes.Rooted root)
    (hp : page.nodes = origin.nodes.without gone) {earlier later : List (Stage TreePage)}
    (h : (runAll settings page jobs).1 = earlier ++ s :: later) (hremoves : s.job.removesRows = true)
    {a : PlacedAnchor} (ha : a ∈ s.listed) {row : Nat}
    (hrow : origin.rowOf? settings.rowLevels a.node = some row) (h0 : row ≠ 0)
    {t : Stage TreePage} (ht : t ∈ later) : a.node ∉ t.listed.map (·.node) := by
  intro hmem
  obtain ⟨between, behind, rfl⟩ := List.append_of_mem ht
  have hsplit : (runAll settings page jobs).1 = (earlier ++ s :: between) ++ t :: behind := by
    simpa using h
  obtain ⟨htpage, htroot, -⟩ := runAll_split hn hr hp hsplit
  obtain ⟨-, -, -, hspared⟩ := exists_of_mem_listed hn hr htpage htroot hmem
  have hgone : row ∈ s.rows origin settings.rowLevels :=
    (Stage.mem_rows h0).2 ⟨hremoves, a, ha, hrow⟩
  refine not_spares_of_rowOf? hrow h0 ?_ hspared
  simp [hgone]

/-- A run on a page on which no anchor has the root as its row keeps the root. -/
theorem runAll_none_of_deep (settings : Settings) (hn : origin.nodes.Numbered)
    (hr : origin.nodes.Rooted root) (hx : ∀ job ∈ jobs, ∃ x, job.extraction = .ok x)
    (hdeep : ∀ a ∈ origin.nodes.anchors,
      origin.rowOf? settings.rowLevels a.node ≠ some root) :
    (runAll settings origin jobs).2 = none := by
  have hp : origin.nodes = origin.nodes.without [] := (Forest.without_nil _).symm
  have h0 : root ≠ 0 := hr.ne_zero hn
  refine (runAll_stop_cases settings origin hx).resolve_right fun h => ?_
  obtain ⟨s, hs, hroot⟩ := (runAll_rootless_iff settings hn hr hp (by simp) hx).1 h
  obtain ⟨-, a, ha, hrow⟩ := (Stage.mem_rows h0).1 hroot
  obtain ⟨earlier, later, hsplit⟩ := List.append_of_mem hs
  obtain ⟨hpage, hkept, -⟩ := runAll_split hn hr hp hsplit
  obtain ⟨b, hb, hba, -⟩ := exists_of_mem_listed hn hr hpage hkept (List.mem_map_of_mem ha)
  exact hdeep b hb (hba ▸ hrow)

/-- **No loss and no double listing.** A job of a run lists the anchors of the page that match it
and that no earlier job has detached with their own row or another one's, each once and in the order
of the page. It leaves its page without the rows that it detaches; so an anchor whose row it
detaches is listed by no later job. -/
theorem listed_of_stage (source : String) (settings : Settings) (jobs : List Job) :
    let origin := TreePage.ofSource source
    let run := runAll settings origin jobs
    (run.2 = none → run.1.map (·.job) = jobs) ∧
    ∀ earlier s later, run.1 = earlier ++ s :: later →
      let gone := earlier.flatMap (·.rows origin settings.rowLevels)
      jobs[earlier.length]? = some s.job ∧
      s.listed.map PlacedAnchor.link =
        (origin.nodes.anchors.filter fun a =>
          Text.occursIn s.job.pattern.toList a.anchor.href.toList ∧
            origin.nodes.Spares gone a.node).map PlacedAnchor.link ∧
      (s.listed.map (·.node)).Nodup ∧
      (∃ x, s.job.extraction = .ok x ∧
        s.outcome.listing = Listing.render
          (s.listed.map fun a => x.entry a.anchor) (s.job.format settings) ∧
        s.outcome.matched = s.listed.length) ∧
      s.page.nodes = origin.nodes.without gone ∧
      s.rest.nodes = s.page.nodes.without (s.rows origin settings.rowLevels) ∧
      (s.job.removesRows = true → ∀ a ∈ s.listed, ∀ row,
        origin.rowOf? settings.rowLevels a.node = some row → row ≠ 0 →
          ∀ t ∈ later, a.node ∉ t.listed.map (·.node)) := by
  intro origin run
  obtain ⟨root, -, -, hr, -⟩ : ∃ html attributes children, origin.nodes.Rooted html ∧ _ :=
    TreePage.rooted_ofSource source
  have hn : origin.nodes.Numbered := TreePage.numbered_ofSource source
  -- Nothing else of the source counts, and unfolding it would be slow.
  clear_value origin
  have hp : origin.nodes = origin.nodes.without [] := (Forest.without_nil _).symm
  refine ⟨runAll_jobs_of_none, fun earlier s later h => ?_⟩
  obtain ⟨hpage, hroot, hrun⟩ := runAll_split hn hr hp h
  rw [List.nil_append] at hpage hroot
  obtain ⟨x, hx, -, hlisting, hmatched, -⟩ := run_ok hrun
  have hlinks := listed_links hn hr hpage hroot s.job
  have hsub := listed_nodes_sublist hr hpage s.job
  have hnodup : (s.listed.map (·.node)).Nodup := (hpage ▸ (hn.without _).nodup).sublist hsub
  exact ⟨runAll_job h, hlinks, hnodup, ⟨x, hx, hlisting, hmatched⟩, hpage,
    run_rest hn hr hpage hrun, fun hremoves a ha row hrow h0 t ht =>
      not_listed_later hn hr hp h hremoves ha hrow h0 ht⟩

/-- The second link of a paragraph goes with the row of the first, and is not listed any more. -/
theorem listed_of_stage_shared_row :
    let origin := TreePage.ofSource "<p><a href=a1>x</a><a href=b1>y</a><p><a href=b2>z</a>"
    let settings : Settings := { Config.standard.settings with rowLevels := 1 }
    let jobs : List Job := [{ pattern := "a", removesRows := true }, { pattern := "b" }]
    ∃ first second, (runAll settings origin jobs).1 = [first, second] ∧
      first.rows origin settings.rowLevels = [4] ∧
      second.listed.map PlacedAnchor.link = [(10, "b2")] := by
  intro origin settings jobs
  have hlen : (runAll settings origin jobs).1.length = 2 := by decide +kernel
  obtain ⟨first, second, h⟩ := List.length_eq_two.1 hlen
  have hrows :
      (runAll settings origin jobs).1.map (·.rows origin settings.rowLevels) = [[4], []] := by
    decide +kernel
  rw [h] at hrows
  obtain ⟨hfirst, -⟩ := List.cons.inj hrows
  obtain ⟨hjob, hlinks, -⟩ := (listed_of_stage _ settings jobs).2 [first] second [] h
  have hsecond : second.job = { pattern := "b" } := (Option.some.inj hjob).symm
  have hgone : first.rows (TreePage.ofSource _) _ = [4] := hfirst
  simp only [List.flatMap_cons, List.flatMap_nil, List.append_nil, hgone, hsecond] at hlinks
  refine ⟨first, second, h, hfirst, hlinks.trans ?_⟩
  decide +kernel

/-- **When a run keeps its root.** Jobs whose base URLs are absent or can be read run to their end
on a page, unless a job other than the last lists an anchor that `html` is the row of, and detaches
it: then, and only then, a later job does not find the root. So a run comes to its end on every page
on which no anchor has `html` as its row. -/
theorem runAll_stop_iff_html_detached (source : String) (settings : Settings) (jobs : List Job)
    (hbase : ∀ job ∈ jobs, ∀ url, job.baseUrl = some url → ∃ base, readBaseUrl url = .ok base) :
    let origin := TreePage.ofSource source
    ∃ html attributes children,
      origin.nodes.firstElement? =
        some (.single html (.element .html "html" attributes) children) ∧
      (((runAll settings origin jobs).2 = none ∧
          (runAll settings origin jobs).1.map (·.job) = jobs) ∨
        (runAll settings origin jobs).2 = some .rootless) ∧
      ((runAll settings origin jobs).2 = some .rootless ↔
        ∃ s ∈ (runAll settings origin jobs.dropLast).1, s.job.removesRows = true ∧
          ∃ a ∈ s.listed, origin.rowOf? settings.rowLevels a.node = some html) ∧
      ((∀ a ∈ origin.nodes.anchors, origin.rowOf? settings.rowLevels a.node ≠ some html) →
        (runAll settings origin jobs).2 = none) := by
  intro origin
  have hn : origin.nodes.Numbered := TreePage.numbered_ofSource source
  obtain ⟨html, attributes, children, hr, hfirst⟩ : ∃ html attributes children,
      origin.nodes.Rooted html ∧ origin.nodes.firstElement? = _ :=
    TreePage.rooted_ofSource source
  clear_value origin
  have hp : origin.nodes = origin.nodes.without [] := (Forest.without_nil _).symm
  have hx : ∀ job ∈ jobs, ∃ x, job.extraction = .ok x :=
    fun job hj => extraction_isOk_iff.2 (hbase job hj)
  have h0 : html ≠ 0 := hr.ne_zero hn
  have hiff := runAll_rootless_iff settings hn hr hp (by simp) hx
  simp only [Stage.mem_rows h0] at hiff
  refine ⟨html, attributes, children, hfirst, ?_, hiff, runAll_none_of_deep settings hn hr hx⟩
  rcases runAll_stop_cases settings origin hx with h | h
  · exact .inl ⟨h, runAll_jobs_of_none h⟩
  · exact .inr h

/-- With the standard settings a link that stands in the body takes `html` with it, and the next job
does not find the root. -/
theorem runAll_body_link_rootless :
    (runAll Config.standard.settings (TreePage.ofSource "<a href=/x>x</a>")
      [{ pattern := "x", removesRows := true }, { pattern := "y" }]).2 = some .rootless := by
  decide +kernel

theorem runAll_stop_iff_html_detached_body_link :
    let origin := TreePage.ofSource "<a href=/x>x</a>"
    let jobs : List Job :=
      [{ pattern := "x", removesRows := true, baseUrl := some "https://github.com" },
       { pattern := "y" }]
    (∀ job ∈ jobs, ∀ url, job.baseUrl = some url → ∃ base, readBaseUrl url = .ok base) ∧
      (runAll Config.standard.settings origin jobs).2 = some .rootless ∧
      ∃ html attributes children,
        origin.nodes.firstElement? =
          some (.single html (.element .html "html" attributes) children) ∧
        ∃ s ∈ (runAll Config.standard.settings origin jobs.dropLast).1,
          ∃ a ∈ s.listed, origin.rowOf? 2 a.node = some html := by
  intro origin jobs
  have hbase : ∀ job ∈ jobs, ∀ url, job.baseUrl = some url →
      ∃ base, readBaseUrl url = .ok base := by
    have hx : ∀ job ∈ jobs, (job.extraction.toOption).isSome := by decide +kernel
    intro job hj
    refine extraction_isOk_iff.1 ?_
    cases h : job.extraction with
    | ok x => exact ⟨x, rfl⟩
    | error e => simpa [h, Except.toOption] using hx job hj
  have hlost : (runAll Config.standard.settings origin jobs).2 = some .rootless := by
    decide +kernel
  obtain ⟨html, attributes, children, hfirst, -, hiff, -⟩ :=
    runAll_stop_iff_html_detached _ Config.standard.settings jobs hbase
  obtain ⟨s, hs, -, ha⟩ := hiff.1 hlost
  exact ⟨hbase, hlost, html, attributes, children, hfirst, s, hs, ha⟩

end ReleaseListing.Job
