import ReleaseListing.Proofs.Job.SharedPage
import ReleaseListing.Proofs.Page.Detaching
import ReleaseListing.Proofs.Page.Table

/-!
# Jobs that run again

A job that removes rows has done so after one run (`settles_after_one_run`). An anchor that has a
row other than the document has gone with it, so what the job lists again has no row, and there is
nothing left to be removed.
-/

namespace ReleaseListing

open Html (Forest)

namespace LinkedPage

variable {p : LinkedPage} {f : Forest} {nodes : List Nat} {id levels : Nat}

/-- Rows that are not on the page make no difference. -/
theorem removeRows_of_rows_eq_nil (h : p.rows levels nodes = []) :
    p.removeRows nodes levels = (p, 0) := by
  rw [rows, List.filter_eq_nil_iff] at h
  rw [removeRows]
  -- What has been looked at changes from step to step, and nothing else does.
  let Same (s : Removal) : Prop := s.page = p ∧ s.removed = 0
  have hsame : Same ((nodes.filterMap (p.rowOf? levels)).foldl Removal.step { page := p }) := by
    refine List.foldlRecOn _ _ ⟨rfl, rfl⟩ fun s hs row hrow => ?_
    rw [Removal.step]
    split
    · exact hs
    · rw [if_neg (by rw [hs.1]; exact h row hrow)]
      exact hs
  exact Prod.ext hsame.1 hsame.2

/-- A node that stands in more than so many others has a row on the page, and no other node has. -/
theorem Holds.exists_rowOf?_iff (h : p.Holds f) (hm : id ∈ f.ids) :
    (∃ row, p.rowOf? levels id = some row ∧ p.isAttached row = true) ↔
      levels < (p.ancestors id).length := by
  obtain ⟨lineage, hl⟩ := Forest.lineage?_of_mem hm
  have hup := h.ancestors hl
  have hlength : (p.ancestors id).length = lineage.length := by
    simpa using congrArg List.length hup
  obtain ⟨n, hn⟩ := h.exists_getElem? hm
  rw [rowOf?, hn, Option.bind_some, hup, hlength]
  constructor
  · rintro ⟨row, hrow, ha⟩
    by_contra hlevels
    rw [List.getElem?_append_right (Nat.le_of_not_lt hlevels)] at hrow
    obtain rfl : row = 0 := List.mem_singleton.1 (List.mem_of_getElem? hrow)
    exact h.numbered.zero_not_mem (h.isAttached_iff.1 ha)
  · intro hlevels
    refine ⟨lineage[levels], ?_, h.isAttached_iff.2 ?_⟩
    · rw [List.getElem?_append_left hlevels, List.getElem?_eq_getElem hlevels]
    · exact Forest.mem_ids_of_mem_lineage h.numbered.nodup hl (List.getElem_mem hlevels)

/-- What is kept and has been asked for has no row. -/
theorem Holds.length_ancestors_le (h : p.Holds f) (hm : id ∈ f.ids) (hid : id ∈ nodes)
    (hk : p.Keeps (p.rows levels nodes) id) : (p.ancestors id).length ≤ levels := by
  by_contra hlevels
  obtain ⟨row, hrow, ha⟩ := (h.exists_rowOf?_iff hm).2 (Nat.lt_of_not_le hlevels)
  obtain ⟨-, -, hup⟩ := Option.bind_eq_some_iff.1 hrow
  refine hk row (List.mem_of_getElem? hup) ?_
  exact List.mem_filter.2 ⟨List.mem_filterMap.2 ⟨id, hid, hrow⟩, ha⟩

end LinkedPage

namespace Job

variable {job : Job} {settings : Settings}

section

variable {P : Type} [Page P] {page : P} {anchors : List PlacedAnchor}

/-- A job that removes rows removes those of what it lists. -/
theorem run_removes (settings : Settings) (hremoves : job.removesRows = true)
    (hbase : ∀ url, job.baseUrl = some url → ∃ base, readBaseUrl url = .ok base)
    (ha : Page.anchors? page = some anchors) :
    let after := Page.removeRows ((job.listed page).map (·.node)) settings.rowLevels page
    ∃ listing, job.run settings page =
      .ok (⟨listing, (job.listed page).length, after.2⟩, after.1) := by
  obtain ⟨x, hx⟩ := extraction_isOk_iff.2 hbase
  have hlisted : x.matched anchors = job.listed page := by
    simp [Extraction.matched, listed, ha, extraction_pattern hx]
  have hrun := run_eq settings hx ha
  rw [if_pos hremoves, Extraction.entries, Extraction.nodes, hlisted, List.length_map] at hrun
  exact ⟨_, hrun⟩

end

/-! ## Pages read from HTML -/

section

variable {page : LinkedPage} {f origin : Forest} {gone : List Nat} {root : Nat}

/-- A job does the same on a linked page and on the page of its trees. -/
theorem run_tree (h : page.Holds f) (job : Job) (settings : Settings) :
    (job.run settings page).map (fun o => (o.1, o.2.tree)) =
      job.run settings (⟨f⟩ : TreePage) := by
  cases hx : job.extraction with
  | error failure => simp [run, hx, Except.map]
  | ok x =>
    cases ha : Page.anchors? page with
    | none => simp [run, hx, ha, ← h.anchors?, Except.map]
    | some anchors =>
      have htree := h.anchors?.symm.trans ha
      obtain ⟨hrest, hcount⟩ := h.removeRows (x.nodes anchors) settings.rowLevels
      rw [run_eq settings hx ha, run_eq settings hx htree]
      cases job.removesRows with
      | false => simpa [Except.map] using h.tree
      | true => simpa [Except.map] using ⟨hcount, hrest.tree⟩

/-- What a job lists depends on the links of the page. -/
theorem listed_eq_links (job : Job) (page : LinkedPage) :
    (job.listed page).map PlacedAnchor.link =
      (page.links?.getD []).filter fun l => Text.occursIn job.pattern.toList l.2.toList := by
  rw [listed, select_links]
  show _ = ((page.anchors?.map (·.map PlacedAnchor.link)).getD []).filter _
  have ha : Page.anchors? page = page.anchors? := rfl
  rw [ha]
  cases page.anchors? <;> rfl

/-- What a job lists of a page it lists of what is left, if it stays. -/
theorem listed_removeRows (h : page.Holds (origin.without gone)) (hr : origin.Rooted root)
    (nodes : List Nat) (levels : Nat)
    (hroot : (page.removeRows nodes levels).1.isAttached root = true) (job : Job) :
    (job.listed (page.removeRows nodes levels).1).map PlacedAnchor.link =
      ((job.listed page).filter fun a =>
        page.Keeps (page.rows levels nodes) a.node).map PlacedAnchor.link := by
  let keeps (l : Nat × String) : Bool := page.Keeps (page.rows levels nodes) l.1
  have hlinks : (page.removeRows nodes levels).1.links? = page.links?.map (·.filter keeps) :=
    (h.links?_removeRows hr nodes levels).trans (if_pos hroot)
  have hgetD : (page.links?.map (·.filter keeps)).getD [] = (page.links?.getD []).filter keeps := by
    cases page.links? <;> rfl
  calc (job.listed (page.removeRows nodes levels).1).map PlacedAnchor.link
      = ((page.links?.getD []).filter keeps).filter fun l =>
          Text.occursIn job.pattern.toList l.2.toList := by
        rw [listed_eq_links, hlinks, hgetD]
    _ = ((job.listed page).map PlacedAnchor.link).filter keeps := by
        rw [listed_eq_links, List.filter_filter, List.filter_filter]
        simp only [Bool.and_comm]
    _ = _ := List.filter_map

theorem mem_ids_of_mem_listed (h : page.Holds (origin.without gone)) (hr : origin.Rooted root)
    {a : PlacedAnchor} (ha : a ∈ job.listed page) : a.node ∈ (origin.without gone).ids := by
  rw [listed, h.anchors?_of_rooted hr] at ha
  split at ha
  · exact Forest.mem_ids_of_mem_anchors (List.mem_of_mem_filter ha)
  · cases ha

/-- What a job lists when it runs again has no row on the page. -/
theorem rows_listed_rest (h : page.Holds (origin.without gone)) (hr : origin.Rooted root)
    (job : Job) (levels : Nat) :
    let rest := (page.removeRows ((job.listed page).map (·.node)) levels).1
    rest.isAttached root = true → rest.rows levels ((job.listed rest).map (·.node)) = [] := by
  intro rest hroot
  have hrest := h.removeRows_without ((job.listed page).map (·.node)) levels
  have hloses := h.loses ((job.listed page).map (·.node)) levels
  rw [List.eq_nil_iff_forall_not_mem]
  intro row hrow
  obtain ⟨hrow, ha⟩ := List.mem_filter.1 hrow
  obtain ⟨node, hnode, hrow⟩ := List.mem_filterMap.1 hrow
  obtain ⟨b, hb, rfl⟩ := List.mem_map.1 hnode
  have hlink := List.mem_map_of_mem (f := PlacedAnchor.link) hb
  rw [listed_removeRows h hr _ levels hroot job] at hlink
  obtain ⟨a, hmem, hab⟩ := List.mem_map.1 hlink
  obtain ⟨hlisted, hkeeps⟩ := List.mem_filter.1 hmem
  rw [decide_eq_true_eq] at hkeeps
  obtain ⟨hab, -⟩ := Prod.mk.inj hab
  have hin := mem_ids_of_mem_listed h hr hlisted
  have hstay := (hloses.attached a.node).2 ⟨h.isAttached_iff.2 hin, hkeeps⟩
  -- It has been asked for its row before and has been kept, so there was no such row; and what stays
  -- stands in the same nodes as before.
  have hle := h.length_ancestors_le hin (List.mem_map_of_mem hlisted) hkeeps
  rw [← hab] at hrow
  have hlt := (hrest.exists_rowOf?_iff (hrest.isAttached_iff.1 hstay)).1 ⟨row, hrow, ha⟩
  rw [hloses.ancestors a.node hstay] at hlt
  omega

/-- What a job lists again is what it has listed that has no row of its own and is in no other. -/
theorem listed_rest (h : page.Holds (origin.without gone)) (hr : origin.Rooted root)
    (job : Job) (levels : Nat) :
    let rows := page.rows levels ((job.listed page).map (·.node))
    let rest := (page.removeRows ((job.listed page).map (·.node)) levels).1
    rest.isAttached root = true → (job.listed rest).map PlacedAnchor.link =
      ((job.listed page).filter fun a => 1 ≤ levels ∧ (page.ancestors a.node).length ≤ levels ∧
        page.Keeps rows a.node).map PlacedAnchor.link := by
  intro rows rest hroot
  rw [listed_removeRows h hr _ levels hroot job]
  refine congrArg _ (List.filter_congr fun a ha => decide_eq_decide.2 ?_)
  refine ⟨fun hkeeps => ?_, fun hkeeps => hkeeps.2.2⟩
  have hin := mem_ids_of_mem_listed h hr ha
  have hle := h.length_ancestors_le hin (List.mem_map_of_mem ha) hkeeps
  have h0 : 0 ∈ page.ancestors a.node := by
    simpa [LinkedPage.isAttached] using h.isAttached_iff.2 hin
  have := List.length_pos_of_mem h0
  exact ⟨by omega, hle, hkeeps⟩

/-- What comes of a job that runs again on the page `rest` that it has left of `page`: it removes
nothing, and it lists what it has listed before that stands neither in a row that has gone nor in
more than `rowLevels` others, the document included. -/
structure Settled (job : Job) (settings : Settings) (page rest : LinkedPage) (second : Outcome) :
    Prop where
  run : job.run settings rest = .ok (second, rest)
  removed : second.removed = 0
  matched : second.matched = (job.listed rest).length
  listed :
    let rows := page.rows settings.rowLevels ((job.listed page).map (·.node))
    (job.listed rest).map PlacedAnchor.link =
      ((job.listed page).filter fun a => 1 ≤ settings.rowLevels ∧
        (page.ancestors a.node).length ≤ settings.rowLevels ∧
        page.Keeps rows a.node).map PlacedAnchor.link

theorem Settled.matched_eq_zero {rest : LinkedPage} {second : Outcome}
    (h : job.Settled settings page rest second)
    (hnone : settings.rowLevels = 0 ∨
      ∀ a ∈ job.listed page, settings.rowLevels < (page.ancestors a.node).length) :
    second.matched = 0 := by
  have hlength := congrArg List.length h.listed
  rw [List.length_map, List.length_map, ← h.matched] at hlength
  rw [hlength, List.length_eq_zero_iff, List.filter_eq_nil_iff]
  intro a ha
  rw [decide_eq_true_eq]
  rintro ⟨h1, hle, -⟩
  rcases hnone with h0 | hdeep
  · omega
  · have := hdeep a ha
    omega

theorem settled (h : page.Holds (origin.without gone)) (hr : origin.Rooted root)
    (settings : Settings) (hremoves : job.removesRows = true)
    (hbase : ∀ url, job.baseUrl = some url → ∃ base, readBaseUrl url = .ok base) :
    let rest := (page.removeRows ((job.listed page).map (·.node)) settings.rowLevels).1
    rest.isAttached root = true → ∃ second, job.Settled settings page rest second := by
  intro rest hroot
  have hrest := h.removeRows_without ((job.listed page).map (·.node)) settings.rowLevels
  rw [Forest.without_without] at hrest
  obtain ⟨listing, hrun⟩ := run_removes settings hremoves hbase
    (hrest.anchors?_of_isAttached hr hroot)
  have hsame : Page.removeRows ((job.listed rest).map (·.node)) settings.rowLevels rest =
      (rest, 0) :=
    LinkedPage.removeRows_of_rows_eq_nil (rows_listed_rest h hr job settings.rowLevels hroot)
  rw [hsame] at hrun
  exact ⟨_, hrun, rfl, rfl, listed_rest h hr job settings.rowLevels hroot⟩

end

/-! ## Tables -/

section

variable {page : TablePage}

/-- Whatever a job lists of a table goes with its row, if a table has such rows. -/
theorem listed_table_rest (h : page.Numbered) (job : Job) {levels : Nat} (hlevels : levels ≤ 3) :
    job.listed (page.removeRows ((job.listed page).map (·.node)) levels).1 = [] := by
  rw [List.eq_nil_iff_forall_not_mem]
  intro x hx
  obtain ⟨hx, hmatches⟩ := List.mem_filter.1 hx
  have hshrinks := page.removeRows_shrinks ((job.listed page).map (·.node)) levels
  have hlisted : x ∈ job.listed page :=
    List.mem_filter.2 ⟨hshrinks.anchors_subset hx, hmatches⟩
  obtain ⟨a, ha, hattached, hnode⟩ := TablePage.exists_of_mem_anchors hx
  rw [hshrinks.all] at ha
  rw [h.not_isAttached ha (hnode ▸ List.mem_map_of_mem hlisted) hlevels] at hattached
  cases hattached

end

/-- **A job that removes rows settles after one run.** On a page read from HTML, a second run removes
nothing and leaves the page as it is, as long as the first one leaves `html` on the page. It lists
what the first run has listed that stands neither in a row that has gone nor in more than
`rowLevels` others; nothing, if `rowLevels` is 0 or if everything stands in more. On a table, a
second run lists nothing; or the same as the first, if `rowLevels` is larger than 3, and then
neither removes anything. -/
theorem settles_after_one_run (job : Job) (settings : Settings) (hremoves : job.removesRows = true)
    (hbase : ∀ url, job.baseUrl = some url → ∃ base, readBaseUrl url = .ok base) :
    (∀ source removals,
      let page := (LinkedPage.ofSource source).removeAll removals
      (job.run settings page).map (fun o => (o.1, o.2.tree)) =
        job.run settings ((TreePage.ofSource source).removeAll removals) ∧
      ∃ html attributes, (LinkedPage.ofSource source).root? = some html ∧
        (LinkedPage.ofSource source).content? html = some (.element .html "html" attributes) ∧
        (page.isAttached html = true → ∃ first rest, job.run settings page = .ok (first, rest) ∧
          first.matched = (job.listed page).length ∧
          (rest.isAttached html = true → ∃ second,
            job.Settled settings page rest second ∧
            job.run settings rest.tree = .ok (second, rest.tree) ∧
            (settings.rowLevels = 0 ∨
                (∀ a ∈ job.listed page, settings.rowLevels < (page.ancestors a.node).length) →
              second.matched = 0)))) ∧
    ∀ changes,
      let page := TablePage.ofChanges changes
      ∃ first second rest, job.run settings page = .ok (first, rest) ∧
        job.run settings rest = .ok (second, rest) ∧ second.removed = 0 ∧
        (settings.rowLevels ≤ 3 → second.matched = 0) ∧
        (3 < settings.rowLevels → second.listing = first.listing ∧
          second.matched = first.matched ∧ first.removed = 0) := by
  constructor
  · intro source removals page
    obtain ⟨gone, h⟩ := LinkedPage.exists_holds_removeAll source removals
    obtain ⟨html, attributes, hroot, hcontent, hr⟩ := LinkedPage.root?_ofSource source
    refine ⟨run_tree (LinkedPage.holds_removeAll source removals) job settings,
      html, attributes, hroot, hcontent, fun hattached => ?_⟩
    obtain ⟨listing, hfirst⟩ := run_removes settings hremoves hbase
      (h.anchors?_of_isAttached hr hattached)
    refine ⟨_, _, hfirst, rfl, fun hstays => ?_⟩
    obtain ⟨second, hsettled⟩ := settled h hr settings hremoves hbase hstays
    have hrest := h.removeRows_without ((job.listed page).map (·.node)) settings.rowLevels
    have htree := run_tree hrest job settings
    rw [← hrest.tree, hsettled.run] at htree
    exact ⟨second, hsettled, htree.symm, hsettled.matched_eq_zero⟩
  · intro changes page
    have hpage := TablePage.numbered_ofChanges changes
    have hanchors (p : TablePage) : Page.anchors? p = some p.anchors := rfl
    obtain ⟨listing, hfirst⟩ := run_removes settings hremoves hbase (hanchors page)
    by_cases hlevels : settings.rowLevels ≤ 3
    · obtain ⟨relisting, hsecond⟩ := run_removes settings hremoves hbase
        (hanchors (page.removeRows ((job.listed page).map (·.node)) settings.rowLevels).1)
      rw [listed_table_rest hpage job hlevels] at hsecond
      exact ⟨_, _, _, hfirst, hsecond, rfl, fun _ => rfl, fun h => absurd hlevels (by omega)⟩
    · have hnone : Page.removeRows ((job.listed page).map (·.node)) settings.rowLevels page =
          (page, 0) := TablePage.removeRows_of_lt (by omega) _
      rw [hnone] at hfirst
      exact ⟨_, _, _, hfirst, hfirst, rfl, fun h => absurd h hlevels, fun _ => ⟨rfl, rfl, rfl⟩⟩

/-- The first link is not deep enough to have a row; it is listed time and again. -/
theorem settles_after_one_run_shallow :
    let job : Job := { pattern := "a", removesRows := true }
    let settings : Settings := { Config.standard.settings with rowLevels := 3 }
    let page := (LinkedPage.ofSource
      "<a href=a1>x</a><ul><li><b><a href=a2>y</a></b></ul>").removeAll []
    let table := TablePage.ofChanges [.add [(some "a1", "x")], .add [(some "a2", "y")]]
    (∃ first rest second, job.run settings page = .ok (first, rest) ∧ first.matched = 2 ∧
      job.run settings rest = .ok (second, rest) ∧ second.matched = 1 ∧ second.removed = 0) ∧
    ∃ first second rest, job.run settings table = .ok (first, rest) ∧
      job.run settings rest = .ok (second, rest) ∧ second.matched = 0 := by
  intro job settings page table
  obtain ⟨hpage, htable⟩ := settles_after_one_run job settings rfl (fun _ h => nomatch h)
  constructor
  · obtain ⟨-, html, -, hroot, -, hrun⟩ :=
      hpage "<a href=a1>x</a><ul><li><b><a href=a2>y</a></b></ul>" []
    obtain rfl : html = 1 := Option.some.inj (hroot.symm.trans (by decide +kernel))
    obtain ⟨first, rest, hfirst, hmatched, hsecond⟩ := hrun (by decide +kernel)
    have hstays : (job.run settings page).toOption.map (fun o => o.2.isAttached 1) = some true := by
      decide +kernel
    rw [hfirst] at hstays
    obtain ⟨second, hsettled, -⟩ := hsecond (Option.some.inj hstays)
    have hlisted : (job.listed page).length = 2 := by decide +kernel
    have hagain : (job.listed rest).map PlacedAnchor.link = [(4, "a1")] :=
      hsettled.listed.trans (by decide +kernel)
    refine ⟨first, rest, second, hfirst, hmatched.trans hlisted, hsettled.run, ?_, hsettled.removed⟩
    rw [hsettled.matched, ← List.length_map, hagain]
    rfl
  · obtain ⟨first, second, rest, hfirst, hsecond, -, hnone, -⟩ :=
      htable [.add [(some "a1", "x")], .add [(some "a2", "y")]]
    exact ⟨first, second, rest, hfirst, hsecond, hnone (Nat.le_refl 3)⟩

end Job

end ReleaseListing
