import ReleaseListing.Proofs.Job.Stages
import ReleaseListing.Proofs.Page.Layout

/-!
# A table and its tree answer alike

A page is asked for its anchors and its entries, jobs run on it, and rows are removed, in any order
(`Request.serveAll`). A table and the tree that shows it keep in step (`Layout.Agree`): what has
gone from the tree is what the numbers that have gone from the table stand for. So they give the
same answers, by the numbers of the one or of the other (`serveAll_layout`).
-/

namespace ReleaseListing

open Html (Forest)

/-- What a page can be asked. -/
inductive Request where
  | anchors
  | select (pattern : String)
  | extract (x : Extraction)
  | run (job : Job) (settings : Settings)
  /-- Removes the rows of the anchors at the given places of the list of anchors, as it is then. -/
  | remove (places : List Nat) (levels : Nat)

inductive Answer where
  | anchors (anchors : List PlacedAnchor)
  | entries (entries : List Entry) (nodes : List Nat)
  | outcome (outcome : Outcome)
  | stop (stop : Job.Stop)
  | removed (count : Nat)
  deriving DecidableEq

/-- The answer by other numbers. -/
def Answer.translate (φ : Nat → Nat) : Answer → Answer
  | anchors as => anchors (as.map (PlacedAnchor.translate φ))
  | entries es nodes => entries es (nodes.map φ)
  | outcome o => outcome o
  | stop s => stop s
  | removed count => removed count

namespace Request

/-- How far above an anchor the request reaches. -/
def levels : Request → Nat
  | run _ settings => settings.rowLevels
  | remove _ levels => levels
  | _ => 0

section

variable {P : Type} [Page P]

/-- Goes on with the anchors of a page that has its root. -/
def withAnchors (page : P) (f : List PlacedAnchor → Answer × P) : Answer × P :=
  match Page.anchors? page with
  | none => (.stop .rootless, page)
  | some as => f as

theorem withAnchors_eq {page : P} {as : List PlacedAnchor} (h : Page.anchors? page = some as)
    (f : List PlacedAnchor → Answer × P) : withAnchors page f = f as := by
  rw [withAnchors, h]

/-- The answer of a page, and the page behind it. -/
def serve (page : P) : Request → Answer × P
  | anchors => withAnchors page fun as => (.anchors as, page)
  | select pattern => withAnchors page fun as => (.anchors (Page.select pattern as), page)
  | extract x => withAnchors page fun as => (.entries (x.entries as) (x.nodes as), page)
  | run job settings =>
    match job.run settings page with
    | .error stop => (.stop stop, page)
    | .ok (outcome, rest) => (.outcome outcome, rest)
  | remove places levels => withAnchors page fun as =>
    let (rest, count) :=
      Page.removeRows (places.filterMap fun i => as[i]?.map (·.node)) levels page
    (.removed count, rest)

/-- The answers of a page to one request after the other. -/
def serveAll (page : P) : List Request → List Answer
  | [] => []
  | request :: requests => (request.serve page).1 :: serveAll (request.serve page).2 requests

end

end Request

namespace Layout

/-- The table and the tree have lost the same. -/
structure Agree (l : Layout) (p : TablePage) (t : TreePage) : Prop where
  all : p.all = l.table.all
  below : ∀ j ∈ p.removed, j < l.table.next
  nodes : t.nodes = l.page.nodes.without (p.removed.map l.number)

variable {l : Layout} {p : TablePage} {t : TreePage}

theorem agree (l : Layout) : l.Agree l.table l.page where
  all := rfl
  below := by simp [l.table_removed]
  nodes := by rw [l.table_removed, List.map_nil, Forest.without_nil]

namespace Agree

theorem numbered (h : l.Agree p t) : t.nodes.Numbered := by
  rw [h.nodes]
  exact l.numbered_page.without _

theorem html_not_mem (h : l.Agree p t) : l.html ∉ p.removed.map l.number := by
  intro hm
  obtain ⟨j, hj, he⟩ := List.mem_map.1 hm
  exact l.nodup_numbers.1 (he ▸ number_mem (h.below j hj))

/-! ## Anchors -/

/-- The anchors of the tree are those of the table. -/
theorem nodes_anchors (h : l.Agree p t) :
    t.nodes.anchors = p.anchors.map (PlacedAnchor.translate l.number) := by
  rw [h.nodes, anchors_without h.below, ← h.all]
  congr 2
  refine List.filter_congr fun a _ => ?_
  rw [TablePage.isAttached, Bool.eq_iff_iff]
  simp

theorem anchors? (h : l.Agree p t) :
    Page.anchors? t = some (p.anchors.map (PlacedAnchor.translate l.number)) := by
  rw [TreePage.anchors?_without l.rooted_page h.nodes, if_neg h.html_not_mem, h.nodes_anchors]

/-- An anchor of the table stands on the tree. -/
theorem exists_of_mem_anchors (h : l.Agree p t) {node : Nat}
    (hn : node ∈ p.anchors.map (·.node)) :
    ∃ a ∈ p.all, a.node = node ∧ l.number node ∈ t.nodes.ids := by
  obtain ⟨b, hb, rfl⟩ := List.mem_map.1 hn
  obtain ⟨a, ha, -, hnode⟩ := TablePage.exists_of_mem_anchors hb
  exact ⟨a, ha, hnode, Forest.mem_ids_of_mem_anchors (h.nodes_anchors ▸ List.mem_map_of_mem hb)⟩

/-! ## Rows -/

/-- The row of an anchor of the table stands for that of its node on the tree. -/
theorem rowOf? (h : l.Agree p t) {a : TableAnchor} (ha : a ∈ p.all)
    (hm : l.number a.node ∈ t.nodes.ids) {levels : Nat} (hlevels : levels ≤ 3) :
    ∃ row above, (row :: above) <:+ a.lineage ∧
      p.rowOf? levels a.node = some (row, above) ∧
      t.rowOf? levels (l.number a.node) = some (l.number row) := by
  have hlen : levels < a.lineage.length := Nat.lt_succ_of_le hlevels
  have hdrop := List.drop_eq_getElem_cons hlen
  have hline := l.lineage?_number (h.all ▸ ha)
  refine ⟨a.lineage[levels], a.lineage.drop (levels + 1), ?_, ?_, ?_⟩
  · rw [← hdrop]
    exact List.drop_suffix ..
  · rw [TablePage.rowOf?, TablePage.find?_node (h.all ▸ l.numbered_table.nodup) ha,
      Option.bind_some, hdrop]
  · rw [TreePage.rowOf?_of_mem l.numbered_page h.nodes hm, TreePage.rowOf?, hline, Option.bind_some,
      List.getElem?_append_left (by simp; omega), List.getElem?_append_left (by simpa using hlen),
      List.getElem?_map, List.getElem?_eq_getElem hlen]
    rfl

/-- A row stands on the tree if neither it nor anything above it has gone from the table. -/
theorem mem_ids_iff (h : l.Agree p t) {a : TableAnchor} (ha : a ∈ p.all) {row : Nat}
    {above : List Nat} (hrow : (row :: above) <:+ a.lineage) :
    l.number row ∈ t.nodes.ids ↔ ∀ j ∈ row :: above, j ∉ p.removed := by
  obtain ⟨below, hsplit⟩ := hrow
  have hline : l.page.nodes.lineage? (l.number row) =
      some ((row :: above).map l.number ++ [l.html]) := by
    have hwhole : l.page.nodes.lineage? (l.number a.node) =
        some (below.map l.number ++ l.number row :: (above.map l.number ++ [l.html])) := by
      rw [l.lineage?_number (h.all ▸ ha), ← hsplit]
      simp
    exact Forest.lineage?_suffix l.numbered_page.nodup hwhole
  have hbelow : ∀ j ∈ row :: above, j < l.table.next := fun j hj =>
    l.numbered_table.below a (h.all ▸ ha) j (hsplit ▸ List.mem_append_right _ hj)
  have hmem : ∀ j ∈ row :: above, l.number j ∈ p.removed.map l.number ↔ j ∈ p.removed :=
    fun j hj => number_mem_map_iff (hbelow j hj) h.below
  rw [h.nodes, Forest.mem_ids_without l.numbered_page.nodup,
    and_iff_right (Forest.mem_of_lineage? hline), Forest.spares_iff hline,
    List.forall_mem_append, List.forall_mem_map, List.forall_mem_singleton,
    and_iff_left h.html_not_mem]
  exact forall₂_congr fun j hj => not_congr (hmem j hj)

/-! ## Removing rows -/

theorem removeRow (h : l.Agree p t) {a : TableAnchor} (ha : a ∈ p.all) {row : Nat}
    {above : List Nat} (hrow : (row :: above) <:+ a.lineage) (count : Nat) :
    l.Agree (TablePage.removeRow (p, count) (row, above)).1
        (TreePage.removeRow (t, count) (l.number row)).1 ∧
      (TreePage.removeRow (t, count) (l.number row)).2 =
        (TablePage.removeRow (p, count) (row, above)).2 := by
  have hiff := h.mem_ids_iff ha hrow
  have hbelow : row < l.table.next :=
    l.numbered_table.below a (h.all ▸ ha) row (hrow.subset List.mem_cons_self)
  rw [TreePage.removeRow, TablePage.removeRow, Forest.remove?_eq h.numbered.nodup]
  by_cases hmem : l.number row ∈ t.nodes.ids
  · have hstay : ¬(row :: above).any p.removed.contains = true := by
      simpa using hiff.1 hmem
    rw [if_pos hmem, if_neg hstay]
    refine ⟨⟨h.all, ?_, ?_⟩, rfl⟩
    · exact List.forall_mem_cons.2 ⟨hbelow, h.below⟩
    · show t.nodes.without [l.number row] = _
      rw [h.nodes, Forest.without_without]
      exact Forest.without_congr fun j _ => by simp [or_comm]
  · have hgone : (row :: above).any p.removed.contains = true := by
      by_contra hstay
      exact hmem (hiff.2 (by simpa using hstay))
    rw [if_neg hmem, if_pos hgone]
    exact ⟨h, rfl⟩

theorem foldl_removeRow (h : l.Agree p t) (rows : List (Nat × List Nat))
    (hrows : ∀ r ∈ rows, ∃ a ∈ p.all, (r.1 :: r.2) <:+ a.lineage) (count : Nat) :
    let q := rows.foldl TablePage.removeRow (p, count)
    let u := (rows.map fun r => l.number r.1).foldl TreePage.removeRow (t, count)
    l.Agree q.1 u.1 ∧ u.2 = q.2 := by
  induction rows generalizing p t count with
  | nil => exact ⟨h, rfl⟩
  | cons r rows ih =>
    obtain ⟨⟨a, ha, hrow⟩, hrest⟩ := List.forall_mem_cons.1 hrows
    obtain ⟨hagree, hcount⟩ := h.removeRow ha hrow count
    have hall : (TablePage.removeRow (p, count) r).1.all = p.all := hagree.all.trans h.all.symm
    have hu : TreePage.removeRow (t, count) (l.number r.1) =
        ((TreePage.removeRow (t, count) (l.number r.1)).1,
          (TablePage.removeRow (p, count) r).2) := Prod.ext rfl hcount
    simp only [List.foldl_cons, List.map_cons]
    rw [hu]
    exact ih hagree (by rwa [hall]) _

/-- Removing the rows of anchors of the table removes as many of the tree. -/
theorem removeRows (h : l.Agree p t) {nodes : List Nat}
    (hnodes : ∀ node ∈ nodes, node ∈ p.anchors.map (·.node)) {levels : Nat}
    (hlevels : levels ≤ 3) :
    let q := Page.removeRows nodes levels p
    let u := Page.removeRows (nodes.map l.number) levels t
    l.Agree q.1 u.1 ∧ u.2 = q.2 := by
  have hrow : ∀ node ∈ nodes, ∃ a ∈ p.all, ∃ row above, (row :: above) <:+ a.lineage ∧
      p.rowOf? levels node = some (row, above) ∧
      t.rowOf? levels (l.number node) = some (l.number row) := by
    intro node hn
    obtain ⟨a, ha, rfl, hm⟩ := h.exists_of_mem_anchors (hnodes node hn)
    exact ⟨a, ha, h.rowOf? ha hm hlevels⟩
  have hrows : (nodes.map l.number).filterMap (t.rowOf? levels) =
      (nodes.filterMap (p.rowOf? levels)).map fun r => l.number r.1 := by
    rw [List.filterMap_map, List.map_filterMap]
    refine List.filterMap_congr fun node hn => ?_
    obtain ⟨a, -, row, above, -, hp, ht⟩ := hrow node hn
    simp [hp, ht]
  show l.Agree (p.removeRows nodes levels).1 (t.removeRows (nodes.map l.number) levels).1 ∧
    (t.removeRows (nodes.map l.number) levels).2 = (p.removeRows nodes levels).2
  rw [TablePage.removeRows, TreePage.removeRows, hrows]
  refine h.foldl_removeRow _ (fun r hr => ?_) 0
  obtain ⟨node, hn, hr⟩ := List.mem_filterMap.1 hr
  obtain ⟨a, ha, row, above, hsuffix, hp, -⟩ := hrow node hn
  obtain rfl : (row, above) = r := Option.some.inj (hp.symm.trans hr)
  exact ⟨a, ha, hsuffix⟩

/-! ## Requests -/

theorem select_translate (φ : Nat → Nat) (pattern : String) (as : List PlacedAnchor) :
    Page.select pattern (as.map (PlacedAnchor.translate φ)) =
      (Page.select pattern as).map (PlacedAnchor.translate φ) := by
  rw [Page.select, List.filter_map]
  rfl

theorem entries_translate (φ : Nat → Nat) (x : Extraction) (as : List PlacedAnchor) :
    x.entries (as.map (PlacedAnchor.translate φ)) = x.entries as ∧
      x.nodes (as.map (PlacedAnchor.translate φ)) = (x.nodes as).map φ := by
  rw [Extraction.entries, Extraction.nodes, Extraction.matched, select_translate]
  simp [Extraction.entries, Extraction.nodes, Extraction.matched, PlacedAnchor.translate]

theorem mem_anchors_of_mem_nodes {x : Extraction} {as : List PlacedAnchor} {node : Nat}
    (h : node ∈ x.nodes as) : node ∈ as.map (·.node) :=
  (List.filter_sublist.map _).subset h

/-- A job comes to the same on the table and on the tree. -/
theorem run (h : l.Agree p t) (job : Job) {settings : Settings}
    (hlevels : settings.rowLevels ≤ 3) :
    (∃ stop, job.run settings p = .error stop ∧ job.run settings t = .error stop) ∨
      ∃ outcome q u, job.run settings p = .ok (outcome, q) ∧
        job.run settings t = .ok (outcome, u) ∧ l.Agree q u := by
  have hp : Page.anchors? p = some p.anchors := rfl
  cases hx : job.extraction with
  | error e => exact .inl ⟨.failure e, by simp [Job.run, hx], by simp [Job.run, hx]⟩
  | ok x =>
    obtain ⟨hentries, hnodes⟩ := entries_translate l.number x p.anchors
    have hq := Job.run_eq settings hx hp
    have hu := Job.run_eq settings hx h.anchors?
    rw [hentries, hnodes] at hu
    right
    cases hr : job.removesRows with
    | false =>
      simp only [hr, Bool.false_eq_true, if_false] at hq hu
      exact ⟨_, _, _, hq, hu, h⟩
    | true =>
      obtain ⟨hagree, hcount⟩ := h.removeRows (fun _ => mem_anchors_of_mem_nodes) hlevels
      simp only [hr, if_true] at hq hu
      exact ⟨_, _, _, hq, hcount ▸ hu, hagree⟩

/-- A request is answered alike, and leaves the table and the tree in step. -/
theorem serve (h : l.Agree p t) {request : Request} (hlevels : request.levels ≤ 3) :
    (request.serve t).1 = (request.serve p).1.translate l.number ∧
      l.Agree (request.serve p).2 (request.serve t).2 := by
  have hp : Page.anchors? p = some p.anchors := rfl
  cases request with
  | anchors =>
    simp only [Request.serve, Request.withAnchors_eq hp, Request.withAnchors_eq h.anchors?]
    exact ⟨rfl, h⟩
  | select pattern =>
    simp only [Request.serve, Request.withAnchors_eq hp, Request.withAnchors_eq h.anchors?,
      select_translate]
    exact ⟨rfl, h⟩
  | extract x =>
    obtain ⟨hentries, hnodes⟩ := entries_translate l.number x p.anchors
    simp only [Request.serve, Request.withAnchors_eq hp, Request.withAnchors_eq h.anchors?,
      hentries, hnodes]
    exact ⟨rfl, h⟩
  | run job settings =>
    rcases h.run job hlevels with ⟨stop, hq, hu⟩ | ⟨outcome, q, u, hq, hu, hagree⟩
    · simp only [Request.serve, hq, hu]
      exact ⟨rfl, h⟩
    · simp only [Request.serve, hq, hu]
      exact ⟨rfl, hagree⟩
  | remove places levels =>
    have hnodes : (places.filterMap fun i =>
          (p.anchors.map (PlacedAnchor.translate l.number))[i]?.map (·.node)) =
        (places.filterMap fun i => p.anchors[i]?.map (·.node)).map l.number := by
      rw [List.map_filterMap]
      refine List.filterMap_congr fun i _ => ?_
      simp [PlacedAnchor.translate, Function.comp_def]
    have hmem : ∀ node ∈ places.filterMap (fun i => p.anchors[i]?.map (·.node)),
        node ∈ p.anchors.map (·.node) := by
      intro node hn
      obtain ⟨i, -, hi⟩ := List.mem_filterMap.1 hn
      obtain ⟨a, ha, rfl⟩ := Option.map_eq_some_iff.1 hi
      exact List.mem_map_of_mem (List.mem_of_getElem? ha)
    obtain ⟨hagree, hcount⟩ := h.removeRows hmem hlevels
    simp only [Request.serve, Request.withAnchors_eq hp, Request.withAnchors_eq h.anchors?, hnodes]
    exact ⟨congrArg Answer.removed hcount, hagree⟩

theorem serveAll (h : l.Agree p t) {requests : List Request}
    (hlevels : ∀ request ∈ requests, request.levels ≤ 3) :
    Request.serveAll t requests =
      (Request.serveAll p requests).map (Answer.translate l.number) := by
  induction requests generalizing p t with
  | nil => rfl
  | cons request requests ih =>
    obtain ⟨hfirst, hrest⟩ := List.forall_mem_cons.1 hlevels
    obtain ⟨hanswer, hagree⟩ := h.serve hfirst
    rw [Request.serveAll, Request.serveAll, List.map_cons, hanswer, ih hagree hrest]

end Agree

/-- **A table stands for its tree.** For every table of links there are trees that show it. Whatever
the numbers of such a tree are, it answers any requests as the table does, by its own numbers, as
long as no request reaches above the body: with the same links and texts, entries, outcomes, stops
and numbers of rows removed. -/
theorem serveAll_layout (rows : List (List (Option String × String))) :
    (∃ l : Layout, l.given = rows) ∧
    ∀ l : Layout, l.given = rows →
      Set.InjOn l.number (Set.Iio (TablePage.ofRows rows).next) ∧
      ∀ requests : List Request, (∀ request ∈ requests, request.levels ≤ 3) →
        Request.serveAll l.page requests =
          (Request.serveAll (TablePage.ofRows rows) requests).map (Answer.translate l.number) := by
  refine ⟨exists_given rows, ?_⟩
  rintro l rfl
  exact ⟨l.number_injOn, fun requests hlevels => l.agree.serveAll hlevels⟩

/-- Two links of one row go at once, and what is left goes with the body. -/
theorem serveAll_layout_shared_row :
    let rows : List (List (Option String × String)) :=
      [[(some "/a", "a"), (some "/b", "b")], [(none, "c")], [(some "/d", "d")]]
    let requests : List Request := [.remove [1, 0] 2, .anchors, .remove [0, 0] 3, .anchors]
    ∃ l : Layout, l.given = rows ∧ (∀ request ∈ requests, request.levels ≤ 3) ∧
      Request.serveAll l.page requests =
        [.removed 1, .anchors [⟨l.number 10, "/d", "d"⟩], .removed 1, .anchors []] := by
  intro rows requests
  have hlevels : ∀ request ∈ requests, request.levels ≤ 3 := by decide
  have hanswers : Request.serveAll (TablePage.ofRows rows) requests =
      [.removed 1, .anchors [⟨10, "/d", "d"⟩], .removed 1, .anchors []] := by
    decide +kernel
  obtain ⟨⟨l, hl⟩, h⟩ := serveAll_layout rows
  refine ⟨l, hl, hlevels, ?_⟩
  rw [(h l hl).2 requests hlevels, hanswers]
  rfl

end Layout

end ReleaseListing
