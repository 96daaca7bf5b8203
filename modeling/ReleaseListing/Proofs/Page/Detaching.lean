import Mathlib.Data.Finset.Card
import Mathlib.Data.List.Sort
import ReleaseListing.Proofs.Page.Linking

/-!
# What goes with the rows

When the rows of nodes are removed, their trees go, and nothing else changes
(`removeRows_takes_rows`). The rows are those that the nodes have in front of the call, so neither
the order of the nodes matters, nor how often they are given, nor nodes that have been detached
before.

The count is another matter: a row that has gone with an earlier one does not count, so it depends
on the order of the rows (`removeRows_counts_cuts`).
-/

namespace ReleaseListing

open Html (Forest)

/-- The document is not removed, so it need not be among the rows. -/
theorem TreePage.removeRows_rows {p : TreePage} (h : p.nodes.Numbered) (nodes : List Nat)
    (levels : Nat) :
    p.removeRows nodes levels = (p.rows levels nodes).foldl removeRow (p, 0) := by
  rw [removeRows, rows]
  generalize nodes.filterMap (p.rowOf? levels) = rows
  generalize hs : (p, 0) = s
  have hn : s.1.nodes.Numbered := hs ▸ h
  clear hs h
  induction rows generalizing s with
  | nil => rfl
  | cons row rows ih =>
    by_cases h0 : row = 0
    · subst h0
      have hskip : removeRow s 0 = s := by
        rw [removeRow, Forest.remove?_eq hn.nodup, if_neg hn.zero_not_mem]
      rw [List.foldl_cons, hskip]
      simpa using ih s hn
    · have hstep : (removeRow s row).1.nodes.Numbered := by
        rw [removeRow_nodes hn]
        exact hn.without [row]
      simpa [h0] using ih _ hstep

namespace LinkedPage

/-- Neither the node nor anything that it stands in is one of `gone`. -/
def Keeps (p : LinkedPage) (gone : List Nat) (id : Nat) : Prop :=
  ∀ i ∈ id :: p.ancestors id, i ∉ gone

instance (p : LinkedPage) (gone : List Nat) (id : Nat) : Decidable (p.Keeps gone id) :=
  inferInstanceAs (Decidable (∀ i ∈ id :: p.ancestors id, i ∉ gone))

variable {p q : LinkedPage} {f : Forest} {gone nodes rows : List Nat} {id row levels : Nat}

namespace Holds

/-! ## Rows -/

/-- Of the rows of a node the same one is on the page: none if the node has been detached, and not
the document. -/
theorem filter_rowOf? (h : p.Holds f) (levels node : Nat) :
    (p.rowOf? levels node).filter p.isAttached =
      ((⟨f⟩ : TreePage).rowOf? levels node).filter (· != 0) := by
  by_cases hm : node ∈ f.ids
  · obtain ⟨line, hl⟩ := Forest.lineage?_of_mem hm
    rw [h.rowOf?_eq hm]
    cases hrow : (⟨f⟩ : TreePage).rowOf? levels node with
    | none => rfl
    | some row =>
      rw [TreePage.rowOf?, hl, Option.bind_some] at hrow
      have hiff : p.isAttached row = (row != 0) := by
        rw [Bool.eq_iff_iff, h.isAttached_iff, bne_iff_ne]
        refine ⟨fun hr e => h.numbered.zero_not_mem (e ▸ hr), fun h0 => ?_⟩
        have hline : row ∈ line := by simpa [h0] using List.mem_of_getElem? hrow
        exact Forest.mem_ids_of_mem_lineage h.numbered.nodup hl hline
      rw [Option.filter_some, Option.filter_some, hiff]
  · have hnone : (⟨f⟩ : TreePage).rowOf? levels node = none := TreePage.rowOf?_eq_none hm
    rw [hnone, Option.filter_none, Option.filter_eq_none_iff]
    intro row hrow ha
    exact h.not_mem_of_rowOf? hm hrow (h.isAttached_iff.1 ha)

/-- The rows are those of the page of the trees. -/
theorem rows_eq (h : p.Holds f) (levels : Nat) (nodes : List Nat) :
    p.rows levels nodes = (⟨f⟩ : TreePage).rows levels nodes := by
  rw [rows, TreePage.rows, List.filter_filterMap, List.filter_filterMap]
  exact List.filterMap_congr fun node _ => h.filter_rowOf? levels node

theorem mem_ids_of_mem_rows (h : p.Holds f) (hm : row ∈ p.rows levels nodes) : row ∈ f.ids :=
  h.isAttached_iff.1 (List.mem_filter.1 hm).2

theorem zero_not_mem_rows (h : p.Holds f) : 0 ∉ p.rows levels nodes := fun hm =>
  h.numbered.zero_not_mem (h.mem_ids_of_mem_rows hm)

theorem mem_rows_iff (h : p.Holds f) : row ∈ p.rows levels nodes ↔
    row ≠ 0 ∧ ∃ node ∈ nodes, p.isAttached node = true ∧ p.rowOf? levels node = some row := by
  rw [h.rows_eq, TreePage.mem_rows]
  refine and_congr_right fun _ => exists_congr fun node => and_congr_right fun _ => ?_
  rw [h.isAttached_iff]
  constructor
  · intro hrow
    have hm : node ∈ f.ids := by
      by_contra hm
      rw [TreePage.rowOf?_eq_none hm] at hrow
      cases hrow
    exact ⟨hm, (h.rowOf?_eq hm).trans hrow⟩
  · rintro ⟨hm, hrow⟩
    exact h.rowOf?_eq hm ▸ hrow

/-! ## What stays -/

theorem keeps_iff (h : p.Holds f) (hm : id ∈ f.ids) (h0 : 0 ∉ gone) :
    p.Keeps gone id ↔ f.Spares gone id := by
  obtain ⟨line, hl⟩ := Forest.lineage?_of_mem hm
  rw [Keeps, h.ancestors hl, Forest.spares_iff hl, List.forall_mem_append,
    List.forall_mem_singleton, and_iff_left h0]

theorem mem_ids_without_iff (h : p.Holds f) (h0 : 0 ∉ gone) :
    id ∈ (f.without gone).ids ↔ id ∈ f.ids ∧ p.Keeps gone id := by
  rw [Forest.mem_ids_without h.numbered.nodup]
  exact and_congr_right fun hm => (h.keeps_iff hm h0).symm

theorem ids_without (h : p.Holds f) (h0 : 0 ∉ gone) :
    (f.without gone).ids = f.ids.filter fun id => p.Keeps gone id := by
  refine List.Pairwise.eq_of_mem_iff (h.grows.sublist (Forest.ids_without_sublist gone f))
    (h.grows.sublist List.filter_sublist) fun id => ?_
  rw [h.mem_ids_without_iff h0, List.mem_filter, decide_eq_true_eq]

/-- A node that stays has the same ancestors as before. -/
theorem ancestors_without (h : p.Holds f) (hq : q.Holds (f.without gone))
    (hm : id ∈ (f.without gone).ids) : q.ancestors id = p.ancestors id := by
  obtain ⟨line, hl⟩ := Forest.lineage?_of_mem hm
  have hup := (hq.ancestors hl).trans
    (h.ancestors (Forest.lineage?_without h.numbered.nodup hm ▸ hl)).symm
  exact (List.cons.inj hup).2

theorem removeRows_without (h : p.Holds f) (nodes : List Nat) (levels : Nat) :
    (p.removeRows nodes levels).1.Holds (f.without (p.rows levels nodes)) := by
  have hrest := (h.removeRows nodes levels).1
  rwa [TreePage.removeRows_nodes h.numbered, ← h.rows_eq] at hrest

end Holds

/-- The anchors of a page by their numbers and links; none if the page has lost its root. -/
def links? (p : LinkedPage) : Option (List (Nat × String)) :=
  p.anchors?.map (·.map PlacedAnchor.link)

/-- What is left of a page without the trees of `gone`: a node stays if neither it nor anything that
it stands in goes, and what stays has the place and the content that it had. -/
structure Loses (p : LinkedPage) (gone : List Nat) (rest : LinkedPage) : Prop where
  attached : ∀ id, rest.isAttached id = true ↔ p.isAttached id = true ∧ p.Keeps gone id
  order : rest.descendants 0 = (p.descendants 0).filter fun id => p.Keeps gone id
  ancestors : ∀ id, rest.isAttached id = true → rest.ancestors id = p.ancestors id
  content : ∀ id, rest.content? id = p.content? id
  html : rest.render = (p.tree.nodes.without gone).render

theorem Holds.loses (h : p.Holds f) (nodes : List Nat) (levels : Nat) :
    p.Loses (p.rows levels nodes) (p.removeRows nodes levels).1 := by
  have h0 : 0 ∉ p.rows levels nodes := h.zero_not_mem_rows
  have hrest := h.removeRows_without nodes levels
  constructor
  · intro id
    rw [hrest.isAttached_iff, h.isAttached_iff, h.mem_ids_without_iff h0]
  · have hkeeps : p.Keeps (p.rows levels nodes) 0 := by
      simpa [Keeps, h.ancestors_zero] using h0
    rw [hrest.descendants, h.descendants, h.ids_without h0]
    simp [hkeeps]
  · exact fun id ha => h.ancestors_without hrest (hrest.isAttached_iff.1 ha)
  · exact content?_removeRows p nodes levels
  · rw [render, hrest.tree, h.tree]
    rfl

/-- The rows depend on the nodes that are on the page, in whatever order and however often they are
given; so does the page that is left. -/
theorem Holds.removeRows_congr {nodes' : List Nat} (h : p.Holds f)
    (hsame : ∀ node, p.isAttached node = true → (node ∈ nodes' ↔ node ∈ nodes)) :
    (p.removeRows nodes' levels).1.tree = (p.removeRows nodes levels).1.tree := by
  rw [(h.removeRows_without nodes' levels).tree, (h.removeRows_without nodes levels).tree]
  refine congrArg TreePage.mk (Forest.without_congr fun row _ => ?_)
  rw [h.mem_rows_iff, h.mem_rows_iff]
  refine and_congr_right fun _ => exists_congr fun node => ?_
  by_cases ha : p.isAttached node = true
  · rw [hsame node ha]
  · simp [ha]

/-- While the root stays, so do the links of what stays. -/
theorem Holds.links?_removeRows {origin : Forest} {root : Nat} (h : p.Holds (origin.without gone))
    (hr : origin.Rooted root) (nodes : List Nat) (levels : Nat) :
    let rest := (p.removeRows nodes levels).1
    rest.links? = if rest.isAttached root then
      p.links?.map (·.filter fun l => p.Keeps (p.rows levels nodes) l.1) else none := by
  intro rest
  have h0 : 0 ∉ p.rows levels nodes := h.zero_not_mem_rows
  have hrest := h.removeRows_without nodes levels
  have hloses := h.loses nodes levels
  rw [Forest.without_without] at hrest
  show (Page.anchors? rest).map _ = _
  rw [hrest.anchors?_of_rooted hr]
  by_cases ha : rest.isAttached root = true
  · have hp : p.anchors? = some (origin.without gone).anchors :=
      h.anchors?_of_isAttached hr ((hloses.attached root).1 ha).1
    rw [if_pos ha, if_pos ha, links?, hp, ← Forest.without_without, Option.map_some, Option.map_some,
      Option.map_some, Forest.links_without h.numbered.nodup, List.filter_map]
    refine congrArg (some ∘ List.map PlacedAnchor.link) (List.filter_congr fun a hm => ?_)
    exact decide_eq_decide.2 (h.keeps_iff (Forest.mem_ids_of_mem_anchors hm) h0).symm
  · rw [if_neg ha, if_neg ha]
    rfl

theorem exists_holds_removeAll (source : String) (removals : List (List Nat × Nat)) :
    ∃ gone, ((ofSource source).removeAll removals).Holds ((Forest.ofSource source).without gone) := by
  have hp := holds_removeAll source removals
  obtain ⟨gone, hgone⟩ :=
    TreePage.removeAll_nodes (TreePage.numbered_ofSource source) removals
  rw [hgone, TreePage.ofSource_nodes] at hp
  exact ⟨gone, hp⟩

/-- **The trees of the rows go, and nothing else.** The rows are those that the nodes on the page
have in front of the call, apart from the document. Their trees go, the rest stays as it is, and
while the root is there, so do the links of the anchors outside of the rows. Neither the order of
the nodes matters, nor how often they are given, nor nodes that have been detached before. -/
theorem removeRows_takes_rows (source : String) (removals : List (List Nat × Nat))
    (nodes : List Nat) (levels : Nat) :
    let page := (ofSource source).removeAll removals
    let rows := page.rows levels nodes
    let rest := (page.removeRows nodes levels).1
    (∀ row, row ∈ rows ↔ row ≠ 0 ∧
      ∃ node ∈ nodes, page.isAttached node = true ∧ page.rowOf? levels node = some row) ∧
    page.Loses rows rest ∧
    (∃ html attributes, (ofSource source).root? = some html ∧
      (ofSource source).content? html = some (.element .html "html" attributes) ∧
      rest.links? = if rest.isAttached html then
        page.links?.map (·.filter fun l => page.Keeps rows l.1) else none) ∧
    (∀ nodes', (∀ node, page.isAttached node = true → (node ∈ nodes' ↔ node ∈ nodes)) →
      (page.removeRows nodes' levels).1.tree = rest.tree) ∧
    rest.tree = (((TreePage.ofSource source).removeAll removals).removeRows nodes levels).1 := by
  intro page rows rest
  obtain ⟨gone, hgone⟩ := exists_holds_removeAll source removals
  have hpage := holds_removeAll source removals
  obtain ⟨html, attributes, hroot, hcontent, hr⟩ := root?_ofSource source
  refine ⟨fun row => hpage.mem_rows_iff, hpage.loses nodes levels,
    ⟨html, attributes, hroot, hcontent, hgone.links?_removeRows hr nodes levels⟩,
    fun nodes' hsame => hpage.removeRows_congr hsame, ?_⟩
  exact (hpage.removeRows nodes levels).1.tree

/-- The paragraph has gone before; its link is asked for all the same, and the first one twice. -/
theorem removeRows_takes_rows_stale :
    let page := (ofSource "<div><a href=a>x</a><p><a href=b>y</a></p></div><a href=c>z</a>").removeAll
      [([8], 1)]
    let rest := (page.removeRows [8, 5, 5] 1).1
    page.rows 1 [8, 5, 5] = [4, 4] ∧ page.Loses [4, 4] rest ∧ rest.links? = some [(10, "c")] ∧
      (page.removeRows [5] 1).1.tree = rest.tree := by
  intro page rest
  have hrows : page.rows 1 [8, 5, 5] = [4, 4] := by decide +kernel
  obtain ⟨-, hloses, -, hsame, -⟩ := removeRows_takes_rows
    "<div><a href=a>x</a><p><a href=b>y</a></p></div><a href=c>z</a>" [([8], 1)] [8, 5, 5] 1
  refine ⟨hrows, hrows ▸ hloses, by decide +kernel, hsame [5] fun node ha => ?_⟩
  have hstale : page.isAttached 8 = false := by decide +kernel
  by_cases h8 : node = 8
  · rw [h8, hstale] at ha
    cases ha
  · simp [h8]

/-! ## Counting -/

/-- The rows that are cut off on their own: nothing that they stand in comes before them. -/
def cuts (p : LinkedPage) (rows : List Nat) : Finset Nat :=
  {row ∈ rows.toFinset | ∀ a ∈ p.ancestors row, a ∈ rows → ¬rows.idxOf a < rows.idxOf row}

theorem lt_of_mem_ancestors {a : Nat} (h : a ∈ p.ancestors id) : a < id := by
  induction id using Nat.strongRecOn with
  | ind id ih =>
    cases hq : p.parent? id with
    | none => simp [ancestors_of_none hq] at h
    | some q =>
      have hlt := parent?_lt hq
      rw [ancestors_of_parent? hq, List.mem_cons] at h
      rcases h with rfl | h
      · exact hlt
      · exact (ih q hlt h).trans hlt

theorem mem_cuts : id ∈ p.cuts rows ↔
    id ∈ rows ∧ ∀ a ∈ p.ancestors id, a ∈ rows → ¬rows.idxOf a < rows.idxOf id := by
  rw [cuts, Finset.mem_filter, List.mem_toFinset]

/-- A row that is there already counts as before, whatever comes behind. -/
theorem mem_cuts_concat_of_mem (h : id ∈ rows) (row : Nat) :
    id ∈ p.cuts (rows ++ [row]) ↔ id ∈ p.cuts rows := by
  rw [mem_cuts, mem_cuts, and_iff_right h, and_iff_right (List.mem_append_left _ h)]
  refine forall₂_congr fun a _ => ?_
  rw [List.idxOf_append_of_mem h, List.mem_append, List.mem_singleton]
  by_cases ha : a ∈ rows
  · simp [List.idxOf_append_of_mem ha, ha]
  · have hlt := List.idxOf_lt_length_of_mem h
    have hlast : ¬(rows ++ [row]).idxOf a < rows.idxOf id := by
      rw [List.idxOf_append_of_notMem ha]
      omega
    simp [ha, hlast]

/-- A new row counts if it stands in none of the rows in front of it. -/
theorem mem_cuts_concat_self (h : row ∉ rows) :
    row ∈ p.cuts (rows ++ [row]) ↔ p.Keeps rows row := by
  rw [mem_cuts, and_iff_right (by simp), Keeps, List.forall_mem_cons, and_iff_right h]
  refine forall₂_congr fun a ha => ?_
  have hne : a ≠ row := fun e => Nat.lt_irrefl row (lt_of_mem_ancestors (e ▸ ha))
  rw [List.idxOf_append_of_notMem h, List.mem_append, List.mem_singleton, or_iff_left hne]
  by_cases hm : a ∈ rows
  · have hlt := List.idxOf_lt_length_of_mem hm
    simp [hm, List.idxOf_append_of_mem hm, hlt]
  · simp [hm]

/-- One more row is cut off on its own if the rows in front of it have left it on the page. -/
theorem cuts_concat (p : LinkedPage) (rows : List Nat) (row : Nat) :
    p.cuts (rows ++ [row]) =
      if p.Keeps rows row then insert row (p.cuts rows) else p.cuts rows := by
  ext x
  by_cases hx : x ∈ rows
  · rw [mem_cuts_concat_of_mem hx]
    split
    · rename_i hk
      have hne : x ≠ row := fun e => hk row (by simp) (e ▸ hx)
      simp [hne]
    · rfl
  · have hout : x ∉ p.cuts rows := fun hm => hx (mem_cuts.1 hm).1
    by_cases he : x = row
    · subst he
      rw [mem_cuts_concat_self hx]
      split <;> simp_all
    · have hnone : x ∉ p.cuts (rows ++ [row]) := fun hm => by
        simpa [hx, he] using (mem_cuts.1 hm).1
      split <;> simp [hnone, hout, he]

theorem Holds.foldl_removeRow_count (h : p.Holds f) (hrows : ∀ row ∈ rows, row ∈ f.ids) :
    (rows.foldl TreePage.removeRow (⟨f⟩, 0)).2 = (p.cuts rows).card := by
  -- From the back, as it is the rows in front of a row that tell whether it counts.
  induction rows using List.reverseRecOn with
  | nil => rfl
  | append_singleton rows row ih =>
    have hearlier : ∀ r ∈ rows, r ∈ f.ids := fun r hr => hrows r (List.mem_append_left _ hr)
    have h0 : 0 ∉ rows := fun hm => h.numbered.zero_not_mem (hearlier 0 hm)
    have hnodes : (rows.foldl TreePage.removeRow (⟨f⟩, 0)).1.nodes = f.without rows :=
      TreePage.foldl_removeRow_nodes rows h.numbered
    have hstays : row ∈ (f.without rows).ids ↔ p.Keeps rows row := by
      rw [h.mem_ids_without_iff h0, and_iff_right (hrows row (by simp))]
    rw [List.foldl_concat, TreePage.removeRow, hnodes,
      Forest.remove?_eq (h.numbered.without rows).nodup, cuts_concat]
    by_cases hk : p.Keeps rows row
    · have hfresh : row ∉ p.cuts rows := fun hm =>
        hk row (by simp) (List.mem_toFinset.1 (Finset.mem_filter.1 hm).1)
      rw [if_pos (hstays.2 hk), if_pos hk, Finset.card_insert_of_notMem hfresh, ← ih hearlier]
    · rw [if_neg fun hm => hk (hstays.1 hm), if_neg hk]
      exact ih hearlier

/-- As many nodes are detached as there are rows to be cut off on their own. -/
theorem Holds.removeRows_count (h : p.Holds f) (nodes : List Nat) (levels : Nat) :
    (p.removeRows nodes levels).2 = (p.cuts (p.rows levels nodes)).card := by
  rw [(h.removeRows nodes levels).2, TreePage.removeRows_rows h.numbered, ← h.rows_eq]
  exact h.foldl_removeRow_count fun row hm => h.mem_ids_of_mem_rows hm

theorem card_cuts_le (p : LinkedPage) (rows : List Nat) : (p.cuts rows).card ≤ rows.length :=
  (Finset.card_filter_le _ _).trans rows.toFinset_card_le

theorem length_rows_le (p : LinkedPage) (levels : Nat) (nodes : List Nat) :
    (p.rows levels nodes).length ≤ nodes.length :=
  (List.length_filter_le _ _).trans (List.length_filterMap_le _ _)

/-- The row that comes first is always cut off. -/
theorem cuts_eq_empty_iff : p.cuts rows = ∅ ↔ rows = [] := by
  cases rows with
  | nil => simp [cuts]
  | cons row rows =>
    have hfirst : row ∈ p.cuts (row :: rows) := mem_cuts.2 ⟨List.mem_cons_self, by simp⟩
    simp [Finset.ne_empty_of_mem hfirst]

theorem Holds.rows_eq_nil_iff (h : p.Holds f) : p.rows levels nodes = [] ↔
    ∀ id, (p.removeRows nodes levels).1.isAttached id = p.isAttached id := by
  have hrest := h.removeRows_without nodes levels
  simp only [Bool.eq_iff_iff, h.isAttached_iff, hrest.isAttached_iff]
  constructor
  · intro hnil id
    rw [hnil, Forest.without_nil]
  · intro hsame
    by_contra hne
    obtain ⟨row, hm⟩ := List.exists_mem_of_ne_nil _ hne
    exact Forest.not_mem_ids_without hm ((hsame row).2 (h.mem_ids_of_mem_rows hm))

/-- **The count is exact.** As many nodes are detached as there are different rows that are not in a
row whose first place among the rows is in front of their own. So the count is at most the number
of the nodes and at least that of the rows that are in no other row, and it is 0 exactly if what is
on the page stays the same. -/
theorem removeRows_counts_cuts (source : String) (removals : List (List Nat × Nat))
    (nodes : List Nat) (levels : Nat) :
    let page := (ofSource source).removeAll removals
    let rows := page.rows levels nodes
    let count := (page.removeRows nodes levels).2
    0 ∉ rows ∧
    count = Finset.card {row ∈ rows.toFinset |
      ∀ a ∈ page.ancestors row, a ∈ rows → ¬rows.idxOf a < rows.idxOf row} ∧
    count ≤ nodes.length ∧
    Finset.card {row ∈ rows.toFinset | ∀ a ∈ page.ancestors row, a ∉ rows} ≤ count ∧
    (count = 0 ↔ ∀ id, (page.removeRows nodes levels).1.isAttached id = page.isAttached id) ∧
    count = (((TreePage.ofSource source).removeAll removals).removeRows nodes levels).2 := by
  intro page rows count
  have hpage := holds_removeAll source removals
  have hcount : count = (page.cuts rows).card := hpage.removeRows_count nodes levels
  refine ⟨hpage.zero_not_mem_rows, hcount, ?_, ?_, ?_, (hpage.removeRows nodes levels).2⟩
  · rw [hcount]
    exact (page.card_cuts_le rows).trans (page.length_rows_le levels nodes)
  · rw [hcount]
    refine Finset.card_le_card (Finset.monotone_filter_right _ fun row _ hrow => ?_)
    exact fun a ha hm => absurd hm (hrow a ha)
  · rw [hcount, Finset.card_eq_zero, cuts_eq_empty_iff]
    exact hpage.rows_eq_nil_iff

/-- One row is in the other. Its own node comes second, or first. -/
theorem removeRows_counts_cuts_nested :
    let page := (ofSource "<div><a href=a>x</a><p><a href=b>y</a></p></div>").removeAll []
    page.rows 1 [5, 8] = [4, 7] ∧ (page.removeRows [5, 8] 1).2 = 1 ∧
      (page.removeRows [8, 5] 1).2 = 2 ∧ 0 ∉ page.rows 1 [5, 8] := by
  intro page
  obtain ⟨h0, -⟩ := removeRows_counts_cuts
    "<div><a href=a>x</a><p><a href=b>y</a></p></div>" [] [5, 8] 1
  exact ⟨by decide +kernel, by decide +kernel, by decide +kernel, h0⟩

end LinkedPage

end ReleaseListing
