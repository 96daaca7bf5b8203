import Mathlib.Data.List.Flatten
import Mathlib.Data.Set.Function
import Mathlib.Order.Interval.Set.Defs
import ReleaseListing.Proofs.Page.Removal
import ReleaseListing.Proofs.Page.Table

/-!
# Tables laid out as trees

A `Layout` is a tree that shows a table of links: a body with an element for every row, in it an
element for its cell, and in the cell the `a` elements of the row, whatever the numbers of the
nodes are, as long as they are distinct. `Layout.number` leads from the numbers of the table to
those of the tree:

* `all_translated`: the anchors of the table are the `a` elements of the tree;
* `lineage?_number`: they stand in the same rows and cells;
* `anchors_without`: they go with the same of them.
-/

namespace ReleaseListing

open Html (Attribute Content Forest plainValue?)

/-- The table to which rows with the given links and texts are added, one after the other. A row may
hold one link, several, or an anchor without a link. -/
def TablePage.ofRows (rows : List (List (Option String × String))) : TablePage :=
  rows.foldl (fun p row => p.addRow row) {}

/-- The anchor with other numbers. -/
def TableAnchor.translate (φ : Nat → Nat) (a : TableAnchor) : TableAnchor :=
  { a with node := φ a.node, cell := φ a.cell, row := φ a.row }

/-- The anchor by its number, if it has a link. -/
def TableAnchor.placed? (a : TableAnchor) : Option PlacedAnchor :=
  a.href.map fun href => ⟨a.node, href, a.text⟩

/-- The anchor with another number. -/
def PlacedAnchor.translate (φ : Nat → Nat) (a : PlacedAnchor) : PlacedAnchor :=
  { a with node := φ a.node }

namespace Layout

/-- An element that is no anchor, for a row or a cell. -/
structure Box where
  node : Nat
  name : String
  attributes : List Attribute := []
  name_ne : name ≠ "a"

def Box.content (b : Box) : Content := .element .html b.name b.attributes

/-- An `a` element and the texts in it. -/
structure Link where
  node : Nat
  attributes : List Attribute
  texts : List (Nat × List Char)

namespace Link

def href (l : Link) : Option String := plainValue? "href" l.attributes

def text (l : Link) : String := String.ofList (l.texts.flatMap (·.2))

end Link

structure Row where
  row : Box
  cell : Box
  links : List Link

namespace Row

/-- The links and texts of the row. -/
def given (r : Row) : List (Option String × String) := r.links.map fun l => (l.href, l.text)

/-- The numbers of the row that the table has numbers for, in the order of those. -/
def numbers (r : Row) : List Nat := r.row.node :: r.cell.node :: r.links.map (·.node)

/-- The numbers of the texts. -/
def words (r : Row) : List Nat := r.links.flatMap fun l => l.texts.map (·.1)

/-- The anchors of the row, with the numbers of the tree. -/
def anchors (r : Row) : List TableAnchor :=
  r.links.map fun l => ⟨l.node, r.cell.node, r.row.node, l.href, l.text⟩

end Row

def ofTexts : List (Nat × List Char) → Forest
  | [] => .nil
  | (i, cs) :: texts => .node i (.text cs) .nil (ofTexts texts)

def ofLinks : List Link → Forest
  | [] => .nil
  | l :: links => .node l.node (.element .html "a" l.attributes) (ofTexts l.texts) (ofLinks links)

def ofRows : List Row → Forest
  | [] => .nil
  | r :: rows =>
    .node r.row.node r.row.content (.single r.cell.node r.cell.content (ofLinks r.links))
      (ofRows rows)

/-- The tree of a page with the rows. -/
def tree (html body : Nat) (rows : List Row) : Forest :=
  .single html (.element .html "html" []) (.single body (.element .html "body" []) (ofRows rows))

end Layout

/-- A tree that shows a table. -/
structure Layout where
  html : Nat
  body : Nat
  rows : List Layout.Row
  numbered : (Layout.tree html body rows).Numbered

namespace Layout

/-- The page of the tree. -/
def page (l : Layout) : TreePage := ⟨tree l.html l.body l.rows⟩

/-- The rows of the table that the tree shows. -/
def given (l : Layout) : List (List (Option String × String)) := l.rows.map Row.given

/-- The table that the tree shows. -/
def table (l : Layout) : TablePage := .ofRows l.given

/-- The numbers of the tree that the table has numbers for, in the order of those. -/
def numbers (l : Layout) : List Nat := l.body :: l.rows.flatMap Row.numbers

/-- The number that a number of the table stands for in the tree. -/
def number (l : Layout) (n : Nat) : Nat := l.numbers.getD n 0

variable {l : Layout} {gone : List Nat}

theorem numbered_page (l : Layout) : l.page.nodes.Numbered := l.numbered

theorem rooted_page (l : Layout) : l.page.nodes.Rooted l.html := .inl ⟨rfl, rfl, trivial⟩

/-! ## The numbers of the tree -/

theorem Box.link?_content (b : Box) : b.content.link? = none := by
  simp [Box.content, Content.link?, b.name_ne]

theorem ids_ofTexts (texts : List (Nat × List Char)) : (ofTexts texts).ids = texts.map (·.1) := by
  induction texts with
  | nil => rfl
  | cons t texts ih => simp [ofTexts, Forest.ids, ih]

theorem ids_ofLinks (links : List Link) :
    (ofLinks links).ids.Perm
      (links.map (·.node) ++ links.flatMap fun l => l.texts.map (·.1)) := by
  induction links with
  | nil => exact .refl _
  | cons l links ih =>
    simp only [ofLinks, Forest.ids, ids_ofTexts, List.map_cons, List.flatMap_cons, List.cons_append]
    exact .cons _ ((List.Perm.append_left _ ih).trans (List.perm_append_comm_assoc ..))

theorem ids_ofRows (rows : List Row) :
    (ofRows rows).ids.Perm (rows.flatMap Row.numbers ++ rows.flatMap Row.words) := by
  induction rows with
  | nil => exact .refl _
  | cons r rows ih =>
    have hrow : (r.row.node :: r.cell.node :: (ofLinks r.links).ids).Perm (r.numbers ++ r.words) :=
      .cons _ (.cons _ (ids_ofLinks r.links))
    have := hrow.append ih
    simp only [ofRows, Forest.single, Forest.ids, List.flatMap_cons, List.append_nil,
      List.cons_append] at this ⊢
    refine this.trans ?_
    rw [List.append_assoc, List.append_assoc]
    exact List.Perm.append_left _ (List.perm_append_comm_assoc ..)

theorem ids_perm (l : Layout) :
    l.page.nodes.ids.Perm (l.html :: (l.numbers ++ l.rows.flatMap Row.words)) := by
  have := ids_ofRows l.rows
  simp only [page, tree, Forest.single, Forest.ids, List.append_nil, numbers, List.cons_append]
  exact .cons _ (.cons _ this)

theorem nodup_numbers (l : Layout) :
    l.html ∉ l.numbers ∧ l.numbers.Nodup ∧ ∀ i ∈ l.rows.flatMap Row.words, i ∉ l.numbers := by
  have h : (l.html :: (l.numbers ++ l.rows.flatMap Row.words)).Nodup :=
    l.ids_perm.nodup_iff.1 l.numbered_page.nodup
  simp only [List.nodup_cons, List.mem_append, not_or, List.nodup_append] at h
  obtain ⟨⟨hhtml, -⟩, hnum, -, hd⟩ := h
  exact ⟨hhtml, hnum, fun i hi hi' => hd i hi' i hi rfl⟩

/-! ## The anchors of the tree -/

theorem text_ofTexts (texts : List (Nat × List Char)) :
    (ofTexts texts).text = texts.flatMap (·.2) := by
  induction texts with
  | nil => rfl
  | cons t texts ih => simp [ofTexts, Forest.text, ih]

theorem anchors_ofTexts (texts : List (Nat × List Char)) : (ofTexts texts).anchors = [] := by
  induction texts with
  | nil => rfl
  | cons t texts ih => simp [ofTexts, Forest.anchors, Content.link?, ih]

theorem anchors_ofLinks_without (links : List Link)
    (hw : ∀ i ∈ links.flatMap (fun l => l.texts.map (·.1)), i ∉ gone) :
    ((ofLinks links).without gone).anchors =
      (links.filter (·.node ∉ gone)).filterMap fun l =>
        l.href.map fun href => ⟨l.node, href, l.text⟩ := by
  induction links with
  | nil => rfl
  | cons l links ih =>
    simp only [List.flatMap_cons, List.mem_append, or_imp, forall_and] at hw
    obtain ⟨hl, hlinks⟩ := hw
    have htexts : (ofTexts l.texts).without gone = ofTexts l.texts := by
      refine Forest.without_eq_self fun j hj hm => ?_
      rw [ids_ofTexts] at hm
      exact hl j hm hj
    by_cases hg : l.node ∈ gone
    · simp [ofLinks, Forest.without, hg, ih hlinks]
    · have hown : Forest.ownAnchor l.node (.element .html "a" l.attributes) (ofTexts l.texts) =
          (l.href.map fun href => (⟨l.node, href, l.text⟩ : PlacedAnchor)).toList := by
        cases h : plainValue? "href" l.attributes <;>
          simp [Forest.ownAnchor, Content.link?, Link.href, Link.text, h, text_ofTexts]
      simp only [ofLinks, Forest.without, if_neg hg, htexts, Forest.anchors_node, hown,
        anchors_ofTexts, ih hlinks, List.nil_append]
      cases h : l.href <;> simp [hg, h]

theorem anchors_ofRows_without (rows : List Row) (hw : ∀ i ∈ rows.flatMap Row.words, i ∉ gone) :
    ((ofRows rows).without gone).anchors =
      ((rows.flatMap Row.anchors).filter fun a =>
        [a.node, a.cell, a.row].all (· ∉ gone)).filterMap TableAnchor.placed? := by
  induction rows with
  | nil => rfl
  | cons r rows ih =>
    simp only [List.flatMap_cons, List.mem_append, or_imp, forall_and] at hw
    obtain ⟨hr, hrows⟩ := hw
    have hlinks := anchors_ofLinks_without r.links hr
    rw [List.flatMap_cons, List.filter_append, List.filterMap_append, ← ih hrows, ofRows,
      Forest.without]
    by_cases hrow : r.row.node ∈ gone
    · have hnone : r.anchors.filter (fun a => [a.node, a.cell, a.row].all (· ∉ gone)) = [] := by
        simp [Row.anchors, hrow]
      rw [if_pos hrow, hnone, List.filterMap_nil, List.nil_append]
    · rw [if_neg hrow, Forest.anchors_node,
        Forest.ownAnchor_of_link?_eq_none (Box.link?_content r.row), Forest.without_single]
      by_cases hcell : r.cell.node ∈ gone
      · have hnone : r.anchors.filter (fun a => [a.node, a.cell, a.row].all (· ∉ gone)) = [] := by
          simp [Row.anchors, hcell]
        rw [if_pos hcell, hnone, List.filterMap_nil, Forest.anchors]
        rfl
      · rw [if_neg hcell, Forest.anchors_single,
          Forest.ownAnchor_of_link?_eq_none (Box.link?_content r.cell), hlinks, Row.anchors,
          List.filter_map, List.filterMap_map]
        simp [Function.comp_def, TableAnchor.placed?, hrow, hcell]

/-- The anchors that stay if none of their texts goes. -/
theorem anchors_page_without (l : Layout) (hhtml : l.html ∉ gone)
    (hw : ∀ i ∈ l.rows.flatMap Row.words, i ∉ gone) :
    (l.page.nodes.without gone).anchors =
      ((l.rows.flatMap Row.anchors).filter fun a =>
        [a.node, a.cell, a.row, l.body].all (· ∉ gone)).filterMap TableAnchor.placed? := by
  rw [page, tree, Forest.without_single, if_neg hhtml, Forest.anchors_single,
    Forest.ownAnchor_of_link?_eq_none rfl, Forest.without_single]
  by_cases hbody : l.body ∈ gone
  · simp [hbody, Forest.anchors]
  · rw [if_neg hbody, Forest.anchors_single, Forest.ownAnchor_of_link?_eq_none rfl,
      anchors_ofRows_without l.rows hw]
    simp [hbody]

/-! ## What the anchors of the tree stand in -/

theorem lineage?_ofLinks (links : List Link) (hn : (ofLinks links).ids.Nodup) :
    ∀ l ∈ links, (ofLinks links).lineage? l.node = some [l.node] := by
  induction links with
  | nil => simp
  | cons first links ih =>
    obtain ⟨-, hi, -, hnext, hd⟩ := Forest.nodup_node hn
    intro l hl
    rcases List.mem_cons.1 hl with rfl | hl
    · exact Forest.lineage?_node_self
    · have hlater := ih hnext l hl
      have hm := Forest.mem_of_lineage? hlater
      rw [ofLinks, Forest.lineage?_node_of_mem_next hi (fun hc => hd _ hc hm) hm, hlater]

theorem lineage?_ofRows (rows : List Row) (hn : (ofRows rows).ids.Nodup) :
    ∀ a ∈ rows.flatMap Row.anchors,
      (ofRows rows).lineage? a.node = some [a.node, a.cell, a.row] := by
  induction rows with
  | nil => simp
  | cons r rows ih =>
    obtain ⟨hic, hin, hcell, hnext, hd⟩ := Forest.nodup_node hn
    obtain ⟨hic', -, hlinks, -, -⟩ := Forest.nodup_node hcell
    intro a ha
    rcases List.mem_append.1 (List.flatMap_cons .. ▸ ha) with ha | ha
    · obtain ⟨l, hl, rfl⟩ := List.mem_map.1 ha
      have hinner := lineage?_ofLinks r.links hlinks l hl
      have hm := Forest.mem_of_lineage? hinner
      have hm' : l.node ∈ (Forest.single r.cell.node r.cell.content (ofLinks r.links)).ids :=
        Forest.mem_ids_node.2 (.inr (.inl hm))
      rw [ofRows, Forest.lineage?_node_of_mem_children hic hm', Forest.single,
        Forest.lineage?_node_of_mem_children hic' hm, hinner]
      rfl
    · have hlater := ih hnext a ha
      have hm := Forest.mem_of_lineage? hlater
      rw [ofRows, Forest.lineage?_node_of_mem_next hin (fun hc => hd _ hc hm) hm, hlater]

theorem lineage?_page (l : Layout) : ∀ a ∈ l.rows.flatMap Row.anchors,
    l.page.nodes.lineage? a.node = some [a.node, a.cell, a.row, l.body, l.html] := by
  intro a ha
  obtain ⟨hhtml, -, hinner, -, -⟩ := Forest.nodup_node l.numbered_page.nodup
  obtain ⟨hbody, -, hrows, -, -⟩ := Forest.nodup_node hinner
  have hline := lineage?_ofRows l.rows hrows a ha
  have hm := Forest.mem_of_lineage? hline
  rw [page, tree, Forest.single,
    Forest.lineage?_node_of_mem_children hhtml (Forest.mem_ids_node.2 (.inr (.inl hm))),
    Forest.single, Forest.lineage?_node_of_mem_children hbody hm, hline]
  rfl

/-! ## The table -/

/-- The anchors of a row that is added, by the numbers `numbers` for those of the table. -/
theorem addRow_translated (earlier later : List Nat) {p : TablePage} (r : Row)
    (hp : p.next = earlier.length) :
    let φ := fun n => (earlier ++ (r.numbers ++ later)).getD n 0
    (p.addRow r.given).all.map (TableAnchor.translate φ) =
      p.all.map (TableAnchor.translate φ) ++ r.anchors := by
  intro φ
  have hφ : ∀ k, φ (earlier.length + k) = (r.numbers ++ later).getD k 0 := by
    intro k
    simp only [φ, List.getD_eq_getElem?_getD]
    rw [List.getElem?_append_right (Nat.le_add_right ..), Nat.add_sub_cancel_left]
  have hrow : φ earlier.length = r.row.node := hφ 0
  have hcell : φ (earlier.length + 1) = r.cell.node := hφ 1
  simp only [TablePage.addRow, List.map_append, hp]
  congr 1
  refine List.ext_getElem (by simp [Row.given, Row.anchors]) fun i h _ => ?_
  have hi : i < r.links.length := by simpa [Row.given] using h
  have hnode : φ (earlier.length + 2 + i) = r.links[i].node := by
    rw [Nat.add_assoc, hφ, Nat.add_comm 2 i]
    simp [Row.numbers, List.getElem?_append_left, hi]
  simp [TableAnchor.translate, Row.given, Row.anchors, hrow, hcell, hnode]

theorem foldl_addRow_translated (earlier : List Nat) {p : TablePage} (rows : List Row)
    (hp : p.next = earlier.length) :
    let numbers := earlier ++ rows.flatMap Row.numbers
    let q := (rows.map Row.given).foldl (fun p row => p.addRow row) p
    q.all.map (TableAnchor.translate fun n => numbers.getD n 0) =
        p.all.map (TableAnchor.translate fun n => numbers.getD n 0) ++ rows.flatMap Row.anchors ∧
      q.next = numbers.length := by
  induction rows generalizing earlier p with
  | nil => simp [hp]
  | cons r rows ih =>
    have hnext : (p.addRow r.given).next = (earlier ++ r.numbers).length := by
      simp [TablePage.addRow, Row.given, Row.numbers, hp]
      omega
    have hall := addRow_translated earlier (rows.flatMap Row.numbers) r hp
    obtain ⟨hrest, hlen⟩ := ih _ hnext
    simp only [List.append_assoc] at hrest hlen
    simp only [List.map_cons, List.foldl_cons, List.flatMap_cons]
    exact ⟨by rw [hrest, hall, List.append_assoc], hlen⟩

/-- The table is the tree by other numbers. -/
theorem all_translated (l : Layout) :
    l.table.all.map (TableAnchor.translate l.number) = l.rows.flatMap Row.anchors ∧
      l.table.next = l.numbers.length :=
  foldl_addRow_translated [l.body] l.rows rfl

theorem numbered_table (l : Layout) : l.table.Numbered :=
  List.foldlRecOn (motive := TablePage.Numbered) l.given _ TablePage.numbered_empty
    fun _ h row _ => h.addRow row

theorem table_removed (l : Layout) : l.table.removed = [] :=
  List.foldlRecOn (motive := fun p : TablePage => p.removed = []) l.given _ rfl
    fun _ h _ _ => h

/-! ## From the table to the tree -/

theorem number_mem {n : Nat} (h : n < l.table.next) : l.number n ∈ l.numbers := by
  rw [l.all_translated.2] at h
  simp [number, List.getD_eq_getElem?_getD, h]

/-- The numbers of the table stand for distinct ones of the tree. -/
theorem number_injOn (l : Layout) : Set.InjOn l.number (Set.Iio l.table.next) := by
  intro i hi j hj h
  rw [Set.mem_Iio, l.all_translated.2] at hi hj
  simp only [number, List.getD_eq_getElem?_getD, List.getElem?_eq_getElem hi,
    List.getElem?_eq_getElem hj, Option.getD_some] at h
  exact (l.nodup_numbers.2.1.getElem_inj_iff).1 h

theorem number_mem_map_iff {j : Nat} (hj : j < l.table.next)
    (hg : ∀ i ∈ gone, i < l.table.next) : l.number j ∈ gone.map l.number ↔ j ∈ gone := by
  refine ⟨fun h => ?_, List.mem_map_of_mem⟩
  obtain ⟨i, hi, he⟩ := List.mem_map.1 h
  exact l.number_injOn (hg i hi) hj he ▸ hi

theorem mem_anchors_of_mem_all {a : TableAnchor} (ha : a ∈ l.table.all) :
    a.translate l.number ∈ l.rows.flatMap Row.anchors := by
  rw [← l.all_translated.1]
  exact List.mem_map_of_mem ha

/-- An anchor stands in the row, the cell and the body that stand for its own. -/
theorem lineage?_number {a : TableAnchor} (ha : a ∈ l.table.all) :
    l.page.nodes.lineage? (l.number a.node) = some (a.lineage.map l.number ++ [l.html]) :=
  l.lineage?_page _ (mem_anchors_of_mem_all ha)

/-- The anchors of the table whose numbers have not gone are those of the tree. -/
theorem anchors_without (hg : ∀ i ∈ gone, i < l.table.next) :
    (l.page.nodes.without (gone.map l.number)).anchors =
      ((l.table.all.filter fun a => a.lineage.all (· ∉ gone)).filterMap
        TableAnchor.placed?).map (PlacedAnchor.translate l.number) := by
  obtain ⟨hhtml, -, hwords⟩ := l.nodup_numbers
  have hsub : ∀ i ∈ gone.map l.number, i ∈ l.numbers := by
    intro i hi
    obtain ⟨j, hj, rfl⟩ := List.mem_map.1 hi
    exact number_mem (hg j hj)
  rw [l.anchors_page_without (fun h => hhtml (hsub _ h)) fun i hi h => hwords i hi (hsub i h),
    ← l.all_translated.1, List.filter_map, List.filterMap_map, List.map_filterMap]
  have hstay : l.table.all.filter ((fun a => [a.node, a.cell, a.row, l.body].all
        (· ∉ gone.map l.number)) ∘ TableAnchor.translate l.number) =
      l.table.all.filter fun a => a.lineage.all (· ∉ gone) := by
    refine List.filter_congr fun a ha => ?_
    show (a.lineage.map l.number).all (· ∉ gone.map l.number) = _
    rw [List.all_map, Bool.eq_iff_iff]
    simp only [List.all_eq_true, Function.comp_apply, decide_eq_true_eq]
    exact forall₂_congr fun j hj => not_congr (number_mem_map_iff (l.numbered_table.below a ha j hj) hg)
  rw [hstay]
  refine List.filterMap_congr fun a _ => ?_
  cases h : a.href <;> simp [TableAnchor.placed?, TableAnchor.translate, PlacedAnchor.translate, h]

/-! ## Every table has a tree -/

/-- The links of a row as `a` elements, with numbers from `n` on. -/
def linksFrom (n : Nat) : List (Option String × String) → List Link
  | [] => []
  | (href, text) :: row =>
    ⟨n, (href.map fun value => { name := "href", value }).toList, [(n + 1, text.toList)]⟩ ::
      linksFrom (n + 2) row

/-- The rows of a table as elements, with numbers from `n` on. -/
def rowsFrom (n : Nat) : List (List (Option String × String)) → List Row
  | [] => []
  | row :: rows =>
    ⟨⟨n, "tr", [], by decide⟩, ⟨n + 1, "td", [], by decide⟩, linksFrom (n + 2) row⟩ ::
      rowsFrom (n + 2 + 2 * row.length) rows

theorem linksFrom_spec (n : Nat) (row : List (Option String × String)) :
    (linksFrom n row).map (fun l => (l.href, l.text)) = row ∧
      (ofLinks (linksFrom n row)).ids = List.range' n (2 * row.length) := by
  induction row generalizing n with
  | nil => exact ⟨rfl, rfl⟩
  | cons x row ih =>
    obtain ⟨href, text⟩ := x
    obtain ⟨hgiven, hids⟩ := ih (n + 2)
    constructor
    · have hhref : plainValue? "href"
          (href.map fun value => ({ name := "href", value } : Attribute)).toList = href := by
        cases href <;> simp [plainValue?]
      simpa [linksFrom, Link.href, Link.text, hhref] using hgiven
    · simp [linksFrom, ofLinks, ofTexts, Forest.ids, hids, Nat.mul_add, List.range'_succ]

theorem rowsFrom_spec (n : Nat) (rows : List (List (Option String × String))) :
    (rowsFrom n rows).map Row.given = rows ∧
      ∃ k, (ofRows (rowsFrom n rows)).ids = List.range' n k := by
  induction rows generalizing n with
  | nil => exact ⟨rfl, 0, rfl⟩
  | cons row rows ih =>
    obtain ⟨hgiven, k, hids⟩ := ih (n + 2 + 2 * row.length)
    obtain ⟨hrow, hlinks⟩ := linksFrom_spec (n + 2) row
    refine ⟨by simp [rowsFrom, Row.given, hrow, hgiven], 2 * row.length + k + 2, ?_⟩
    simp [rowsFrom, ofRows, Forest.single, Forest.ids, hlinks, hids, List.range'_succ,
      ← List.range'_append_1]

/-- Every table of links is shown by a tree. -/
theorem exists_given (rows : List (List (Option String × String))) :
    ∃ l : Layout, l.given = rows := by
  obtain ⟨hgiven, k, hids⟩ := rowsFrom_spec 3 rows
  have hnum : (tree 1 2 (rowsFrom 3 rows)).Numbered := by
    refine Forest.numbered_of_ids (n := 1) (k := k + 2) Nat.one_pos ?_
    simp [tree, Forest.single, Forest.ids, hids, List.range'_succ]
  exact ⟨⟨1, 2, rowsFrom 3 rows, hnum⟩, hgiven⟩

end Layout

end ReleaseListing
