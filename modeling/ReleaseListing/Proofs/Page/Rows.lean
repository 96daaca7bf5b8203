import Mathlib.Data.List.Flatten
import Mathlib.Data.List.Pairwise
import ReleaseListing.Proofs.Page.Table

/-!
# Tables row by row

The rows of a table have the numbers that follow each other from 1 on, whatever is removed in
between (`rows`, `Built`). So no number is given out twice, a row that is added stands behind all
others, and an anchor that has gone stays away (`numbers_given_once`).
-/

namespace ReleaseListing.TablePage

/-- A row with its numbers: its own, that of its cell, and those of the links in the cell. -/
structure Row where
  row : Nat
  cell : Nat
  links : List (Nat × Option String × String)
  deriving DecidableEq

namespace Row

/-- What the row has been added with. -/
def given (r : Row) : List (Option String × String) := r.links.map (·.2)

/-- The numbers of the row, in the order in which they are given out. -/
def numbers (r : Row) : List Nat := r.row :: r.cell :: r.links.map (·.1)

def anchors (r : Row) : List TableAnchor :=
  r.links.map fun (node, href, text) => { node, cell := r.cell, row := r.row, href, text }

/-- The anchors of the row that have a link, as a page lists them. -/
def placed (r : Row) : List PlacedAnchor :=
  r.links.filterMap fun (node, href, text) => href.map fun href => ⟨node, href, text⟩

/-- A row with the numbers from `n` on. -/
def numbered (n : Nat) (links : List (Option String × String)) : Row :=
  ⟨n, n + 1, (List.range' (n + 2) links.length).zip links⟩

end Row

/-- What a change adds, if it adds a row. -/
def Change.given? : Change → Option (List (Option String × String))
  | add links => some links
  | remove .. => none

/-- The rows that are added by changes, with the numbers from `n` on. -/
def rowsFrom (n : Nat) : List Change → List Row
  | [] => []
  | .add links :: changes => .numbered n links :: rowsFrom (n + 2 + links.length) changes
  | .remove .. :: changes => rowsFrom n changes

/-- All rows that have been added to a table. -/
def rows (changes : List Change) : List Row := rowsFrom 1 changes

/-- The table has been built of the rows: its anchors are theirs, and the numbers that have been
given out are those of the body and of the rows. -/
structure Built (p : TablePage) (rows : List Row) : Prop where
  all : p.all = rows.flatMap Row.anchors
  numbers : 0 :: rows.flatMap Row.numbers = List.range p.next
  removed : ∀ j ∈ p.removed, j < p.next

variable {p : TablePage} {rs : List Row} {r s : Row} {a : TableAnchor} {n : Nat}

/-! ## One row -/

theorem Row.given_numbered (n : Nat) (links : List (Option String × String)) :
    (Row.numbered n links).given = links :=
  List.map_snd_zip (by simp)

theorem Row.numbers_numbered (n : Nat) (links : List (Option String × String)) :
    (Row.numbered n links).numbers = List.range' n (2 + links.length) := by
  have hnodes : (Row.numbered n links).links.map (·.1) = List.range' (n + 2) links.length :=
    List.map_fst_zip (by simp)
  rw [Row.numbers, hnodes, Nat.add_comm 2, List.range'_succ, List.range'_succ]
  rfl

/-- Adding a row gives it the next numbers. -/
theorem addRow_all (p : TablePage) (links : List (Option String × String)) :
    (p.addRow links).all = p.all ++ (Row.numbered p.next links).anchors := by
  rw [addRow, List.append_cancel_left_eq]
  exact List.ext_getElem (by simp [Row.anchors, Row.numbered]) fun i _ _ => by
    simp [Row.anchors, Row.numbered]

/-- What an anchor stands in are its row and the body. -/
theorem lineage_of_mem_row (h : a ∈ r.anchors) :
    a.lineage = [a.node, r.cell, r.row, 0] ∧ a.node ∈ r.links.map (·.1) := by
  obtain ⟨⟨node, href, text⟩, hl, rfl⟩ := List.mem_map.1 h
  exact ⟨rfl, List.mem_map_of_mem hl⟩

theorem mem_lineage_of_mem_row (h : a ∈ r.anchors) {j : Nat} (hj : j ∈ a.lineage) :
    j = 0 ∨ j ∈ r.numbers := by
  obtain ⟨hline, hnode⟩ := lineage_of_mem_row h
  rw [hline] at hj
  simp only [List.mem_cons, List.not_mem_nil, or_false] at hj
  rcases hj with rfl | rfl | rfl | rfl
  · exact .inr (List.mem_cons_of_mem _ (List.mem_cons_of_mem _ hnode))
  · exact .inr (List.mem_cons_of_mem _ List.mem_cons_self)
  · exact .inr List.mem_cons_self
  · exact .inl rfl

/-! ## What every change keeps -/

theorem built_empty : Built {} [] := ⟨rfl, rfl, by simp⟩

namespace Built

theorem addRow (h : p.Built rs) (links : List (Option String × String)) :
    (p.addRow links).Built (rs ++ [.numbered p.next links]) where
  all := by rw [addRow_all, h.all, List.flatMap_append, List.flatMap_singleton]
  numbers := by
    have hnext : (p.addRow links).next = p.next + (2 + links.length) := Nat.add_assoc ..
    have hrange := List.range'_append_1 (s := 0) (m := p.next) (n := 2 + links.length)
    rw [Nat.zero_add] at hrange
    rw [List.flatMap_append, List.flatMap_singleton, ← List.cons_append, h.numbers,
      Row.numbers_numbered, hnext, List.range_eq_range', hrange, List.range_eq_range']
  removed := fun j hj => Nat.lt_of_lt_of_le (h.removed j hj) (by simp [TablePage.addRow]; omega)

/-- What has a number has been given it. -/
theorem lt_next (h : p.Built rs) (ha : a ∈ p.all) {j : Nat} (hj : j ∈ a.lineage) : j < p.next := by
  obtain ⟨r, hr, har⟩ := List.mem_flatMap.1 (h.all ▸ ha)
  rw [← List.mem_range, ← h.numbers]
  rcases mem_lineage_of_mem_row har hj with rfl | hj
  · exact List.mem_cons_self
  · exact List.mem_cons_of_mem _ (List.mem_flatMap.2 ⟨r, hr, hj⟩)

theorem removeRows (h : p.Built rs) (nodes : List Nat) (levels : Nat) :
    (p.removeRows nodes levels).1.Built rs := by
  have hshrinks := p.removeRows_shrinks nodes levels
  refine ⟨hshrinks.all ▸ h.all, hshrinks.next ▸ h.numbers, ?_⟩
  rw [hshrinks.next]
  refine List.foldlRecOn (motive := fun s : TablePage × Nat => ∀ j ∈ s.1.removed, j < p.next)
    _ _ h.removed fun s hs row hrow => ?_
  rw [removeRow]
  split
  · exact hs
  · obtain ⟨node, -, hrow⟩ := List.mem_filterMap.1 hrow
    obtain ⟨a, ha, -, hdrop⟩ := exists_of_rowOf? hrow
    have hmem : row.1 ∈ a.lineage := List.mem_of_mem_drop (hdrop ▸ List.mem_cons_self)
    exact List.forall_mem_cons.2 ⟨h.lt_next ha hmem, hs⟩

theorem change (h : p.Built rs) (c : Change) : (p.change c).Built (rs ++ rowsFrom p.next [c]) := by
  cases c with
  | add links => exact h.addRow links
  | remove nodes levels =>
    rw [rowsFrom, rowsFrom, List.append_nil]
    exact h.removeRows nodes levels

end Built

/-- What comes behind a change goes on with the next number. -/
theorem rowsFrom_cons (p : TablePage) (c : Change) (changes : List Change) :
    rowsFrom p.next (c :: changes) =
      rowsFrom p.next [c] ++ rowsFrom (p.change c).next changes := by
  cases c with
  | add links => rfl
  | remove nodes levels =>
    rw [change, (p.removeRows_shrinks nodes levels).next]
    rfl

theorem rowsFrom_append (p : TablePage) (changes later : List Change) :
    rowsFrom p.next (changes ++ later) =
      rowsFrom p.next changes ++ rowsFrom (changes.foldl change p).next later := by
  induction changes generalizing p with
  | nil => rfl
  | cons c changes ih =>
    rw [List.cons_append, rowsFrom_cons, ih, rowsFrom_cons p c changes, List.append_assoc]
    rfl

theorem Built.foldl_change (h : p.Built rs) (changes : List Change) :
    (changes.foldl TablePage.change p).Built (rs ++ rowsFrom p.next changes) := by
  induction changes generalizing p rs with
  | nil => rwa [rowsFrom, List.append_nil]
  | cons c changes ih =>
    rw [rowsFrom_cons, ← List.append_assoc]
    exact ih (h.change c)

theorem built_ofChanges (changes : List Change) : (ofChanges changes).Built (rows changes) :=
  built_empty.foldl_change changes

theorem rows_append (changes later : List Change) :
    rows (changes ++ later) = rows changes ++ rowsFrom (ofChanges changes).next later :=
  rowsFrom_append {} changes later

theorem map_given_rowsFrom (n : Nat) (changes : List Change) :
    (rowsFrom n changes).map Row.given = changes.filterMap Change.given? := by
  induction changes generalizing n with
  | nil => rfl
  | cons c changes ih =>
    cases c with
    | add links =>
      rw [rowsFrom, List.map_cons, Row.given_numbered, ih]
      rfl
    | remove nodes levels => exact ih n

/-! ## Numbers -/

theorem next_le_change (p : TablePage) (c : Change) : p.next ≤ (p.change c).next := by
  cases c with
  | add links => exact Nat.le_add_right_of_le (Nat.le_add_right _ _)
  | remove nodes levels => exact Nat.le_of_eq (p.removeRows_shrinks nodes levels).next.symm

theorem next_le_foldl (p : TablePage) (changes : List Change) :
    p.next ≤ (changes.foldl change p).next := by
  induction changes generalizing p with
  | nil => exact Nat.le_refl _
  | cons c changes ih => exact Nat.le_trans (next_le_change p c) (ih _)

namespace Built

theorem nodup (h : p.Built rs) : (0 :: rs.flatMap Row.numbers).Nodup :=
  h.numbers ▸ List.nodup_range

theorem nodup_row (h : p.Built rs) (hr : r ∈ rs) : (0 :: r.numbers).Nodup := by
  obtain ⟨hzero, hrows⟩ := List.nodup_cons.1 h.nodup
  exact List.nodup_cons.2 ⟨fun h0 => hzero (List.mem_flatMap_of_mem hr h0),
    (List.nodup_flatMap.1 hrows).1 r hr⟩

/-- A number belongs to one row only. -/
theorem row_eq (h : p.Built rs) (hr : r ∈ rs) (hs : s ∈ rs) {j : Nat} (hjr : j ∈ r.numbers)
    (hjs : j ∈ s.numbers) : r = s := by
  obtain ⟨-, hapart⟩ := List.nodup_flatMap.1 (List.nodup_cons.1 h.nodup).2
  have : Std.Symm (Function.onFun List.Disjoint Row.numbers) := ⟨fun _ _ h _ ha hb => h hb ha⟩
  by_contra hne
  exact hapart.forall hr hs hne hjr hjs

/-- Anchors of different rows have only the body in common. -/
theorem apart (h : p.Built rs) : rs.Pairwise fun r s =>
    ∀ a ∈ r.anchors, ∀ b ∈ s.anchors, ∀ j ∈ a.lineage, j ∈ b.lineage → j = 0 := by
  obtain ⟨-, hapart⟩ := List.nodup_flatMap.1 (List.nodup_cons.1 h.nodup).2
  refine hapart.imp fun {r s} hrs a ha b hb j hja hjb => ?_
  rcases mem_lineage_of_mem_row ha hja with h0 | hjr
  · exact h0
  · rcases mem_lineage_of_mem_row hb hjb with h0 | hjs
    · exact h0
    · exact (hrs hjr hjs).elim

theorem nodes_sublist (h : p.Built rs) :
    (p.all.map (·.node)).Sublist (rs.flatMap Row.numbers) := by
  rw [h.all, List.map_flatMap]
  refine List.Sublist.flatMap_right rs fun r _ => ?_
  have hnodes : r.anchors.map (·.node) = r.links.map (·.1) := List.map_map
  rw [hnodes]
  exact (List.sublist_cons_self _ _).trans (List.sublist_cons_self _ _)

theorem numbered (h : p.Built rs) : p.Numbered where
  below := fun _ ha _ hj => h.lt_next ha hj
  nodup := (List.nodup_cons.1 h.nodup).2.sublist h.nodes_sublist

/-- The anchors are listed in the order of their numbers. -/
theorem increasing (h : p.Built rs) : (p.anchors.map (·.node)).Pairwise (· < ·) := by
  have hall : (0 :: rs.flatMap Row.numbers).Pairwise (· < ·) := h.numbers ▸ List.pairwise_lt_range
  exact ((List.pairwise_cons.1 hall).2.sublist h.nodes_sublist).sublist
    p.anchors_nodes_sublist

/-! ## Anchors -/

theorem isAttached_numbered (h : p.Built rs) {links : List (Option String × String)}
    (ha : a ∈ (Row.numbered p.next links).anchors) : p.isAttached a = true ↔ 0 ∉ p.removed := by
  rw [isAttached_iff]
  constructor
  · intro hline
    refine hline 0 ?_
    rw [(lineage_of_mem_row ha).1]
    simp
  · intro h0 j hj
    rcases mem_lineage_of_mem_row ha hj with rfl | hj
    · exact h0
    · rw [Row.numbers_numbered] at hj
      have hnext := (List.mem_range'_1.1 hj).1
      exact fun hgone => absurd (h.removed j hgone) (by omega)

/-- A row is added behind all others, if the body is still there. -/
theorem anchors_addRow (h : p.Built rs) (links : List (Option String × String)) :
    (p.addRow links).anchors =
      p.anchors ++ if 0 ∈ p.removed then [] else (Row.numbered p.next links).placed := by
  have hnew : (Row.numbered p.next links).anchors.filter p.isAttached =
      if 0 ∈ p.removed then [] else (Row.numbered p.next links).anchors := by
    split
    · rename_i h0
      exact List.filter_eq_nil_iff.2 fun a ha hattached => (h.isAttached_numbered ha).1 hattached h0
    · rename_i h0
      exact List.filter_eq_self.2 fun a ha => (h.isAttached_numbered ha).2 h0
  have hplaced : ((Row.numbered p.next links).anchors.filterMap fun a =>
      a.href.map fun href => (⟨a.node, href, a.text⟩ : PlacedAnchor)) =
        (Row.numbered p.next links).placed := List.filterMap_map
  have hattached : (p.addRow links).attached =
      p.attached ++ (Row.numbered p.next links).anchors.filter p.isAttached := by
    rw [attached, addRow_all]
    exact List.filter_append ..
  rw [anchors, hattached, List.filterMap_append, hnew]
  split
  · rfl
  · rw [hplaced]
    rfl

theorem lt_next_of_mem_anchors (h : p.Built rs) {x : PlacedAnchor} (hx : x ∈ p.anchors) :
    x.node < p.next := by
  obtain ⟨a, ha, -, hnode⟩ := exists_of_mem_anchors hx
  exact hnode ▸ h.lt_next ha List.mem_cons_self

/-- What is listed behind a change has been listed before, or is new. -/
theorem mem_anchors_change (h : p.Built rs) {c : Change} {x : PlacedAnchor}
    (hx : x ∈ (p.change c).anchors) : x ∈ p.anchors ∨ p.next ≤ x.node := by
  cases c with
  | remove nodes levels => exact .inl ((p.removeRows_shrinks nodes levels).anchors_subset hx)
  | add links =>
    rw [TablePage.change, h.anchors_addRow, List.mem_append] at hx
    refine hx.imp_right fun hnew => ?_
    split at hnew
    · cases hnew
    · obtain ⟨⟨node, href, text⟩, hl, hplaced⟩ := List.mem_filterMap.1 hnew
      obtain ⟨href, -, rfl⟩ := Option.map_eq_some_iff.1 hplaced
      have hnode : node ∈ (Row.numbered p.next links).numbers :=
        List.mem_cons_of_mem _ (List.mem_cons_of_mem _ (List.mem_map_of_mem hl))
      rw [Row.numbers_numbered] at hnode
      exact (List.mem_range'_1.1 hnode).1

theorem mem_anchors_foldl (h : p.Built rs) {changes : List Change} {x : PlacedAnchor}
    (hx : x ∈ (changes.foldl TablePage.change p).anchors) : x ∈ p.anchors ∨ p.next ≤ x.node := by
  induction changes generalizing p rs with
  | nil => exact .inl hx
  | cons c changes ih =>
    rcases ih (h.change c) hx with hx | hnew
    · exact h.mem_anchors_change hx
    · exact .inr (Nat.le_trans (next_le_change p c) hnew)

/-- An anchor that is not listed any more stays away. -/
theorem not_listed_again (h : p.Built rs) {node : Nat} (hnode : node < p.next)
    (hgone : node ∉ p.anchors.map (·.node)) (later : List Change) :
    node ∉ (later.foldl TablePage.change p).anchors.map (·.node) := by
  intro hm
  obtain ⟨x, hx, rfl⟩ := List.mem_map.1 hm
  rcases h.mem_anchors_foldl hx with hx | hnew
  · exact hgone (List.mem_map_of_mem hx)
  · omega

end Built

/-- **Numbers are given out once.** Whatever is added to a table and removed from it, each row that is
added has numbers of its own, for itself, its cell and its anchors: those that follow the ones that
have been given out before, from the 0 of the body on. They stay the same. Anchors of one row share
it and its cell, and anchors of different rows have only the body in common. The anchors are listed in
the order of their numbers; a row that is added comes behind all others, unless the body has gone; and
an anchor that has gone is not listed again. -/
theorem numbers_given_once (changes : List Change) :
    let page := ofChanges changes
    (rows changes).map Row.given = changes.filterMap Change.given? ∧
    page.all = (rows changes).flatMap Row.anchors ∧
    0 :: (rows changes).flatMap Row.numbers = List.range page.next ∧
    (∀ later, rows changes <+: rows (changes ++ later)) ∧
    (∀ r ∈ rows changes, ∀ a ∈ r.anchors, ∀ b ∈ r.anchors, a.cell = b.cell ∧ a.row = b.row) ∧
    ((rows changes).Pairwise fun r s =>
      ∀ a ∈ r.anchors, ∀ b ∈ s.anchors, ∀ j ∈ a.lineage, j ∈ b.lineage → j = 0) ∧
    (page.anchors.map (·.node)).Pairwise (· < ·) ∧
    (∀ links, ∃ row, row.given = links ∧ rows (changes ++ [.add links]) = rows changes ++ [row] ∧
      (ofChanges (changes ++ [.add links])).anchors =
        page.anchors ++ if 0 ∈ page.removed then [] else row.placed) ∧
    ∀ node ∈ page.anchors.map (·.node), ∀ middle later,
      node ∉ (ofChanges (changes ++ middle)).anchors.map (·.node) →
        node ∉ (ofChanges (changes ++ middle ++ later)).anchors.map (·.node) := by
  intro page
  have hpage := built_ofChanges changes
  refine ⟨map_given_rowsFrom 1 changes, hpage.all, hpage.numbers, fun later => ?_,
    fun r _ a ha b hb => ?_, hpage.apart, hpage.increasing, fun links => ?_,
    fun node hnode middle later hgone => ?_⟩
  · exact rows_append changes later ▸ List.prefix_append _ _
  · have hline := (lineage_of_mem_row ha).1
    have hline' := (lineage_of_mem_row hb).1
    simp only [TableAnchor.lineage, List.cons.injEq] at hline hline'
    exact ⟨hline.2.1.trans hline'.2.1.symm, hline.2.2.1.trans hline'.2.2.1.symm⟩
  · refine ⟨_, Row.given_numbered page.next links, rows_append changes [.add links], ?_⟩
    rw [ofChanges, List.foldl_append]
    exact hpage.anchors_addRow links
  · obtain ⟨x, hx, rfl⟩ := List.mem_map.1 hnode
    have hmiddle := built_ofChanges (changes ++ middle)
    have hlt : x.node < (ofChanges (changes ++ middle)).next := by
      rw [ofChanges, List.foldl_append]
      exact Nat.lt_of_lt_of_le (hpage.lt_next_of_mem_anchors hx) (next_le_foldl _ middle)
    have hstays := hmiddle.not_listed_again hlt hgone later
    rwa [ofChanges, ← List.foldl_append] at hstays

/-- An empty row takes two numbers as well, and a row that is added to what is left goes on behind
them. -/
theorem numbers_given_once_row :
    let changes : List Change := [.add [(some "/a", "a"), (none, "b")], .add []]
    let middle : List Change := [.remove [3] 2]
    let later : List Change := [.add [(some "/c", "c")]]
    rows (changes ++ middle ++ later) =
      [⟨1, 2, [(3, some "/a", "a"), (4, none, "b")]⟩, ⟨5, 6, []⟩, ⟨7, 8, [(9, some "/c", "c")]⟩] ∧
    (ofChanges changes).anchors.map (·.node) = [3] ∧
    (ofChanges (changes ++ middle ++ later)).anchors.map (·.node) = [9] ∧
    3 ∉ (ofChanges (changes ++ middle ++ later)).anchors.map (·.node) := by
  intro changes middle later
  obtain ⟨-, -, -, -, -, -, -, -, hgone⟩ := numbers_given_once changes
  exact ⟨by decide, by decide, by decide, hgone 3 (by decide) middle later (by decide)⟩

end ReleaseListing.TablePage
