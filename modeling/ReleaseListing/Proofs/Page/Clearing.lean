import Mathlib.Data.Finset.Card
import ReleaseListing.Proofs.Page.Rows

/-!
# What a removal clears off a table

The targets of a removal stand on one level of the table, so none of them stands in another
(`Built.drop_eq`), and removing one leaves the others as they are (`Cleared.removeRow`). So a removal
does not depend on the order of the handles, nor on how often they are given
(`removeRows_clears_targets`).
-/

namespace ReleaseListing

/-- What stands so many levels above an anchor: the anchor, its cell, its row, the body. -/
def TableAnchor.above? (a : TableAnchor) : Nat → Option Nat
  | 0 => some a.node
  | 1 => some a.cell
  | 2 => some a.row
  | 3 => some 0
  | _ => none

namespace TablePage

/-- The anchors with the given numbers, or their cells, their rows or the body. -/
def targets (p : TablePage) (nodes : List Nat) (levels : Nat) : Finset Nat :=
  ((p.all.filter (·.node ∈ nodes)).filterMap (·.above? levels)).toFinset

/-- Neither the number nor anything above it has been removed. -/
def Stands (p : TablePage) (id : Nat) : Prop :=
  ∀ a ∈ p.all, ∀ k < 4, a.above? k = some id → ∀ j ∈ a.lineage.drop k, j ∉ p.removed

instance (p : TablePage) : DecidablePred p.Stands := fun id =>
  inferInstanceAs (Decidable
    (∀ a ∈ p.all, ∀ k < 4, a.above? k = some id → ∀ j ∈ a.lineage.drop k, j ∉ p.removed))

/-- The anchor is one of the targets, or it stands in one. -/
def Covered (p : TablePage) (nodes : List Nat) (levels node : Nat) : Prop :=
  ∃ a ∈ p.all, a.node = node ∧ ∃ j ∈ a.lineage, j ∈ p.targets nodes levels

instance (p : TablePage) (nodes : List Nat) (levels : Nat) :
    DecidablePred (p.Covered nodes levels) := fun node =>
  inferInstanceAs (Decidable
    (∃ a ∈ p.all, a.node = node ∧ ∃ j ∈ a.lineage, j ∈ p.targets nodes levels))

/-- The same has been added and removed, in whatever order it has been removed. -/
structure Same (p q : TablePage) : Prop where
  all : p.all = q.all
  next : p.next = q.next
  removed : ∀ j, j ∈ p.removed ↔ j ∈ q.removed

/-- The targets `gone`, all of one level of `p`, have been removed: those that still stood have been
counted. -/
structure Cleared (p : TablePage) (levels : Nat) (gone : Finset Nat) (s : TablePage × Nat) : Prop where
  level : ∀ j ∈ gone, ∃ a ∈ p.all, a.above? levels = some j
  all : s.1.all = p.all
  next : s.1.next = p.next
  removed : ∀ j, j ∈ s.1.removed ↔ j ∈ p.removed ∨ j ∈ gone ∧ p.Stands j
  count : s.2 = (gone.filter p.Stands).card

variable {p : TablePage} {rs : List Row} {r : Row} {a b : TableAnchor} {s t : TablePage × Nat}
  {gone : Finset Nat} {nodes : List Nat} {levels i j k : Nat}

/-! ## Levels -/

theorem above?_eq_getElem? (a : TableAnchor) (k : Nat) : a.above? k = a.lineage[k]? := by
  match k with
  | 0 | 1 | 2 | 3 => rfl
  | _ + 4 => rfl

theorem above?_iff_drop : a.above? k = some j ↔ ∃ above, a.lineage.drop k = j :: above := by
  rw [above?_eq_getElem?, ← List.head?_drop, List.head?_eq_some_iff]

theorem lt_of_above? (h : a.above? k = some j) : k < 4 := by
  rw [above?_eq_getElem?] at h
  exact (List.getElem?_eq_some_iff.1 h).1

theorem exists_above?_of_mem (h : j ∈ a.lineage) : ∃ k, a.above? k = some j := by
  obtain ⟨k, hk⟩ := List.mem_iff_getElem?.1 h
  exact ⟨k, (above?_eq_getElem? a k).trans hk⟩

/-- Where a number stands that an anchor of a row stands in. -/
theorem above?_cases (ha : a ∈ r.anchors) (h : a.above? k = some j) :
    (k = 0 ∧ j = a.node ∧ j ∈ r.links.map (·.1)) ∨ (k = 1 ∧ j = r.cell) ∨ (k = 2 ∧ j = r.row) ∨
      (k = 3 ∧ j = 0) := by
  obtain ⟨hline, hnode⟩ := lineage_of_mem_row ha
  have hk := lt_of_above? h
  rw [above?_eq_getElem?, hline] at h
  match k with
  | 0 =>
    obtain rfl := Option.some.inj h
    exact .inl ⟨rfl, rfl, hnode⟩
  | 1 => exact .inr (.inl ⟨rfl, (Option.some.inj h).symm⟩)
  | 2 => exact .inr (.inr (.inl ⟨rfl, (Option.some.inj h).symm⟩))
  | 3 => exact .inr (.inr (.inr ⟨rfl, (Option.some.inj h).symm⟩))

/-- The numbers of a row tell where in it they stand. -/
theorem level_eq (hnodup : (0 :: r.numbers).Nodup) (ha : a ∈ r.anchors) (h : a.above? k = some j) :
    k = if j = 0 then 3 else if j = r.row then 2 else if j = r.cell then 1 else 0 := by
  simp only [Row.numbers, List.nodup_cons, List.mem_cons, not_or] at hnodup
  obtain ⟨⟨hrow0, hcell0, h0⟩, ⟨hrowcell, hrow⟩, hcell, -⟩ := hnodup
  rcases above?_cases ha h with ⟨rfl, -, hj⟩ | ⟨rfl, rfl⟩ | ⟨rfl, rfl⟩ | ⟨rfl, rfl⟩
  · have hne : j ≠ 0 ∧ j ≠ r.row ∧ j ≠ r.cell :=
      ⟨fun e => h0 (e ▸ hj), fun e => hrow (e ▸ hj), fun e => hcell (e ▸ hj)⟩
    rw [if_neg hne.1, if_neg hne.2.1, if_neg hne.2.2]
  · rw [if_neg (Ne.symm hcell0), if_neg (Ne.symm hrowcell), if_pos rfl]
  · rw [if_neg (Ne.symm hrow0), if_pos rfl]
  · rw [if_pos rfl]

/-- A number stands on one level, and what is above it is the same from wherever one looks. -/
theorem Built.drop_eq (h : p.Built rs) (ha : a ∈ p.all) (hb : b ∈ p.all) (hi : a.above? i = some j)
    (hk : b.above? k = some j) : i = k ∧ a.lineage.drop i = b.lineage.drop k := by
  obtain ⟨r, hr, har⟩ := List.mem_flatMap.1 (h.all ▸ ha)
  obtain ⟨s, hs, hbs⟩ := List.mem_flatMap.1 (h.all ▸ hb)
  have hja : j ∈ a.lineage := List.mem_of_getElem? (above?_eq_getElem? a i ▸ hi)
  have hjb : j ∈ b.lineage := List.mem_of_getElem? (above?_eq_getElem? b k ▸ hk)
  have hilevel := level_eq (h.nodup_row hr) har hi
  have hklevel := level_eq (h.nodup_row hs) hbs hk
  by_cases h0 : j = 0
  · rw [if_pos h0] at hilevel hklevel
    exact ⟨hilevel.trans hklevel.symm, by rw [hilevel, hklevel]; rfl⟩
  -- any other number has one row, so the anchors have the same cell and the same row
  obtain rfl := h.row_eq hr hs ((mem_lineage_of_mem_row har hja).resolve_left h0)
    ((mem_lineage_of_mem_row hbs hjb).resolve_left h0)
  obtain rfl := hilevel.trans hklevel.symm
  refine ⟨rfl, ?_⟩
  rw [(lineage_of_mem_row har).1, (lineage_of_mem_row hbs).1]
  cases i with
  | zero => rw [Option.some.inj hi, Option.some.inj hk]
  | succ i => rfl

/-! ## One step -/

/-- Whether a number still stands can be seen from any anchor that it is above of. -/
theorem Built.stands_iff (h : p.Built rs) (ha : a ∈ p.all) (hj : a.above? k = some j) :
    p.Stands j ↔ ∀ i ∈ a.lineage.drop k, i ∉ p.removed := by
  refine ⟨fun hs => hs a ha k (lt_of_above? hj) hj, fun hs b hb l _ hl => ?_⟩
  rwa [(h.drop_eq hb ha hl hj).2]

namespace Cleared

theorem start (p : TablePage) (levels : Nat) : p.Cleared levels ∅ (p, 0) where
  level := by simp
  all := rfl
  next := rfl
  removed := by simp
  count := rfl

/-- Nothing that has been removed in between is above a target, so a step finds its target gone if it
has been removed itself, or if it did not stand in front of the removal. -/
theorem any_removed_iff (h : p.Cleared levels gone s) (hp : p.Built rs) (ha : a ∈ p.all)
    {row : Nat × List Nat} (hrow : a.lineage.drop levels = row.1 :: row.2) :
    (row.1 :: row.2).any s.1.removed.contains = true ↔ (p.Stands row.1 → row.1 ∈ gone) := by
  have habove : a.above? levels = some row.1 := above?_iff_drop.2 ⟨_, hrow⟩
  have hstands := hp.stands_iff ha habove
  have hone : ∀ j ∈ row.1 :: row.2, j ∈ gone → j = row.1 := by
    intro j hj hgone
    obtain ⟨i, hi⟩ := List.mem_iff_getElem?.1 (hrow ▸ hj)
    obtain ⟨b, hb, hbj⟩ := h.level j hgone
    rw [List.getElem?_drop, ← above?_eq_getElem?] at hi
    have hlevel := (hp.drop_eq ha hb hi hbj).1
    obtain rfl : i = 0 := by omega
    exact Option.some.inj (hi.symm.trans habove)
  simp only [List.any_eq_true, List.contains_iff_mem, h.removed]
  rw [hstands, hrow]
  constructor
  · rintro ⟨j, hj, hremoved | ⟨hgone, -⟩⟩ hs
    · exact absurd hremoved (hs j hj)
    · exact hone j hj hgone ▸ hgone
  · intro hs
    by_cases hall : ∀ i ∈ row.1 :: row.2, i ∉ p.removed
    · exact ⟨row.1, List.mem_cons_self, .inr ⟨hs hall, hstands.2 (hrow ▸ hall)⟩⟩
    · push Not at hall
      obtain ⟨i, hi, hremoved⟩ := hall
      exact ⟨i, hi, .inl hremoved⟩

/-- A step removes its target. -/
theorem removeRow (h : p.Cleared levels gone s) (hp : p.Built rs) (ha : a ∈ p.all)
    {row : Nat × List Nat} (hrow : a.lineage.drop levels = row.1 :: row.2) :
    p.Cleared levels (insert row.1 gone) (removeRow s row) := by
  have hlevel : ∀ j ∈ insert row.1 gone, ∃ a ∈ p.all, a.above? levels = some j := by
    intro j hj
    rcases Finset.mem_insert.1 hj with rfl | hj
    · exact ⟨a, ha, above?_iff_drop.2 ⟨_, hrow⟩⟩
    · exact h.level j hj
  rw [TablePage.removeRow]
  split
  · rename_i hany
    have hin := (h.any_removed_iff hp ha hrow).1 hany
    have hfilter : (insert row.1 gone).filter p.Stands = gone.filter p.Stands := by
      by_cases hs : p.Stands row.1
      · rw [Finset.insert_eq_self.2 (hin hs)]
      · rw [Finset.filter_insert, if_neg hs]
    refine ⟨hlevel, h.all, h.next, fun j => ?_, hfilter ▸ h.count⟩
    rw [h.removed, ← Finset.mem_filter, ← Finset.mem_filter, hfilter]
  · rename_i hany
    rw [h.any_removed_iff hp ha hrow, Classical.not_imp] at hany
    obtain ⟨hstands, hnew⟩ := hany
    refine ⟨hlevel, h.all, h.next, fun j => ?_, ?_⟩
    · rw [List.mem_cons, h.removed, Finset.mem_insert]
      constructor
      · rintro (rfl | hj | ⟨hj, hs⟩)
        · exact .inr ⟨.inl rfl, hstands⟩
        · exact .inl hj
        · exact .inr ⟨.inr hj, hs⟩
      · rintro (hj | ⟨rfl | hj, hs⟩)
        · exact .inr (.inl hj)
        · exact .inl rfl
        · exact .inr (.inr ⟨hj, hs⟩)
    · rw [Finset.filter_insert, if_pos hstands,
        Finset.card_insert_of_notMem fun hj => hnew (Finset.mem_filter.1 hj).1, h.count]

/-! ## A whole removal -/

theorem foldl_removeRow (h : p.Cleared levels gone s) (hp : p.Built rs) {rows : List (Nat × List Nat)}
    (hrows : ∀ row ∈ rows, ∃ a ∈ p.all, a.lineage.drop levels = row.1 :: row.2) :
    p.Cleared levels (gone ∪ (rows.map (·.1)).toFinset) (rows.foldl TablePage.removeRow s) := by
  induction rows generalizing gone s with
  | nil => simpa using h
  | cons row rows ih =>
    obtain ⟨⟨a, ha, hrow⟩, hrows⟩ := List.forall_mem_cons.1 hrows
    have hrest := ih (h.removeRow hp ha hrow) hrows
    rwa [Finset.insert_union, ← Finset.union_insert, ← List.toFinset_cons] at hrest

theorem isAttached_iff (h : p.Cleared levels gone s) (hp : p.Built rs) (ha : a ∈ p.all) :
    s.1.isAttached a = true ↔ p.isAttached a = true ∧ ∀ j ∈ a.lineage, j ∉ gone := by
  simp only [TablePage.isAttached_iff, h.removed, not_or, not_and]
  constructor
  · intro hall
    refine ⟨fun j hj => (hall j hj).1, fun j hj hgone => ?_⟩
    obtain ⟨k, hk⟩ := exists_above?_of_mem hj
    exact (hall j hj).2 hgone
      ((hp.stands_iff ha hk).2 fun i hi => (hall i (List.mem_of_mem_drop hi)).1)
  · rintro ⟨hattached, hgone⟩ j hj
    exact ⟨hattached j hj, fun hmem => absurd hmem (hgone j hj)⟩

/-- What has been removed is told by the targets. -/
theorem same (h : p.Cleared levels gone s) (h' : p.Cleared levels gone t) :
    s.2 = t.2 ∧ s.1.Same t.1 :=
  ⟨h.count.trans h'.count.symm, h.all.trans h'.all.symm, h.next.trans h'.next.symm,
    fun j => (h.removed j).trans (h'.removed j).symm⟩

end Cleared

theorem mem_targets :
    j ∈ p.targets nodes levels ↔ ∃ a ∈ p.all, a.node ∈ nodes ∧ a.above? levels = some j := by
  simp [targets, and_assoc]

namespace Built

theorem covered_iff (h : p.Built rs) (ha : a ∈ p.all) :
    p.Covered nodes levels a.node ↔ ∃ j ∈ a.lineage, j ∈ p.targets nodes levels := by
  refine ⟨fun ⟨b, hb, hnode, hcovered⟩ => ?_, fun hcovered => ⟨a, ha, rfl, hcovered⟩⟩
  rwa [List.inj_on_of_nodup_map h.numbered.nodup hb ha hnode] at hcovered

theorem rowOf?_eq_some (h : p.Built rs) (ha : a ∈ p.all) (hj : a.above? levels = some j) :
    ∃ above, p.rowOf? levels a.node = some (j, above) := by
  obtain ⟨above, hdrop⟩ := above?_iff_drop.1 hj
  exact ⟨above, by rw [rowOf?, find?_node h.numbered.nodup ha, Option.bind_some, hdrop]⟩

/-- The rows that are looked up are the targets. -/
theorem rows_eq_targets (h : p.Built rs) (nodes : List Nat) (levels : Nat) :
    ((nodes.filterMap (p.rowOf? levels)).map (·.1)).toFinset = p.targets nodes levels := by
  ext j
  rw [List.mem_toFinset, mem_targets, List.mem_map]
  constructor
  · rintro ⟨row, hrow, rfl⟩
    obtain ⟨node, hnode, hrow⟩ := List.mem_filterMap.1 hrow
    obtain ⟨a, ha, rfl, hdrop⟩ := exists_of_rowOf? hrow
    exact ⟨a, ha, hnode, above?_iff_drop.2 ⟨_, hdrop⟩⟩
  · rintro ⟨a, ha, hnode, hj⟩
    obtain ⟨above, hrow⟩ := h.rowOf?_eq_some ha hj
    exact ⟨(j, above), List.mem_filterMap.2 ⟨a.node, hnode, hrow⟩, rfl⟩

theorem cleared (h : p.Built rs) (nodes : List Nat) (levels : Nat) :
    p.Cleared levels (p.targets nodes levels) (p.removeRows nodes levels) := by
  rw [← h.rows_eq_targets, ← Finset.empty_union (List.toFinset _)]
  refine (Cleared.start p levels).foldl_removeRow h fun row hrow => ?_
  obtain ⟨node, -, hrow⟩ := List.mem_filterMap.1 hrow
  obtain ⟨a, ha, -, hdrop⟩ := exists_of_rowOf? hrow
  exact ⟨a, ha, hdrop⟩

end Built

/-- What is left are the anchors that do not stand in a target. -/
theorem Cleared.attached (h : p.Cleared levels (p.targets nodes levels) s) (hp : p.Built rs) :
    s.1.attached = p.attached.filter fun a => ¬p.Covered nodes levels a.node := by
  rw [TablePage.attached, h.all, TablePage.attached, List.filter_filter]
  refine List.filter_congr fun a ha => ?_
  rw [Bool.eq_iff_iff, h.isAttached_iff hp ha, Bool.and_eq_true, decide_eq_true_iff,
    hp.covered_iff ha, and_comm]
  simp only [not_exists, not_and]

theorem targets_congr {others : List Nat} (h : ∀ j, j ∈ others ↔ j ∈ nodes) (p : TablePage)
    (levels : Nat) : p.targets others levels = p.targets nodes levels := by
  ext j
  simp only [mem_targets, h]

/-- Links are listed for the anchors that are left. -/
theorem anchors_of_attached {q : TablePage} (keep : Nat → Bool)
    (h : q.attached = p.attached.filter fun a => keep a.node) :
    q.anchors = p.anchors.filter fun x => keep x.node := by
  rw [anchors, h, anchors, List.filterMap_filter, List.filter_filterMap]
  refine List.filterMap_congr fun a _ => ?_
  cases a.href <;> cases hkeep : keep a.node <;> simp [Option.filter, hkeep]

/-- **A removal clears its targets off the table, and nothing else.** Whatever has been done to a
table before, and whatever handles are given, the targets are the anchors of the handles, or their
cells, rows or the body; there are none further up. Those are counted that still stand: that have not
been removed before, and nothing above them. The anchors that are targets or stand in one are not
there any more, with or without a link, and the others stay in their order. Neither the order of the
handles matters, nor how often each is given. -/
theorem removeRows_clears_targets (changes : List Change) (nodes : List Nat) (levels : Nat) :
    let page := ofChanges changes
    let after := page.removeRows nodes levels
    after.2 = ((page.targets nodes levels).filter page.Stands).card ∧
    after.1.anchors = page.anchors.filter (fun x => ¬page.Covered nodes levels x.node) ∧
    after.1.attached = page.attached.filter (fun a => ¬page.Covered nodes levels a.node) ∧
    after.1.attached.length +
      (page.attached.filter fun a => page.Covered nodes levels a.node).length =
        page.attached.length ∧
    ∀ others, (∀ node, node ∈ others ↔ node ∈ nodes) →
      (page.removeRows others levels).2 = after.2 ∧
        (page.removeRows others levels).1.Same after.1 := by
  intro page after
  have hpage : page.Built (rows changes) := built_ofChanges changes
  have hafter : page.Cleared levels (page.targets nodes levels) after := hpage.cleared nodes levels
  have hattached := hafter.attached hpage
  refine ⟨hafter.count, anchors_of_attached (fun node => ¬page.Covered nodes levels node) hattached,
    hattached, ?_, fun others hothers => ?_⟩
  · rw [hattached, Nat.add_comm]
    simpa using (List.length_eq_length_filter_add
      fun a : TableAnchor => decide (page.Covered nodes levels a.node)).symm
  · have hsame := hpage.cleared others levels
    rw [targets_congr hothers] at hsame
    exact hsame.same hafter

/-- Two handles of one row, one of them twice and the other without its anchor, and one without a
link. -/
theorem removeRows_clears_targets_shared :
    let changes : List Change := [.add [(some "/a", "a"), (some "/b", "b")], .add [(none, "c")],
      .add [(some "/d", "d")], .remove [3] 0]
    let page := ofChanges changes
    page.targets [4, 3, 7, 4] 2 = {1, 5} ∧
    (page.removeRows [4, 3, 7, 4] 2).2 = 2 ∧
    (page.removeRows [4, 3, 7, 4] 2).1.anchors = [⟨10, "/d", "d"⟩] ∧
    (page.removeRows [3, 7, 4] 2).2 = 2 ∧
    (page.removeRows [3, 7, 4] 2).1.Same (page.removeRows [4, 3, 7, 4] 2).1 := by
  intro changes page
  obtain ⟨hcount, hanchors, -, -, hothers⟩ := removeRows_clears_targets changes [4, 3, 7, 4] 2
  obtain ⟨hsame, hpage⟩ := hothers [3, 7, 4] fun node => by simp; tauto
  have htwo : (page.removeRows [4, 3, 7, 4] 2).2 = 2 := hcount.trans (by decide)
  exact ⟨by decide, htwo, hanchors.trans (by decide), hsame.trans htwo, hpage⟩

end TablePage

end ReleaseListing
