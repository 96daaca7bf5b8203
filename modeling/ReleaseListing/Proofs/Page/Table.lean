import Mathlib.Data.List.Nodup
import ReleaseListing.Page.Table

/-!
# Tables that are changed

Rows are added to a table and removed from it, in any order (`TablePage.Change`). All the while the
anchors have different numbers (`Numbered`), so that each is found by its own. Removing rows only
ever adds to what has been removed (`removeRows_shrinks`), and an anchor whose row is removed has
gone with it (`Numbered.not_isAttached`).
-/

namespace ReleaseListing.TablePage

/-- What can happen to a table. -/
inductive Change where
  | add (anchors : List (Option String × String))
  | remove (nodes : List Nat) (levels : Nat)

def change (p : TablePage) : Change → TablePage
  | .add anchors => p.addRow anchors
  | .remove nodes levels => (p.removeRows nodes levels).1

/-- A table that has been changed time and again. -/
def ofChanges (changes : List Change) : TablePage := changes.foldl change {}

/-- The numbers of a table have been given out, each to one anchor only. -/
structure Numbered (p : TablePage) : Prop where
  below : ∀ a ∈ p.all, ∀ j ∈ a.lineage, j < p.next
  nodup : (p.all.map (·.node)).Nodup

variable {p q : TablePage} {a : TableAnchor} {nodes : List Nat} {levels : Nat}

/-! ## Removing rows -/

/-- `q` is what is left of `p`: the same anchors, of which nothing that has gone has come back. -/
structure Shrinks (p q : TablePage) : Prop where
  all : q.all = p.all
  next : q.next = p.next
  removed : p.removed ⊆ q.removed

theorem Shrinks.refl (p : TablePage) : p.Shrinks p := ⟨rfl, rfl, List.Subset.refl _⟩

theorem Shrinks.trans {r : TablePage} (h : p.Shrinks q) (h' : q.Shrinks r) : p.Shrinks r :=
  ⟨h'.all.trans h.all, h'.next.trans h.next, List.Subset.trans h.removed h'.removed⟩

theorem removeRow_shrinks (s : TablePage × Nat) (row : Nat × List Nat) :
    s.1.Shrinks (removeRow s row).1 := by
  unfold removeRow
  split
  · exact .refl _
  · exact ⟨rfl, rfl, List.subset_cons_self _ _⟩

/-- Behind a step the row has gone, or something that it stands in. -/
theorem exists_removed_removeRow (s : TablePage × Nat) (row : Nat × List Nat) :
    ∃ j ∈ row.1 :: row.2, j ∈ (removeRow s row).1.removed := by
  unfold removeRow
  split
  · rename_i hgone
    simpa using hgone
  · exact ⟨row.1, List.mem_cons_self, List.mem_cons_self⟩

theorem foldl_removeRow_shrinks (rows : List (Nat × List Nat)) (s : TablePage × Nat) :
    s.1.Shrinks (rows.foldl removeRow s).1 := by
  induction rows generalizing s with
  | nil => exact .refl _
  | cons row rows ih => exact (removeRow_shrinks s row).trans (ih _)

theorem exists_removed_foldl (rows : List (Nat × List Nat)) (s : TablePage × Nat) :
    ∀ row ∈ rows, ∃ j ∈ row.1 :: row.2, j ∈ (rows.foldl removeRow s).1.removed := by
  induction rows generalizing s with
  | nil => simp
  | cons first rows ih =>
    intro row hrow
    rcases List.mem_cons.1 hrow with rfl | hrow
    · obtain ⟨j, hj, hgone⟩ := exists_removed_removeRow s row
      exact ⟨j, hj, (foldl_removeRow_shrinks rows _).removed hgone⟩
    · exact ih _ row hrow

theorem removeRows_shrinks (p : TablePage) (nodes : List Nat) (levels : Nat) :
    p.Shrinks (p.removeRows nodes levels).1 :=
  foldl_removeRow_shrinks _ (p, 0)

/-- Far above the table there is nothing to be removed. -/
theorem removeRows_of_lt (h : 3 < levels) (nodes : List Nat) :
    p.removeRows nodes levels = (p, 0) := by
  have hnone : ∀ node, p.rowOf? levels node = none := by
    intro node
    unfold rowOf?
    cases p.all.find? (·.node == node) with
    | none => rfl
    | some a => simp [List.drop_eq_nil_of_le (show a.lineage.length ≤ levels from h)]
  rw [removeRows, List.filterMap_eq_nil_iff.2 fun node _ => hnone node]
  rfl

/-! ## Anchors -/

theorem isAttached_iff : p.isAttached a = true ↔ ∀ j ∈ a.lineage, j ∉ p.removed := by
  simp [isAttached]

theorem Shrinks.isAttached (h : p.Shrinks q) (ha : q.isAttached a = true) : p.isAttached a = true :=
  isAttached_iff.2 fun j hj hgone => isAttached_iff.1 ha j hj (h.removed hgone)

/-- The anchors of what is left are anchors of the table. -/
theorem Shrinks.anchors_subset (h : p.Shrinks q) : q.anchors ⊆ p.anchors := by
  intro x hx
  obtain ⟨a, ha, hax⟩ := List.mem_filterMap.1 hx
  obtain ⟨hall, hattached⟩ := List.mem_filter.1 ha
  exact List.mem_filterMap.2
    ⟨a, List.mem_filter.2 ⟨h.all ▸ hall, h.isAttached hattached⟩, hax⟩

theorem exists_of_mem_anchors {x : PlacedAnchor} (h : x ∈ p.anchors) :
    ∃ a ∈ p.all, p.isAttached a = true ∧ a.node = x.node := by
  obtain ⟨a, ha, hax⟩ := List.mem_filterMap.1 h
  obtain ⟨href, -, rfl⟩ := Option.map_eq_some_iff.1 hax
  exact ⟨a, (List.mem_filter.1 ha).1, (List.mem_filter.1 ha).2, rfl⟩

/-- The anchors stand on the page in the order in which they were added. -/
theorem anchors_nodes_sublist (p : TablePage) :
    (p.anchors.map (·.node)).Sublist (p.all.map (·.node)) := by
  have hlinks : p.anchors.map (·.node) = (p.attached.filter (·.href.isSome)).map (·.node) := by
    rw [anchors, List.map_filterMap, ← List.filterMap_eq_map, List.filterMap_filter]
    refine List.filterMap_congr fun a _ => ?_
    cases a.href <;> rfl
  rw [hlinks]
  exact (List.filter_sublist.trans List.filter_sublist).map _

/-- An anchor is found by its number. -/
theorem find?_node (h : (p.all.map (·.node)).Nodup) (ha : a ∈ p.all) :
    p.all.find? (·.node == a.node) = some a := by
  cases hf : p.all.find? (·.node == a.node) with
  | none => simpa using List.find?_eq_none.1 hf a ha
  | some b =>
    have hnode : b.node = a.node := by simpa using List.find?_some hf
    rw [List.inj_on_of_nodup_map h (List.mem_of_find?_eq_some hf) ha hnode]

/-- The row of a node is found on the way up from the anchor with its number. -/
theorem exists_of_rowOf? {node : Nat} {row : Nat × List Nat} (h : p.rowOf? levels node = some row) :
    ∃ a ∈ p.all, a.node = node ∧ a.lineage.drop levels = row.1 :: row.2 := by
  obtain ⟨a, ha, hrow⟩ := Option.bind_eq_some_iff.1 h
  refine ⟨a, List.mem_of_find?_eq_some ha, by simpa using List.find?_some ha, ?_⟩
  split at hrow
  · cases hrow
  · rename_i hdrop
    cases hrow
    exact hdrop

namespace Numbered

/-- An anchor goes when its row is removed. -/
theorem not_isAttached (h : p.Numbered) (ha : a ∈ p.all) (hnode : a.node ∈ nodes)
    (hlevels : levels ≤ 3) : (p.removeRows nodes levels).1.isAttached a = false := by
  have hlen : levels < a.lineage.length := Nat.lt_succ_of_le hlevels
  have hdrop := List.drop_eq_getElem_cons hlen
  have hrow : p.rowOf? levels a.node =
      some (a.lineage[levels], a.lineage.drop (levels + 1)) := by
    rw [rowOf?, find?_node h.nodup ha, Option.bind_some, hdrop]
  obtain ⟨j, hj, hgone⟩ := exists_removed_foldl (nodes.filterMap (p.rowOf? levels)) (p, 0) _
    (List.mem_filterMap.2 ⟨a.node, hnode, hrow⟩)
  rw [Bool.eq_false_iff, Ne, isAttached_iff]
  intro hattached
  exact hattached j (List.mem_of_mem_drop (hdrop ▸ hj)) hgone

/-! ## All changes -/

theorem addRow (h : p.Numbered) (row : List (Option String × String)) :
    (p.addRow row).Numbered where
  below := by
    intro a ha j hj
    simp only [TablePage.addRow, List.mem_append, List.mem_map] at ha ⊢
    rcases ha with ha | ⟨⟨x, i⟩, hx, rfl⟩
    · have := h.below a ha j hj
      omega
    · have := (List.mem_zipIdx' hx).1
      simp only [TableAnchor.lineage, List.mem_cons, List.not_mem_nil, or_false] at hj
      omega
  nodup := by
    have hnew : ((row.zipIdx.map Prod.snd).map (p.next + 2 + ·)).Nodup := by
      rw [List.zipIdx_map_snd]
      exact List.Nodup.map (fun _ _ => Nat.add_left_cancel) List.nodup_range'
    rw [List.map_map] at hnew
    simp only [TablePage.addRow, List.map_append, List.map_map]
    refine List.nodup_append.2 ⟨h.nodup, hnew, ?_⟩
    intro i hi j hj
    obtain ⟨a, ha, rfl⟩ := List.mem_map.1 hi
    obtain ⟨x, -, rfl⟩ := List.mem_map.1 hj
    have := h.below a ha a.node List.mem_cons_self
    simp only [Function.comp_apply]
    omega

theorem of_shrinks (h : p.Numbered) (hq : p.Shrinks q) : q.Numbered :=
  ⟨by rw [hq.all, hq.next]; exact h.below, by rw [hq.all]; exact h.nodup⟩

theorem change (h : p.Numbered) (c : Change) : (p.change c).Numbered := by
  cases c with
  | add anchors => exact h.addRow anchors
  | remove nodes levels => exact h.of_shrinks (removeRows_shrinks p nodes levels)

end Numbered

theorem numbered_empty : ({} : TablePage).Numbered := ⟨by simp, by simp⟩

theorem numbered_ofChanges (changes : List Change) : (ofChanges changes).Numbered :=
  List.foldlRecOn changes _ numbered_empty fun _ h c _ => h.change c

end ReleaseListing.TablePage
