import ReleaseListing.Proofs.Html.Root

/-!
# Removing rows from a page read from HTML

Removing rows one after the other leaves out their trees, whatever their order, and however they
lie in each other (`removeRows_nodes`). Nodes that stay keep their rows (`rowOf?_of_mem`).
-/

namespace ReleaseListing.TreePage

open Html (Forest)

/-- The rows of the nodes, apart from the document, which is never removed. -/
def rows (p : TreePage) (levels : Nat) (nodes : List Nat) : List Nat :=
  (nodes.filterMap (p.rowOf? levels)).filter (· != 0)

variable {p : TreePage} {levels row node root : Nat} {nodes gone : List Nat}

theorem ofSource_nodes (source : String) : (ofSource source).nodes = .ofSource source := rfl

theorem numbered_ofSource (source : String) : (ofSource source).nodes.Numbered := by
  rw [ofSource_nodes]
  exact Forest.numbered_ofSource source

theorem rooted_ofSource (source : String) :
    ∃ html attributes children, (ofSource source).nodes.Rooted html ∧
      (ofSource source).nodes.firstElement? =
        some (.single html (.element .html "html" attributes) children) := by
  rw [ofSource_nodes]
  exact Forest.rooted_ofSource source

/-- Asking for the anchors fails exactly if the root has gone. -/
theorem anchors?_without {origin : TreePage} (hr : origin.nodes.Rooted root)
    (hp : p.nodes = origin.nodes.without gone) :
    Page.anchors? p = if root ∈ gone then none else some p.nodes.anchors := by
  show p.nodes.firstElement?.map Forest.anchors = _
  split
  · rename_i hg
    rw [hp, (hr.without_root hg).firstElement?]
    rfl
  · rename_i hg
    exact (hp ▸ hr.without hg).anchors

theorem mem_rows : row ∈ p.rows levels nodes ↔
    row ≠ 0 ∧ ∃ node ∈ nodes, p.rowOf? levels node = some row := by
  simp [rows, and_comm]

theorem removeRow_nodes {state : TreePage × Nat} (h : state.1.nodes.Numbered) (row : Nat) :
    (removeRow state row).1.nodes = state.1.nodes.without [row] := by
  unfold removeRow
  rw [Forest.remove?_eq h.nodup]
  by_cases hm : row ∈ state.1.nodes.ids
  · simp [hm]
  · simp [hm, Forest.without_singleton hm]

theorem foldl_removeRow_nodes (rows : List Nat) {state : TreePage × Nat}
    (h : state.1.nodes.Numbered) :
    (rows.foldl removeRow state).1.nodes = state.1.nodes.without rows := by
  induction rows generalizing state with
  | nil =>
    rw [Forest.without_nil]
    rfl
  | cons row rows ih =>
    have hstep := removeRow_nodes h row
    have hnum : (removeRow state row).1.nodes.Numbered := hstep ▸ h.without [row]
    rw [List.foldl_cons, ih hnum, hstep, Forest.without_without]
    rfl

/-- Removing the rows of nodes leaves out the trees of these rows. -/
theorem removeRows_nodes (h : p.nodes.Numbered) (nodes : List Nat) (levels : Nat) :
    (p.removeRows nodes levels).1.nodes = p.nodes.without (p.rows levels nodes) := by
  rw [removeRows, foldl_removeRow_nodes _ h]
  refine Forest.without_congr fun j hj => ?_
  have hne : j ≠ 0 := fun e => h.zero_not_mem (e ▸ hj)
  simp [rows, hne]

theorem rowOf?_eq_none (h : node ∉ p.nodes.ids) : p.rowOf? levels node = none := by
  simp [rowOf?, Forest.lineage?_eq_none_iff.2 h]

/-- A node that stays has the same row as before. -/
theorem rowOf?_of_mem {origin : TreePage} (h : origin.nodes.Numbered)
    (hp : p.nodes = origin.nodes.without gone) (hm : node ∈ p.nodes.ids) :
    p.rowOf? levels node = origin.rowOf? levels node := by
  rw [hp] at hm
  rw [rowOf?, rowOf?, hp, Forest.lineage?_without h.nodup hm]

theorem rows_of_mem {origin : TreePage} (h : origin.nodes.Numbered)
    (hp : p.nodes = origin.nodes.without gone) (hm : ∀ node ∈ nodes, node ∈ p.nodes.ids) :
    p.rows levels nodes = origin.rows levels nodes := by
  unfold rows
  rw [List.filterMap_congr fun node hn => rowOf?_of_mem h hp (hm node hn)]

end ReleaseListing.TreePage
