import ReleaseListing.Proofs.Page.Linked
import ReleaseListing.Proofs.Page.Rewriting

/-!
# Linked nodes and their trees

What can be reached from the document of a linked page are trees, the same on the way down and on
the way up (`Holds`, `Holds.isAttached_iff`). A cut takes one tree out (`Holds.detach`). So a linked
page and the page of its trees have the same anchors (`Holds.anchors?`), and when rows are removed
from both they lose the same, count the same and stay in step (`Holds.removeRows`), also when nodes
that have been detached before are asked for their rows.
-/

namespace ReleaseListing

open Html (Content Forest)

/-- What is left out has gone. -/
theorem Html.Forest.not_mem_ids_without {f : Forest} {id : Nat} {gone : List Nat} (h : id ∈ gone) :
    id ∉ (f.without gone).ids := by
  induction f with
  | nil => simp [without, ids]
  | node i c children next ihc ihn =>
    by_cases hi : i ∈ gone
    · simpa [without, hi] using ihn
    · have hne : id ≠ i := fun e => hi (e ▸ h)
      simpa [without, hi, mem_ids_node, hne] using ⟨ihc, ihn⟩

/-- What a node of the trees stands in is in them. -/
theorem Html.Forest.mem_ids_of_mem_lineage {f : Forest} {id i : Nat} {line : List Nat}
    (h : f.ids.Nodup) (hl : f.lineage? id = some line) (hi : i ∈ line) : i ∈ f.ids := by
  obtain ⟨before, above, rfl⟩ := List.append_of_mem hi
  exact mem_of_lineage? (lineage?_suffix h hl)

/-- Taking one node out takes its number from those of the first nodes, if it is there. -/
theorem Html.Forest.roots_without_singleton {f : Forest} {id : Nat} (h : f.ids.Nodup) :
    (f.without [id]).roots = f.roots.erase id := by
  induction f with
  | nil => rfl
  | node i c children next _ ihn =>
    obtain ⟨-, hin, -, hn, -⟩ := nodup_node h
    by_cases hi : i = id
    · subst hi
      simp [without, roots, without_singleton hin]
    · simp [without, roots, hi, ihn hn]

namespace LinkedNode

namespace Shows

variable {p : LinkedPage} {f : Forest} {parent id row i : Nat} {c : Content}
  {children next : Forest} {line : List Nat}

/-! ## Downwards -/

theorem content? (h : Shows p.nodes parent (.node i c children next)) : p.content? i = some c := by
  simp [LinkedPage.content?, h.1]

theorem parent? (h : Shows p.nodes parent (.node i c children next)) :
    p.parent? i = some parent := by
  simp [LinkedPage.parent?, h.1]

theorem children_eq (h : Shows p.nodes parent (.node i c children next)) :
    p.children i = children.roots := by
  simp [LinkedPage.children, h.1]

theorem descendants (h : Shows p.nodes parent f) : f.roots.flatMap p.descendants = f.ids := by
  induction f generalizing parent with
  | nil => rfl
  | node i c children next ihc ihn =>
    rw [Forest.roots, List.flatMap_cons, LinkedPage.descendants_eq, h.children_eq, ihc h.2.1,
      ihn h.2.2]
    rfl

theorem below (h : Shows p.nodes parent f) :
    f.roots.foldr (fun c rest => .node c ((p.content? c).getD .fragment) (p.below c) rest) .nil =
      f := by
  induction f generalizing parent with
  | nil => rfl
  | node i c children next ihc ihn =>
    rw [Forest.roots, List.foldr_cons, ihn h.2.2, LinkedPage.below_eq, h.children_eq, ihc h.2.1,
      h.content?]
    rfl

theorem chars (h : Shows p.nodes parent f) : f.ids.flatMap p.chars = f.text := by
  induction f generalizing parent with
  | nil => rfl
  | node i c children next ihc ihn =>
    rw [Forest.ids, List.flatMap_cons, List.flatMap_append, ihc h.2.1, ihn h.2.2,
      LinkedPage.chars, h.content?]
    cases c <;> rfl

theorem anchorAt? (h : Shows p.nodes parent (.node i c children next)) :
    (p.anchorAt? i).toList = Forest.ownAnchor i c children := by
  rw [LinkedPage.anchorAt?, LinkedPage.link?, h.content?, Option.bind_some, Forest.ownAnchor]
  cases hc : c.link? with
  | none => rfl
  | some href =>
    have hself : p.chars i = [] := by
      rw [LinkedPage.chars, h.content?]
      cases c <;> first | rfl | cases hc
    rw [LinkedPage.descendants_eq, h.children_eq, h.2.1.descendants, List.flatMap_cons, hself,
      h.2.1.chars]
    rfl

theorem anchors (h : Shows p.nodes parent f) : f.ids.filterMap p.anchorAt? = f.anchors := by
  induction f generalizing parent with
  | nil => rfl
  | node i c children next ihc ihn =>
    have hi : ∀ ids : List Nat, (i :: ids).filterMap p.anchorAt? =
        (p.anchorAt? i).toList ++ ids.filterMap p.anchorAt? := by
      intro ids
      cases ha : p.anchorAt? i <;> simp [ha]
    rw [Forest.ids, hi, List.filterMap_append, h.anchorAt?, ihc h.2.1, ihn h.2.2,
      Forest.anchors_node]

theorem anchorsOfFirst (h : Shows p.nodes parent f) :
    (f.roots.find? p.isElement).map (fun root => (p.descendants root).filterMap p.anchorAt?) =
      f.firstElement?.map Forest.anchors := by
  induction f generalizing parent with
  | nil => rfl
  | node i c children next _ ihn =>
    have hi : p.isElement i = c.isElement := by simp [LinkedPage.isElement, h.content?]
    rw [Forest.roots, Forest.firstElement?, List.find?_cons, hi]
    cases hc : c.isElement with
    | false => exact ihn h.2.2
    | true =>
      have hfirst : Shows p.nodes parent (.single i c children) := ⟨h.1, h.2.1, trivial⟩
      have hids : p.descendants i = (Forest.single i c children).ids := by
        simpa [Forest.single, Forest.roots] using hfirst.descendants
      simp only [Option.map_some, if_true, hids, hfirst.anchors]

theorem root (h : Shows p.nodes parent f) (hf : f.firstElement? = some (.single i c children)) :
    f.roots.find? p.isElement = some i ∧ p.content? i = some c := by
  induction f generalizing parent with
  | nil => cases hf
  | node j d inner next _ ihn =>
    have hj : p.isElement j = d.isElement := by simp [LinkedPage.isElement, h.content?]
    rw [Forest.roots, List.find?_cons, hj]
    cases hd : d.isElement with
    | false => exact ihn h.2.2 (by simpa [Forest.firstElement?, hd] using hf)
    | true =>
      obtain ⟨rfl, rfl, -⟩ : j = i ∧ d = c ∧ inner = children := by
        simpa [Forest.firstElement?, Forest.single, hd] using hf
      exact ⟨rfl, h.content?⟩

/-! ## Upwards -/

theorem ancestors (h : Shows p.nodes parent f) (hn : f.ids.Nodup)
    (hl : f.lineage? id = some line) :
    id :: p.ancestors id = line ++ parent :: p.ancestors parent := by
  induction f generalizing parent line with
  | nil => simp [Forest.lineage?] at hl
  | node i c children next ihc ihn =>
    have hstep := LinkedPage.ancestors_of_parent? h.parent?
    obtain ⟨hic, hin, hcs, hns, hd⟩ := Forest.nodup_node hn
    rcases Forest.mem_ids_node.1 (Forest.mem_of_lineage? hl) with rfl | hm | hm
    · rw [Forest.lineage?_node_self, Option.some.injEq] at hl
      rw [← hl, hstep]
      rfl
    · rw [Forest.lineage?_node_of_mem_children hic hm] at hl
      obtain ⟨inner, hinner, rfl⟩ := Option.map_eq_some_iff.1 hl
      rw [ihc h.2.1 hcs hinner, hstep, List.append_assoc]
      rfl
    · rw [Forest.lineage?_node_of_mem_next hin (fun hc => hd id hc hm) hm] at hl
      exact ihn h.2.2 hns hl

/-! ## Cutting -/

theorem parent?_of_mem_roots (h : Shows p.nodes parent f) (hm : id ∈ f.roots) :
    p.parent? id = some parent := by
  induction f generalizing parent with
  | nil => simp [Forest.roots] at hm
  | node i c children next _ ihn =>
    rcases List.mem_cons.1 hm with rfl | hm
    · exact h.parent?
    · exact ihn h.2.2 hm

/-- Only the parent of a node has it among its children. -/
theorem erase_children (h : Shows p.nodes parent f) :
    (if p.parent? row = some parent then f.roots.erase row else f.roots) = f.roots.erase row := by
  by_cases hm : row ∈ f.roots
  · rw [if_pos (h.parent?_of_mem_roots hm)]
  · rw [List.erase_of_not_mem hm, ite_self]

theorem detach (h : Shows p.nodes parent f) (hn : f.ids.Nodup) :
    Shows (p.detach row).nodes parent (f.without [row]) := by
  induction f generalizing parent with
  | nil => trivial
  | node i c children next ihc ihn =>
    obtain ⟨-, -, hcs, hns, -⟩ := Forest.nodup_node hn
    by_cases hi : i = row
    · simpa [Forest.without, hi] using ihn h.2.2 hns
    · have hnode : (p.detach row).nodes[i]? =
          some ⟨some c, some parent, (children.without [row]).roots⟩ := by
        rw [LinkedPage.getElem?_detach, h.1, Option.map_some, cut, if_neg hi,
          h.2.1.erase_children, Forest.roots_without_singleton hcs]
      simpa [Forest.without, hi] using ⟨hnode, ihc h.2.1 hcs, ihn h.2.2 hns⟩

end Shows

end LinkedNode

namespace LinkedPage

variable {p : LinkedPage} {f : Forest} {id row i q : Nat} {line : List Nat}

/-- What can be reached from the document are the trees, on the way down; and whatever stands in
something that can be reached is one of their nodes, so that they are reached on the way up from
nowhere else. -/
structure Holds (p : LinkedPage) (f : Forest) : Prop where
  numbered : f.Numbered
  grows : f.ids.Pairwise (· < ·)
  document : p.nodes[0]? = some ⟨none, none, f.roots⟩
  shown : LinkedNode.Shows p.nodes 0 f
  closed : ∀ i q, p.parent? i = some q → q = 0 ∨ q ∈ f.ids → i ∈ f.ids

namespace Holds

theorem children_zero (h : p.Holds f) : p.children 0 = f.roots := by
  simp [LinkedPage.children, h.document]

theorem ancestors_zero (h : p.Holds f) : p.ancestors 0 = [] :=
  ancestors_of_none (by simp [parent?, h.document])

theorem tree (h : p.Holds f) : p.tree = ⟨f⟩ := by
  rw [LinkedPage.tree, below_eq, h.children_zero, h.shown.below]

theorem anchors? (h : p.Holds f) : Page.anchors? p = Page.anchors? (⟨f⟩ : TreePage) := by
  show p.anchors? = _
  rw [LinkedPage.anchors?, root?, h.children_zero, h.shown.anchorsOfFirst]
  rfl

theorem descendants (h : p.Holds f) : p.descendants 0 = 0 :: f.ids := by
  rw [descendants_eq, h.children_zero, h.shown.descendants]

theorem ancestors (h : p.Holds f) (hl : f.lineage? id = some line) :
    id :: p.ancestors id = line ++ [0] := by
  rw [h.shown.ancestors h.numbered.nodup hl, h.ancestors_zero]

/-- From outside of the trees the way up does not lead into them. -/
theorem mem_ids_of_ancestor (h : p.Holds f) (hm : q ∈ p.ancestors id) (hq : q = 0 ∨ q ∈ f.ids) :
    id ∈ f.ids := by
  induction id using Nat.strongRecOn with
  | ind id ih =>
    cases hparent : p.parent? id with
    | none => simp [ancestors_of_none hparent] at hm
    | some parent =>
      rw [ancestors_of_parent? hparent, List.mem_cons] at hm
      refine h.closed id parent hparent ?_
      rcases hm with rfl | hm
      · exact hq
      · exact .inr (ih parent (parent?_lt hparent) hm)

/-- The document is reached on the way up from the nodes that are reached on the way down, and from
no others. -/
theorem isAttached_iff (h : p.Holds f) : p.isAttached id = true ↔ id ∈ f.ids := by
  rw [isAttached, List.contains_iff_mem]
  refine ⟨fun hm => h.mem_ids_of_ancestor hm (.inl rfl), fun hm => ?_⟩
  obtain ⟨line, hl⟩ := Forest.lineage?_of_mem hm
  have h0 : 0 ≠ id := fun e => h.numbered.zero_not_mem (e ▸ hm)
  have hmem : 0 ∈ id :: p.ancestors id := by simp [h.ancestors hl]
  simpa [h0] using hmem

theorem exists_getElem? (h : p.Holds f) (hm : id ∈ f.ids) : ∃ n, p.nodes[id]? = some n := by
  cases hn : p.nodes[id]? with
  | some n => exact ⟨n, rfl⟩
  | none =>
    have hup : p.ancestors id = [] := ancestors_of_none (by simp [parent?, hn])
    have := h.isAttached_iff.2 hm
    simp [isAttached, hup] at this

/-! ## Rows -/

theorem rowOf?_eq {levels : Nat} (h : p.Holds f) (hm : id ∈ f.ids) :
    p.rowOf? levels id = (⟨f⟩ : TreePage).rowOf? levels id := by
  obtain ⟨line, hl⟩ := Forest.lineage?_of_mem hm
  obtain ⟨n, hn⟩ := h.exists_getElem? hm
  rw [rowOf?, hn, Option.bind_some, h.ancestors hl, TreePage.rowOf?, hl, Option.bind_some]

/-- A node that has been detached has no row on the page. -/
theorem not_mem_of_rowOf? {levels : Nat} (h : p.Holds f) (hm : id ∉ f.ids)
    (hrow : p.rowOf? levels id = some row) : row ∉ f.ids := by
  obtain ⟨n, -, hget⟩ := Option.bind_eq_some_iff.1 hrow
  rcases List.mem_cons.1 (List.mem_of_getElem? hget) with rfl | hup
  · exact hm
  · exact fun hr => hm (h.mem_ids_of_ancestor hup (.inr hr))

/-! ## Cutting -/

/-- A cut takes the tree of the node out. -/
theorem detach (h : p.Holds f) (row : Nat) : (p.detach row).Holds (f.without [row]) where
  numbered := h.numbered.without [row]
  grows := h.grows.sublist (Forest.ids_without_sublist [row] f)
  document := by
    have hroots : (if p.parent? row = some 0 then f.roots.erase row else f.roots) =
        f.roots.erase row := h.shown.erase_children
    rw [getElem?_detach, h.document, Option.map_some, LinkedNode.cut, hroots,
      Forest.roots_without_singleton h.numbered.nodup, ite_self]
  shown := h.shown.detach h.numbered.nodup
  closed := by
    intro i q hq hmem
    rw [parent?_detach] at hq
    split at hq
    · cases hq
    · rename_i hi
      have hin : i ∈ f.ids := by
        refine h.closed i q hq (hmem.imp_right fun hm => ?_)
        exact (Forest.ids_without_sublist [row] f).subset hm
      obtain ⟨line, hl⟩ := Forest.lineage?_of_mem hin
      have hup := h.ancestors hl
      rw [ancestors_of_parent? hq] at hup
      rw [Forest.mem_ids_without h.numbered.nodup, Forest.spares_iff hl]
      refine ⟨hin, ?_⟩
      -- The way up from `i` is `i` itself and the way up from its parent, which has been spared.
      rcases hmem with rfl | hm
      · rw [h.ancestors_zero] at hup
        obtain ⟨rfl, -⟩ := List.append_inj' (show [i] ++ [0] = line ++ [0] from hup) rfl
        simpa using hi
      · obtain ⟨hqin, hspared⟩ := (Forest.mem_ids_without h.numbered.nodup).1 hm
        obtain ⟨above, ha⟩ := Forest.lineage?_of_mem hqin
        rw [h.ancestors ha] at hup
        obtain ⟨rfl, -⟩ := List.append_inj' (show (i :: above) ++ [0] = line ++ [0] from hup) rfl
        rw [Forest.spares_iff ha] at hspared
        exact List.forall_mem_cons.2 ⟨by simpa using hi, hspared⟩

end Holds

/-! ## Removing rows -/

/-- A removal on the linked page and one on the page of its trees are in step; what has been looked
at is gone. -/
structure Tracks (s : Removal) (t : TreePage × Nat) : Prop where
  holds : s.page.Holds t.1.nodes
  removed : s.removed = t.2
  seen : ∀ row ∈ s.seen, row ∉ t.1.nodes.ids

namespace Tracks

variable {s : Removal} {t : TreePage × Nat}

theorem step (h : Tracks s t) (row : Nat) : Tracks (s.step row) (TreePage.removeRow t row) := by
  rw [TreePage.removeRow, Forest.remove?_eq h.holds.numbered.nodup]
  by_cases hm : row ∈ t.1.nodes.ids
  · have hseen : row ∉ s.seen := fun hs => h.seen row hs hm
    rw [if_pos hm, Removal.step, if_neg hseen, if_pos (h.holds.isAttached_iff.2 hm)]
    refine ⟨h.holds.detach row, congrArg (· + 1) h.removed, fun r hr => ?_⟩
    rcases List.mem_cons.1 hr with rfl | hr
    · exact Forest.not_mem_ids_without (by simp)
    · exact fun hin => h.seen r hr ((Forest.ids_without_sublist [row] _).subset hin)
  · rw [if_neg hm, Removal.step]
    split
    · exact h
    · rw [if_neg fun ha => hm (h.holds.isAttached_iff.1 ha)]
      exact ⟨h.holds, h.removed, List.forall_mem_cons.2 ⟨hm, h.seen⟩⟩

theorem skip (h : Tracks s t) (hm : row ∉ t.1.nodes.ids) : Tracks (s.step row) t := by
  have hstep := h.step row
  rwa [TreePage.removeRow, Forest.remove?_eq h.holds.numbered.nodup, if_neg hm] at hstep

/-- The rows of nodes that have been detached are not on the page, so they make no difference. -/
theorem foldl (h : Tracks s t) (hp : p.Holds f) (hsub : t.1.nodes.ids ⊆ f.ids) (levels : Nat)
    (nodes : List Nat) :
    Tracks ((nodes.filterMap (p.rowOf? levels)).foldl Removal.step s)
      ((nodes.filterMap ((⟨f⟩ : TreePage).rowOf? levels)).foldl TreePage.removeRow t) := by
  induction nodes generalizing s t with
  | nil => exact h
  | cons node nodes ih =>
    by_cases hm : node ∈ f.ids
    · rw [List.filterMap_cons, List.filterMap_cons, hp.rowOf?_eq hm]
      cases (⟨f⟩ : TreePage).rowOf? levels node with
      | none => exact ih h hsub
      | some row =>
        refine ih (h.step row) (List.Subset.trans ?_ hsub)
        rw [TreePage.removeRow_nodes h.holds.numbered]
        exact (Forest.ids_without_sublist [row] _).subset
    · have hnone : (⟨f⟩ : TreePage).rowOf? levels node = none := TreePage.rowOf?_eq_none hm
      rw [List.filterMap_cons, List.filterMap_cons, hnone]
      cases hrow : p.rowOf? levels node with
      | none => exact ih h hsub
      | some row => exact ih (h.skip fun hr => hp.not_mem_of_rowOf? hm hrow (hsub hr)) hsub

end Tracks

namespace Holds

/-- A linked page and the page of its trees lose the same rows, and as many. -/
theorem removeRows (h : p.Holds f) (nodes : List Nat) (levels : Nat) :
    (p.removeRows nodes levels).1.Holds ((⟨f⟩ : TreePage).removeRows nodes levels).1.nodes ∧
      (p.removeRows nodes levels).2 = ((⟨f⟩ : TreePage).removeRows nodes levels).2 := by
  have hstart : Tracks { page := p } (⟨f⟩, 0) := ⟨h, rfl, by simp⟩
  have hend := hstart.foldl h (List.Subset.refl _) levels nodes
  exact ⟨hend.holds, hend.removed⟩

theorem removeAll (h : p.Holds f) (removals : List (List Nat × Nat)) :
    (p.removeAll removals).Holds ((⟨f⟩ : TreePage).removeAll removals).nodes := by
  induction removals generalizing p f with
  | nil => exact h
  | cons removal removals ih => exact ih (h.removeRows removal.1 removal.2).1

end Holds

/-! ## Pages that have been read -/

theorem mem_ids_of_lt {source : String} :
    id ∈ (Forest.ofSource source).ids ↔ 1 ≤ id ∧ id < (ofSource source).nodes.length := by
  rw [Forest.ids_ofSource, List.mem_range'_1]
  simp [ofSource, ofForest, LinkedNode.page, LinkedNode.length_ofForest, Nat.add_comm]

/-- A page that has been read is linked as its trees are. -/
theorem holds_ofSource (source : String) : (ofSource source).Holds (.ofSource source) where
  numbered := Forest.numbered_ofSource source
  grows := Forest.ids_ofSource source ▸ List.pairwise_lt_range'
  document := rfl
  shown := by
    let document : LinkedNode := ⟨none, none, (Forest.ofSource source).roots⟩
    have hshows : LinkedNode.Shows
        ([document] ++ (LinkedNode.ofForest 0 (Forest.ofSource source) ++ [])) 0
        (Forest.ofSource source) :=
      LinkedNode.shows_ofForest _ _ (Forest.ids_ofSource source)
    simpa [ofSource, ofForest, LinkedNode.page] using hshows
  closed := by
    intro i q hq _
    have hlt : i < (ofSource source).nodes.length := by
      obtain ⟨n, hn, -⟩ := Option.bind_eq_some_iff.1 hq
      exact (List.getElem?_eq_some_iff.1 hn).1
    have := parent?_lt hq
    exact mem_ids_of_lt.2 ⟨by omega, hlt⟩

/-- A linked page from which rows have been removed time and again has the trees that the page of
its trees is left with. -/
theorem holds_removeAll (source : String) (removals : List (List Nat × Nat)) :
    ((ofSource source).removeAll removals).Holds
      ((TreePage.ofSource source).removeAll removals).nodes :=
  (holds_ofSource source).removeAll removals

/-- The root of a page that has been read is `html`. -/
theorem root?_ofSource (source : String) :
    ∃ html attributes, (ofSource source).root? = some html ∧
      (ofSource source).content? html = some (.element .html "html" attributes) ∧
      (Forest.ofSource source).Rooted html := by
  obtain ⟨html, attributes, children, hr, hf⟩ := Forest.rooted_ofSource source
  obtain ⟨hroot, hcontent⟩ := (holds_ofSource source).shown.root hf
  refine ⟨html, attributes, ?_, hcontent, hr⟩
  rw [root?, (holds_ofSource source).children_zero, hroot]

/-- As long as the root is on the page, all anchors of the page stand in it. -/
theorem Holds.anchors?_of_rooted {origin : Forest} {gone : List Nat} {root : Nat}
    (h : p.Holds (origin.without gone)) (hr : origin.Rooted root) :
    Page.anchors? p =
      if p.isAttached root then some (origin.without gone).anchors else none := by
  have hp : Page.anchors? (⟨origin.without gone⟩ : TreePage) =
      if root ∈ gone then none else some (origin.without gone).anchors :=
    TreePage.anchors?_without (show (TreePage.mk origin).nodes.Rooted root from hr) rfl
  rw [h.anchors?, hp]
  by_cases hg : root ∈ gone
  · have hout := Forest.not_mem_ids_without (f := origin) hg
    rw [if_pos hg, if_neg fun ha => hout (h.isAttached_iff.1 ha)]
  · rw [if_neg hg, if_pos (h.isAttached_iff.2 (hr.without hg).mem_ids)]

theorem Holds.anchors?_of_isAttached {origin : Forest} {gone : List Nat} {root : Nat}
    (h : p.Holds (origin.without gone)) (hr : origin.Rooted root)
    (ha : p.isAttached root = true) : Page.anchors? p = some (origin.without gone).anchors :=
  (h.anchors?_of_rooted hr).trans (if_pos ha)

end LinkedPage

end ReleaseListing
