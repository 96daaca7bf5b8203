import Mathlib.Data.List.Nodup
import ReleaseListing.Page.Tree

/-!
# Trees without some of their nodes

`Forest.without gone f` leaves out the trees of the nodes with the numbers `gone`. A node stays if
neither it nor anything that it stands in has such a number (`Forest.Spares`). In a forest whose
numbers are distinct:

* `remove?_eq`: taking a node out leaves out the tree of one number;
* `lineage?_without`: a node that stays stands in the same nodes as before;
* `links_without`: the anchors that stay keep their order and their links.
-/

namespace ReleaseListing

/-- An anchor by its number and its link, whatever its text is. -/
def PlacedAnchor.link (a : PlacedAnchor) : Nat × String := (a.node, a.anchor.href)

end ReleaseListing

namespace ReleaseListing.Html.Forest

/-- The trees without those of the nodes with the given numbers. -/
def without (gone : List Nat) : Forest → Forest
  | nil => nil
  | node i c children next =>
    if i ∈ gone then without gone next
    else node i c (without gone children) (without gone next)

/-- Neither the node `id` nor anything that it stands in has one of the numbers `gone`. -/
def Spares (gone : List Nat) (f : Forest) (id : Nat) : Prop :=
  ∀ line ∈ f.lineage? id, ∀ i ∈ line, i ∉ gone

instance (gone : List Nat) (f : Forest) (id : Nat) : Decidable (f.Spares gone id) :=
  inferInstanceAs (Decidable (∀ line ∈ f.lineage? id, ∀ i ∈ line, i ∉ gone))

variable {gone : List Nat} {f : Forest} {id i : Nat} {c : Content} {children next : Forest}

/-! ## Numbers -/

theorem mem_ids_node :
    id ∈ (node i c children next).ids ↔ id = i ∨ id ∈ children.ids ∨ id ∈ next.ids := by
  simp [ids]

theorem nodup_node (h : (node i c children next).ids.Nodup) :
    i ∉ children.ids ∧ i ∉ next.ids ∧ children.ids.Nodup ∧ next.ids.Nodup ∧
      ∀ j ∈ children.ids, j ∉ next.ids := by
  simp only [ids, List.nodup_cons, List.mem_append, not_or, List.nodup_append] at h
  obtain ⟨⟨hc, hn⟩, hcs, hns, hd⟩ := h
  exact ⟨hc, hn, hcs, hns, fun j hj hj' => hd j hj j hj' rfl⟩

theorem ids_without_sublist (gone : List Nat) (f : Forest) :
    (f.without gone).ids.Sublist f.ids := by
  induction f with
  | nil => exact List.Sublist.refl _
  | node i c children next ihc ihn =>
    simp only [without]
    split
    · exact (ihn.trans (List.sublist_append_right _ _)).cons i
    · exact (ihc.append ihn).cons_cons i

theorem nodup_without (h : f.ids.Nodup) : (f.without gone).ids.Nodup :=
  h.sublist (ids_without_sublist gone f)

/-- Leaving out numbers that no node has changes nothing. -/
theorem without_eq_self (h : ∀ j ∈ gone, j ∉ f.ids) : f.without gone = f := by
  induction f with
  | nil => rfl
  | node i c children next ihc ihn =>
    have hi : i ∉ gone := fun hi => h i hi (mem_ids_node.2 (.inl rfl))
    simp only [without, if_neg hi]
    rw [ihc fun j hj hm => h j hj (mem_ids_node.2 (.inr (.inl hm))),
      ihn fun j hj hm => h j hj (mem_ids_node.2 (.inr (.inr hm)))]

theorem without_nil (f : Forest) : f.without [] = f := without_eq_self (by simp)

theorem without_singleton (h : id ∉ f.ids) : f.without [id] = f :=
  without_eq_self (by simpa using h)

theorem without_congr {gone gone' : List Nat} (h : ∀ j ∈ f.ids, j ∈ gone ↔ j ∈ gone') :
    f.without gone = f.without gone' := by
  induction f with
  | nil => rfl
  | node i c children next ihc ihn =>
    simp only [without, h i (mem_ids_node.2 (.inl rfl)),
      ihc fun j hj => h j (mem_ids_node.2 (.inr (.inl hj))),
      ihn fun j hj => h j (mem_ids_node.2 (.inr (.inr hj)))]

theorem without_single : (single i c children).without gone =
    if i ∈ gone then nil else single i c (children.without gone) := rfl

theorem without_without (gone gone' : List Nat) (f : Forest) :
    (f.without gone).without gone' = f.without (gone ++ gone') := by
  induction f with
  | nil => rfl
  | node i c children next ihc ihn =>
    by_cases hi : i ∈ gone
    · simp [without, hi, ihn]
    · by_cases hi' : i ∈ gone' <;> simp [without, hi, hi', ihc, ihn]

/-! ## What a node stands in -/

theorem lineage?_node_self : (node i c children next).lineage? i = some [i] := by
  simp [lineage?]

theorem lineage?_eq_none_iff : f.lineage? id = none ↔ id ∉ f.ids := by
  induction f with
  | nil => simp [lineage?, ids]
  | node i c children next ihc ihn =>
    by_cases hi : i = id
    · simp [lineage?, ids, hi]
    · cases hc : children.lineage? id with
      | none =>
        have hm := ihc.1 hc
        simp [lineage?, ids, hi, hc, hm, ihn, Ne.symm hi]
      | some line =>
        have hm : id ∈ children.ids := by
          by_contra hm
          simp [ihc.2 hm] at hc
        simp [lineage?, ids, hi, hc, hm]

theorem lineage?_of_mem (h : id ∈ f.ids) : ∃ line, f.lineage? id = some line :=
  Option.ne_none_iff_exists'.1 fun hn => lineage?_eq_none_iff.1 hn h

theorem mem_of_lineage? {line : List Nat} (h : f.lineage? id = some line) : id ∈ f.ids := by
  by_contra hm
  rw [lineage?_eq_none_iff.2 hm] at h
  cases h

theorem lineage?_node_of_mem_children (hi : i ∉ children.ids) (h : id ∈ children.ids) :
    (node i c children next).lineage? id = (children.lineage? id).map (· ++ [i]) := by
  obtain ⟨line, hl⟩ := lineage?_of_mem h
  have hne : i ≠ id := fun e => hi (e ▸ h)
  simp [lineage?, hne, hl]

theorem lineage?_node_of_mem_next (hi : i ∉ next.ids) (hd : id ∉ children.ids)
    (h : id ∈ next.ids) : (node i c children next).lineage? id = next.lineage? id := by
  have hne : i ≠ id := fun e => hi (e ▸ h)
  simp [lineage?, hne, lineage?_eq_none_iff.2 hd]

/-- What stands in the line of a node has the rest of that line as its own. -/
theorem lineage?_suffix {line above : List Nat} (h : f.ids.Nodup)
    (hl : f.lineage? id = some (line ++ i :: above)) : f.lineage? i = some (i :: above) := by
  induction f generalizing above with
  | nil => simp [lineage?] at hl
  | node j c children next ihc ihn =>
    obtain ⟨hjc, hjn, hc, hn, hd⟩ := nodup_node h
    rcases mem_ids_node.1 (mem_of_lineage? hl) with rfl | hm | hm
    · rw [lineage?_node_self, Option.some.injEq] at hl
      obtain ⟨-, rfl, rfl⟩ : line = [] ∧ i = id ∧ above = [] := by
        cases line <;> simp_all [eq_comm]
      exact lineage?_node_self
    · rw [lineage?_node_of_mem_children hjc hm] at hl
      obtain ⟨inner, hinner, he⟩ := Option.map_eq_some_iff.1 hl
      rcases List.eq_nil_or_concat above with rfl | ⟨above, k, rfl⟩
      · obtain ⟨-, hj⟩ := List.append_inj' he rfl
        obtain rfl : j = i := by simpa using hj
        exact lineage?_node_self
      · have hsplit : inner ++ [j] = (line ++ i :: above) ++ [k] := by simpa using he
        obtain ⟨rfl, hk⟩ := List.append_inj' hsplit rfl
        obtain rfl : j = k := by simpa using hk
        have hi := ihc hc hinner
        rw [lineage?_node_of_mem_children hjc (mem_of_lineage? hi), hi]
        simp
    · have hm' : id ∉ children.ids := fun hc => hd id hc hm
      rw [lineage?_node_of_mem_next hjn hm' hm] at hl
      have hi := ihn hn hl
      have hin := mem_of_lineage? hi
      rw [lineage?_node_of_mem_next hjn (fun hc => hd i hc hin) hin, hi]

theorem spares_iff {line : List Nat} (h : f.lineage? id = some line) :
    f.Spares gone id ↔ ∀ i ∈ line, i ∉ gone := by
  simp [Spares, h]

theorem spares_node_self : (node i c children next).Spares gone i ↔ i ∉ gone := by
  simp [Spares, lineage?_node_self]

theorem spares_node_of_mem_children (hi : i ∉ children.ids) (h : id ∈ children.ids) :
    (node i c children next).Spares gone id ↔ i ∉ gone ∧ children.Spares gone id := by
  obtain ⟨line, hl⟩ := lineage?_of_mem h
  simp [Spares, lineage?_node_of_mem_children hi h, hl, or_imp, forall_and, and_comm]

theorem spares_node_of_mem_next (hi : i ∉ next.ids) (hd : id ∉ children.ids)
    (h : id ∈ next.ids) : (node i c children next).Spares gone id ↔ next.Spares gone id := by
  simp [Spares, lineage?_node_of_mem_next hi hd h]

/-! ## What stays -/

/-- The nodes that stay are those that are spared. -/
theorem mem_ids_without (h : f.ids.Nodup) :
    id ∈ (f.without gone).ids ↔ id ∈ f.ids ∧ f.Spares gone id := by
  induction f with
  | nil => simp [without, ids]
  | node i c children next ihc ihn =>
    obtain ⟨hic, hin, hc, hn, hd⟩ := nodup_node h
    rw [mem_ids_node]
    by_cases hnext : id ∈ next.ids
    · have hchild : id ∉ children.ids := fun hm => hd id hm hnext
      have hne : id ≠ i := fun e => hin (e ▸ hnext)
      rw [spares_node_of_mem_next hin hchild hnext]
      simp only [without]
      split <;> simp [mem_ids_node, ihc hc, ihn hn, hne, hchild, hnext]
    · by_cases hchild : id ∈ children.ids
      · have hne : id ≠ i := fun e => hic (e ▸ hchild)
        rw [spares_node_of_mem_children hic hchild]
        simp only [without]
        split <;> simp_all [mem_ids_node]
      · by_cases he : id = i
        · subst he
          rw [spares_node_self]
          simp only [without]
          split <;> simp_all [mem_ids_node]
        · simp only [without]
          split <;> simp_all [mem_ids_node]

/-- A node that stays stands in the same nodes as before. -/
theorem lineage?_without (h : f.ids.Nodup) (hm : id ∈ (f.without gone).ids) :
    (f.without gone).lineage? id = f.lineage? id := by
  induction f with
  | nil => rfl
  | node i c children next ihc ihn =>
    obtain ⟨hic, hin, hc, hn, hd⟩ := nodup_node h
    have hsc := (ids_without_sublist gone children).subset
    have hsn := (ids_without_sublist gone next).subset
    by_cases hi : i ∈ gone
    · simp only [without, if_pos hi] at hm ⊢
      have hnext := hsn hm
      rw [ihn hn hm, lineage?_node_of_mem_next hin (fun hc => hd id hc hnext) hnext]
    · simp only [without, if_neg hi] at hm ⊢
      rcases mem_ids_node.1 hm with rfl | hm | hm
      · rw [lineage?_node_self, lineage?_node_self]
      · rw [lineage?_node_of_mem_children (fun h => hic (hsc h)) hm, ihc hc hm,
          lineage?_node_of_mem_children hic (hsc hm)]
      · have hchild : id ∉ children.ids := fun hc => hd id hc (hsn hm)
        rw [lineage?_node_of_mem_next (fun h => hin (hsn h)) (fun h => hchild (hsc h)) hm,
          ihn hn hm, lineage?_node_of_mem_next hin hchild (hsn hm)]

/-! ## Taking a node out -/

theorem remove?_node (id : Nat) :
    (node i c children next).remove? id =
      if i = id then some next
      else
        match next.remove? id with
        | some next => some (node i c children next)
        | none => (children.remove? id).map fun children => node i c children next := by
  by_cases hi : i = id
  · simp [remove?, extract?, hi]
  · simp only [remove?, extract?, beq_iff_eq, hi, if_false]
    cases next.extract? id with
    | some p => rfl
    | none => cases children.extract? id <;> rfl

/-- To take a node out is to leave out the tree of its number. -/
theorem remove?_eq (h : f.ids.Nodup) (id : Nat) :
    f.remove? id = if id ∈ f.ids then some (f.without [id]) else none := by
  induction f with
  | nil => simp [remove?, extract?, ids]
  | node i c children next ihc ihn =>
    obtain ⟨hic, hin, hc, hn, hd⟩ := nodup_node h
    rw [remove?_node]
    by_cases hi : i = id
    · subst hi
      simp [without, ids, without_singleton hin]
    · rw [if_neg hi, ihn hn, ihc hc]
      by_cases hnext : id ∈ next.ids
      · have hchild : id ∉ children.ids := fun hm => hd id hm hnext
        simp [without, ids, hi, hnext,
          without_singleton hchild]
      · by_cases hchild : id ∈ children.ids
        · simp [without, ids, hi, hnext, hchild,
            without_singleton hnext]
        · simp [ids, Ne.symm hi, hnext, hchild]

/-! ## Anchors -/

/-- The anchor that a node with the children is, if it has a link. -/
def ownAnchor (i : Nat) (c : Content) (children : Forest) : List PlacedAnchor :=
  match c.link? with
  | some href => [⟨i, href, String.ofList children.text⟩]
  | none => []

theorem anchors_node :
    (node i c children next).anchors =
      ownAnchor i c children ++ (children.anchors ++ next.anchors) := rfl

theorem anchors_single :
    (single i c children).anchors = ownAnchor i c children ++ children.anchors := by
  rw [single, anchors_node, anchors, List.append_nil]

theorem ownAnchor_of_link?_eq_none (h : c.link? = none) : ownAnchor i c children = [] := by
  simp [ownAnchor, h]

theorem node_of_mem_ownAnchor {a : PlacedAnchor} (h : a ∈ ownAnchor i c children) :
    a.node = i := by
  unfold ownAnchor at h
  split at h <;> simp_all

theorem ownAnchor_links (i : Nat) (c : Content) (children children' : Forest) :
    (ownAnchor i c children).map PlacedAnchor.link =
      (ownAnchor i c children').map PlacedAnchor.link := by
  unfold ownAnchor
  split <;> rfl

/-- The anchors stand on the page in the order of their nodes, each once. -/
theorem anchors_nodes_sublist (f : Forest) : (f.anchors.map (·.node)).Sublist f.ids := by
  induction f with
  | nil => exact List.Sublist.refl _
  | node i c children next ihc ihn =>
    have hown : ((ownAnchor i c children).map (·.node)).Sublist [i] := by
      unfold ownAnchor
      split
      · exact List.Sublist.refl _
      · exact List.nil_sublist _
    rw [anchors_node, List.map_append, List.map_append]
    exact hown.append (ihc.append ihn)

theorem mem_ids_of_mem_anchors {a : PlacedAnchor} (h : a ∈ f.anchors) : a.node ∈ f.ids :=
  (anchors_nodes_sublist f).subset (List.mem_map_of_mem h)

/-- The anchors that stay are those that are spared, in the same order. Their texts may have become
shorter. -/
theorem links_without (h : f.ids.Nodup) :
    (f.without gone).anchors.map PlacedAnchor.link =
      (f.anchors.filter fun a => f.Spares gone a.node).map PlacedAnchor.link := by
  induction f with
  | nil => rfl
  | node i c children next ihc ihn =>
    obtain ⟨hic, hin, hc, hn, hd⟩ := nodup_node h
    have hnext : next.anchors.filter
          (fun a => decide ((node i c children next).Spares gone a.node)) =
        next.anchors.filter fun a => decide (next.Spares gone a.node) := by
      refine List.filter_congr fun a ha => ?_
      have hm := mem_ids_of_mem_anchors ha
      simp only [spares_node_of_mem_next hin (fun hc => hd _ hc hm) hm]
    by_cases hi : i ∈ gone
    · have hown : (ownAnchor i c children).filter
            (fun a => decide ((node i c children next).Spares gone a.node)) = [] := by
        refine List.filter_eq_nil_iff.2 fun a ha => ?_
        simp [node_of_mem_ownAnchor ha, spares_node_self, hi]
      have hchild : children.anchors.filter
            (fun a => decide ((node i c children next).Spares gone a.node)) = [] := by
        refine List.filter_eq_nil_iff.2 fun a ha => ?_
        simp [spares_node_of_mem_children hic (mem_ids_of_mem_anchors ha), hi]
      simp only [without, if_pos hi, anchors_node, List.filter_append, hown, hchild, hnext, ihn hn,
        List.nil_append]
    · have hown : (ownAnchor i c children).filter
            (fun a => decide ((node i c children next).Spares gone a.node)) =
          ownAnchor i c children := by
        refine List.filter_eq_self.2 fun a ha => ?_
        simp [node_of_mem_ownAnchor ha, spares_node_self, hi]
      have hchild : children.anchors.filter
            (fun a => decide ((node i c children next).Spares gone a.node)) =
          children.anchors.filter fun a => decide (children.Spares gone a.node) := by
        refine List.filter_congr fun a ha => ?_
        simp only [spares_node_of_mem_children hic (mem_ids_of_mem_anchors ha), hi,
          not_false_eq_true, true_and]
      simp only [without, if_neg hi, anchors_node, List.filter_append, hown, hchild, hnext,
        List.map_append, ihc hc, ihn hn, ownAnchor_links i c (children.without gone) children]

end ReleaseListing.Html.Forest
