import ReleaseListing.Proofs.Page.Detaching

/-!
# What is on a page

Whether a node is on a page is told on the way up, and the anchors are found on the way down. Both
agree however rows have been removed (`anchors_are_attached`).
-/

namespace ReleaseListing

open Html (Content Forest plainValue?)

theorem Html.Content.isSome_link? {c : Content} : c.link?.isSome = true ↔
    ∃ space attributes, c = .element space "a" attributes ∧
      (plainValue? "href" attributes).isSome = true := by
  cases c with
  | element space name attributes =>
    by_cases hname : name = "a"
    · simp [link?, hname]
    · simp [link?, hname]
  | _ => simp [link?]

namespace LinkedNode.Shows

variable {p : LinkedPage} {f : Forest} {parent id j a root : Nat}

/-- On the way up from a node of the trees there are nodes of the trees, and then what the trees
stand in. -/
theorem mem_ancestors (h : Shows p.nodes parent f) (hn : f.ids.Nodup) (hj : j ∈ f.ids)
    (ha : a ∈ p.ancestors j) : a ∈ f.ids ∨ a ∈ parent :: p.ancestors parent := by
  obtain ⟨line, hl⟩ := Forest.lineage?_of_mem hj
  have hup : a ∈ line ++ parent :: p.ancestors parent := by
    rw [← h.ancestors hn hl]
    exact List.mem_cons_of_mem j ha
  exact (List.mem_append.1 hup).imp_left (Forest.mem_ids_of_mem_lineage hn hl)

theorem parent_mem_ancestors (h : Shows p.nodes parent f) (hn : f.ids.Nodup) (hj : j ∈ f.ids)
    (hparent : parent ∉ f.ids) : parent ∈ p.ancestors j := by
  obtain ⟨line, hl⟩ := Forest.lineage?_of_mem hj
  have hup : parent ∈ j :: p.ancestors j := by simp [h.ancestors hn hl]
  exact (List.mem_cons.1 hup).resolve_left fun e => hparent (e ▸ hj)

theorem filter_ancestors_eq_nil (h : Shows p.nodes parent f) (hn : f.ids.Nodup)
    (hm : id ∉ f.ids) (hout : id ∉ parent :: p.ancestors parent) :
    (f.ids.filter fun j => id ∈ p.ancestors j) = [] := by
  refine List.filter_eq_nil_iff.2 fun j hj => ?_
  rw [decide_eq_true_eq]
  exact fun ha => (h.mem_ancestors hn hj ha).elim hm hout

/-- What is found below a node on the way down are the nodes that find it on the way up. -/
theorem filter_ancestors (h : Shows p.nodes parent f) (hn : f.ids.Nodup)
    (hout : ∀ j ∈ f.ids, j ∉ parent :: p.ancestors parent) (hm : id ∈ f.ids) :
    (f.ids.filter fun j => id ∈ p.ancestors j) = (p.children id).flatMap p.descendants := by
  induction f generalizing parent with
  | nil => simp [Forest.ids] at hm
  | node i c children next ihc ihn =>
    obtain ⟨hic, hin, hcs, hns, hd⟩ := Forest.nodup_node hn
    have hup := LinkedPage.ancestors_of_parent? h.parent?
    have hself : id ∉ p.ancestors i := hup ▸ hout id hm
    rw [Forest.ids, List.filter_cons_of_neg (by simpa using hself), List.filter_append]
    -- The trees of which `id` is none find it nowhere.
    rcases Forest.mem_ids_node.1 hm with rfl | hc | hnext
    · have hall : (children.ids.filter fun j => id ∈ p.ancestors j) = children.ids :=
        List.filter_eq_self.2 fun j hj =>
          decide_eq_true (h.2.1.parent_mem_ancestors hcs hj hic)
      rw [hall, h.2.2.filter_ancestors_eq_nil hns hin (hout id hm), List.append_nil,
        h.children_eq, h.2.1.descendants]
    · rw [h.2.2.filter_ancestors_eq_nil hns (hd id hc) (hout id hm), List.append_nil]
      refine ihc h.2.1 hcs (fun j hj => ?_) hc
      rw [hup, List.mem_cons, not_or]
      exact ⟨fun e => hic (e ▸ hj), hout j (Forest.mem_ids_node.2 (.inr (.inl hj)))⟩
    · have hinner : id ∉ i :: p.ancestors i :=
        List.not_mem_cons_of_ne_of_not_mem (fun e => hin (e ▸ hnext)) hself
      rw [h.2.1.filter_ancestors_eq_nil hcs (fun hc => hd id hc hnext) hinner, List.nil_append]
      exact ihn h.2.2 hns (fun j hj => hout j (Forest.mem_ids_node.2 (.inr (.inr hj)))) hnext

theorem no_elements (h : Shows p.nodes parent f) (hf : f.Flat) :
    f.roots.filter p.isElement = [] := by
  induction f generalizing parent with
  | nil => rfl
  | node i c children next _ ihn =>
    obtain ⟨hc, -, hn⟩ := hf
    have hi : p.isElement i = c.isElement := by simp [LinkedPage.isElement, h.content?]
    rw [Forest.roots, List.filter_cons_of_neg (by simp [hi, hc]), ihn h.2.2 hn]

theorem elements (h : Shows p.nodes parent f) (hf : f.Rooted root) :
    f.roots.filter p.isElement = [root] := by
  induction f generalizing parent with
  | nil => exact hf.elim
  | node i c children next _ ihn =>
    have hi : p.isElement i = c.isElement := by simp [LinkedPage.isElement, h.content?]
    rcases hf with ⟨rfl, hc, hn⟩ | ⟨hc, -, hn⟩
    · rw [Forest.roots, List.filter_cons_of_pos (hi.trans hc), h.2.2.no_elements hn]
    · rw [Forest.roots, List.filter_cons_of_neg (by simp [hi, hc]), ihn h.2.2 hn]

end LinkedNode.Shows

namespace LinkedPage

variable {p : LinkedPage} {f : Forest} {id : Nat} {a : PlacedAnchor}

/-- An anchor has no characters of its own. -/
theorem chars_of_link? (h : (p.link? id).isSome = true) : p.chars id = [] := by
  cases hc : p.content? id with
  | none => simp [chars, hc]
  | some c =>
    rw [link?, hc, Option.bind_some, Content.isSome_link?] at h
    obtain ⟨space, attributes, rfl, -⟩ := h
    simp [chars, hc]

theorem isSome_link? : (p.link? id).isSome = true ↔
    ∃ space attributes, p.content? id = some (.element space "a" attributes) ∧
      (plainValue? "href" attributes).isSome = true := by
  rw [link?]
  cases p.content? id with
  | none => simp
  | some c => simpa using Content.isSome_link?

namespace Holds

theorem link?_zero (h : p.Holds f) : p.link? 0 = none := by
  simp [link?, content?, h.document]

theorem nodup_descendants (h : p.Holds f) : (p.descendants 0).Nodup := by
  rw [h.descendants]
  exact List.nodup_cons.2 ⟨h.numbered.zero_not_mem, h.numbered.nodup⟩

theorem mem_descendants_iff (h : p.Holds f) :
    id ∈ p.descendants 0 ↔ id = 0 ∨ p.isAttached id = true := by
  rw [h.descendants, List.mem_cons, h.isAttached_iff]

/-- What is found below a node on the way down are the nodes that find it on the way up. -/
theorem filter_ancestors (h : p.Holds f) (hm : id ∈ f.ids) :
    ((p.descendants 0).filter fun j => id ∈ p.ancestors j) =
      (p.children id).flatMap p.descendants := by
  have hout : ∀ j ∈ f.ids, j ∉ 0 :: p.ancestors 0 := by
    rw [h.ancestors_zero]
    exact fun j hj h0 => h.numbered.zero_not_mem (List.mem_singleton.1 h0 ▸ hj)
  rw [h.descendants, List.filter_cons_of_neg (by simp [h.ancestors_zero]),
    h.shown.filter_ancestors h.numbered.nodup hout hm]

/-- The anchors that are found on the way down, by their numbers. -/
theorem anchors_nodes (h : p.Holds f) :
    f.anchors.map (·.node) = (p.descendants 0).filter fun id => (p.link? id).isSome := by
  rw [h.descendants, List.filter_cons_of_neg (by simp [h.link?_zero]), ← h.shown.anchors,
    List.map_filterMap, ← List.filterMap_eq_filter]
  refine List.filterMap_congr fun id _ => ?_
  cases hl : p.link? id <;> simp [anchorAt?, hl, Option.guard]

/-- An anchor has the link of its node, and the characters of the nodes that find it on the way
up. -/
theorem anchor_eq (h : p.Holds f) (ha : a ∈ f.anchors) :
    p.link? a.node = some a.anchor.href ∧
      a.anchor.text = String.ofList
        (((p.descendants 0).filter fun id => a.node ∈ p.ancestors id).flatMap p.chars) := by
  rw [← h.shown.anchors] at ha
  obtain ⟨id, hid, hat⟩ := List.mem_filterMap.1 ha
  obtain ⟨href, hlink, rfl⟩ := Option.map_eq_some_iff.1 hat
  refine ⟨hlink, congrArg String.ofList ?_⟩
  rw [h.filter_ancestors hid, descendants_eq, List.flatMap_cons, chars_of_link? (by simp [hlink]),
    List.nil_append]

end Holds

/-- **The ways up and down agree.** However rows have been removed, what the way down from the
document meets is what has the document on its way up, each once. While `html`, the one element in
the document, is on the page, its anchors are the `a` elements with a plain `href` that are on the
page, each once and in the order of the page, and the text of an anchor is that of the text nodes
that have it on their way up. -/
theorem anchors_are_attached (source : String) (removals : List (List Nat × Nat)) :
    let page := (ofSource source).removeAll removals
    (page.descendants 0).Nodup ∧
    (∀ id, id ∈ page.descendants 0 ↔ id = 0 ∨ page.isAttached id = true) ∧
    (∃ html attributes, ((ofSource source).children 0).filter (ofSource source).isElement = [html] ∧
      (ofSource source).content? html = some (.element .html "html" attributes) ∧
      (page.isAttached html = true → ∃ as, Page.anchors? page = some as ∧
        (∀ id, id ∈ as.map (·.node) ↔ page.isAttached id = true ∧
          ∃ space attributes, page.content? id = some (.element space "a" attributes) ∧
            (plainValue? "href" attributes).isSome = true) ∧
        (as.map (·.node)).Nodup ∧
        (as.map (·.node)).Sublist (page.descendants 0) ∧
        ∀ a ∈ as, page.link? a.node = some a.anchor.href ∧
          a.anchor.text = String.ofList
            (((page.descendants 0).filter fun id => a.node ∈ page.ancestors id).flatMap
              page.chars))) ∧
    Page.anchors? page = Page.anchors? ((TreePage.ofSource source).removeAll removals) := by
  intro page
  obtain ⟨gone, hpage⟩ := exists_holds_removeAll source removals
  obtain ⟨html, attributes, -, hcontent, hr⟩ := root?_ofSource source
  have hroots := (holds_ofSource source).shown.elements hr
  rw [← (holds_ofSource source).children_zero] at hroots
  refine ⟨hpage.nodup_descendants, fun id => hpage.mem_descendants_iff,
    ⟨html, attributes, hroots, hcontent, fun hattached => ?_⟩,
    (holds_removeAll source removals).anchors?⟩
  have hnodes := hpage.anchors_nodes
  refine ⟨_, hpage.anchors?_of_isAttached hr hattached, fun id => ?_, ?_, ?_, fun a ha => hpage.anchor_eq ha⟩
  · rw [hnodes, List.mem_filter, hpage.mem_descendants_iff, ← isSome_link?]
    refine and_congr_left fun hlink => or_iff_right fun h0 => ?_
    rw [h0, hpage.link?_zero] at hlink
    cases hlink
  · rw [hnodes]
    exact hpage.nodup_descendants.sublist List.filter_sublist
  · rw [hnodes]
    exact List.filter_sublist

/-- A link in a link has been removed; the third one stands in a template. -/
theorem anchors_are_attached_nested :
    let page := (ofSource
      "<a href=a>x<object><a href=b>y</a></object></a><template><a href=c>z</a></template>").removeAll
        [([7], 0)]
    page.isAttached 1 = true ∧ page.isAttached 7 = false ∧
      Page.anchors? page = some [⟨4, "a", "x"⟩, ⟨11, "c", "z"⟩] ∧
      ∀ id, id ∈ [4, 11] ↔ page.isAttached id = true ∧
        ∃ space attributes, page.content? id = some (.element space "a" attributes) ∧
          (plainValue? "href" attributes).isSome = true := by
  intro page
  obtain ⟨-, -, ⟨html, -, hroot, -, hanchors⟩, -⟩ := anchors_are_attached
    "<a href=a>x<object><a href=b>y</a></object></a><template><a href=c>z</a></template>" [([7], 0)]
  have hhtml : html = 1 := List.singleton_injective (hroot.symm.trans (by decide +kernel))
  have hattached : page.isAttached 1 = true := by decide +kernel
  have hpage : Page.anchors? page = some [⟨4, "a", "x"⟩, ⟨11, "c", "z"⟩] := by decide +kernel
  obtain ⟨as, has, hmem, -⟩ := hanchors (hhtml ▸ hattached)
  obtain rfl := Option.some.inj (hpage.symm.trans has)
  exact ⟨hattached, by decide +kernel, hpage, hmem⟩

end LinkedPage

end ReleaseListing
