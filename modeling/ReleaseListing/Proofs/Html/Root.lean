import ReleaseListing.Html.Document
import ReleaseListing.Proofs.Html.Pruning

/-!
# The numbers and the root of a page that has been read

A page that has been read has distinct numbers from 1 on (`numbered_ofSource`), and one element on
its top level, in which all anchors stand (`rooted_ofSource`). It keeps that element until a row
with its number goes (`Rooted.without`, `Rooted.without_root`).
-/

namespace ReleaseListing.Html.Forest

variable {gone : List Nat} {f next children : Forest} {root i n : Nat} {c : Content}

/-! ## Numbers -/

/-- The numbers are distinct, and none is that of the document around the forest. -/
structure Numbered (f : Forest) : Prop where
  nodup : f.ids.Nodup
  zero_not_mem : 0 ∉ f.ids

theorem Numbered.without (h : f.Numbered) (gone : List Nat) : (f.without gone).Numbered :=
  ⟨nodup_without h.nodup, fun h0 => h.zero_not_mem ((ids_without_sublist gone f).subset h0)⟩

/-- New numbers follow each other. -/
theorem ids_renumber (n : Nat) (f : Forest) :
    (f.renumber n).1.ids = List.range' n f.ids.length ∧
      (f.renumber n).2 = n + f.ids.length := by
  induction f generalizing n with
  | nil => simp [renumber, ids]
  | node i c children next ihc ihn =>
    obtain ⟨hc, hc'⟩ := ihc (n + 1)
    obtain ⟨hn, hn'⟩ := ihn ((children.renumber (n + 1)).2)
    simp only [renumber, ids, List.length_cons, List.length_append]
    refine ⟨?_, by omega⟩
    rw [hc, hn, hc', List.range'_append_1, List.range'_succ]

theorem numbered_of_ids {k : Nat} (hn : 0 < n) (h : f.ids = List.range' n k) : f.Numbered := by
  constructor
  · rw [h]
    exact List.nodup_range'
  · rw [h]
    simp only [List.mem_range'_1]
    omega

theorem numbered_renumber (hn : 0 < n) (f : Forest) : (f.renumber n).1.Numbered :=
  numbered_of_ids hn (ids_renumber n f).1

/-! ## The root -/

/-- Nothing but leaves that are no elements. -/
def Flat : Forest → Prop
  | nil => True
  | node _ c children next => c.isElement = false ∧ children = nil ∧ Flat next

/-- One element stands on the top level, with the number `root`; nothing stands in the others. -/
def Rooted (root : Nat) : Forest → Prop
  | nil => False
  | node i c children next =>
    (i = root ∧ c.isElement = true ∧ Flat next) ∨
      (c.isElement = false ∧ children = nil ∧ Rooted root next)

theorem link?_of_not_isElement (h : c.isElement = false) : c.link? = none := by
  cases c <;> first | rfl | cases h

theorem ownAnchor_of_not_isElement (h : c.isElement = false) : ownAnchor i c children = [] :=
  ownAnchor_of_link?_eq_none (link?_of_not_isElement h)

theorem Flat.anchors (h : Flat f) : f.anchors = [] := by
  induction f with
  | nil => rfl
  | node i c children next _ ihn =>
    obtain ⟨hc, rfl, hn⟩ := h
    rw [anchors_node, ownAnchor_of_not_isElement hc, ihn hn]
    rfl

theorem Flat.firstElement? (h : Flat f) : f.firstElement? = none := by
  induction f with
  | nil => rfl
  | node i c children next _ ihn =>
    obtain ⟨hc, rfl, hn⟩ := h
    simp [Forest.firstElement?, hc, ihn hn]

theorem Flat.without (h : Flat f) (gone : List Nat) : Flat (f.without gone) := by
  induction f with
  | nil => trivial
  | node i c children next _ ihn =>
    obtain ⟨hc, rfl, hn⟩ := h
    simp only [Forest.without]
    split
    · exact ihn hn
    · exact ⟨hc, rfl, ihn hn⟩

/-- The root of a forest that has one. -/
theorem Rooted.firstElement? (h : Rooted root f) :
    ∃ c children, f.firstElement? = some (single root c children) ∧ c.isElement = true := by
  induction f with
  | nil => exact h.elim
  | node i c children next _ ihn =>
    rcases h with ⟨rfl, hc, -⟩ | ⟨hc, -, hn⟩
    · exact ⟨c, children, by simp [Forest.firstElement?, hc], hc⟩
    · obtain ⟨c', children', he, hc'⟩ := ihn hn
      exact ⟨c', children', by simp [Forest.firstElement?, hc, he], hc'⟩

/-- All anchors stand in the root. -/
theorem Rooted.anchors (h : Rooted root f) :
    f.firstElement?.map Forest.anchors = some f.anchors := by
  induction f with
  | nil => exact h.elim
  | node i c children next _ ihn =>
    rcases h with ⟨rfl, hc, hn⟩ | ⟨hc, rfl, hn⟩
    · simp [Forest.firstElement?, hc, single, hn.anchors, Forest.anchors]
    · rw [anchors_node, ownAnchor_of_not_isElement hc]
      simp [Forest.firstElement?, hc, ihn hn, Forest.anchors]

theorem Rooted.mem_ids (h : Rooted root f) : root ∈ f.ids := by
  induction f with
  | nil => exact h.elim
  | node i c children next _ ihn =>
    rcases h with ⟨rfl, -, -⟩ | ⟨-, -, hn⟩
    · exact mem_ids_node.2 (.inl rfl)
    · exact mem_ids_node.2 (.inr (.inr (ihn hn)))

theorem Rooted.ne_zero (h : Rooted root f) (hn : f.Numbered) : root ≠ 0 :=
  fun e => hn.zero_not_mem (e ▸ h.mem_ids)

theorem Rooted.without (h : Rooted root f) (hr : root ∉ gone) :
    Rooted root (f.without gone) := by
  induction f with
  | nil => exact h.elim
  | node i c children next _ ihn =>
    rcases h with ⟨rfl, hc, hn⟩ | ⟨hc, rfl, hn⟩
    · simp only [Forest.without, if_neg hr]
      exact .inl ⟨rfl, hc, hn.without gone⟩
    · simp only [Forest.without]
      split
      · exact ihn hn
      · exact .inr ⟨hc, rfl, ihn hn⟩

/-- Without its root a forest has no element on its top level. -/
theorem Rooted.without_root (h : Rooted root f) (hr : root ∈ gone) : Flat (f.without gone) := by
  induction f with
  | nil => exact h.elim
  | node i c children next _ ihn =>
    rcases h with ⟨rfl, hc, hn⟩ | ⟨hc, rfl, hn⟩
    · simp only [Forest.without, if_pos hr]
      exact hn.without gone
    · simp only [Forest.without]
      split
      · exact ihn hn
      · exact ⟨hc, rfl, ihn hn⟩

/-! ## Pages that have been read -/

theorem Flat.renumber (h : Flat f) (n : Nat) : Flat (f.renumber n).1 := by
  induction f generalizing n with
  | nil => trivial
  | node i c children next _ ihn =>
    obtain ⟨hc, rfl, hn⟩ := h
    exact ⟨hc, rfl, ihn hn _⟩

theorem Rooted.renumber (h : Rooted root f) (n : Nat) :
    ∃ root, Rooted root (f.renumber n).1 := by
  induction f generalizing n with
  | nil => exact h.elim
  | node i c children next _ ihn =>
    rcases h with ⟨-, hc, hn⟩ | ⟨hc, rfl, hn⟩
    · exact ⟨n, .inl ⟨rfl, hc, hn.renumber _⟩⟩
    · obtain ⟨root, hr⟩ := ihn hn (Forest.renumber (n + 1) nil).2
      exact ⟨root, .inr ⟨hc, rfl, hr⟩⟩

theorem content_isElement (o : Outside) : o.content.isElement = false := by
  cases o <;> rfl

theorem flat_ofOutside (nodes : List Outside) : Flat (ofOutside nodes) := by
  induction nodes with
  | nil => trivial
  | cons o nodes ih => exact ⟨content_isElement o, rfl, ih⟩

theorem rooted_append (nodes : List Outside) (h : Rooted root f) :
    Rooted root (ofOutside nodes ++ f) := by
  induction nodes with
  | nil => exact h
  | cons o nodes ih => exact .inr ⟨content_isElement o, rfl, ih⟩

theorem firstElement?_append (nodes : List Outside) (f : Forest) :
    (ofOutside nodes ++ f).firstElement? = f.firstElement? := by
  induction nodes with
  | nil => rfl
  | cons o nodes ih =>
    show (node 0 o.content nil (ofOutside nodes ++ f)).firstElement? = _
    simp [firstElement?, content_isElement, ih]

theorem firstElement?_renumber (h : f.firstElement? = some (single i c children)) (n : Nat) :
    ∃ i children, (f.renumber n).1.firstElement? = some (single i c children) := by
  induction f generalizing n with
  | nil => cases h
  | node j d inner next _ ihn =>
    simp only [firstElement?, renumber] at h ⊢
    by_cases hd : d.isElement
    · rw [if_pos hd] at h ⊢
      obtain ⟨-, rfl, -⟩ : j = i ∧ d = c ∧ inner = children := by simpa [single] using h
      exact ⟨_, _, rfl⟩
    · rw [if_neg hd] at h ⊢
      exact ihn h _

theorem numbered_ofSource (source : String) : (ofSource source).Numbered :=
  numbered_renumber Nat.one_pos _

/-- A page that has been read has one element on its top level, `html`. -/
theorem rooted_ofSource (source : String) :
    ∃ root attributes children, Rooted root (ofSource source) ∧
      (ofSource source).firstElement? =
        some (single root (.element .html "html" attributes) children) := by
  let s := Construction.ofSource source
  let html := node 0 (.element .html "html" s.attributes) s.children (ofOutside s.epilog.reverse)
  have hroot : Rooted 0 html := .inl ⟨rfl, rfl, flat_ofOutside _⟩
  have hfirst : (ofOutside s.prolog.reverse ++ html).firstElement? =
      some (single 0 (.element .html "html" s.attributes) s.children) :=
    firstElement?_append s.prolog.reverse html
  obtain ⟨root, hr⟩ := (rooted_append s.prolog.reverse hroot).renumber 1
  obtain ⟨i, children, hi⟩ := firstElement?_renumber hfirst 1
  obtain ⟨c, inner, hc, -⟩ := hr.firstElement?
  obtain ⟨rfl, -, -⟩ : i = root ∧ _ ∧ _ := by simpa [single] using hi.symm.trans hc
  exact ⟨i, s.attributes, children, hr, hi⟩

end ReleaseListing.Html.Forest
