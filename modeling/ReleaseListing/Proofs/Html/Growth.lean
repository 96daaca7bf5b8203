import ReleaseListing.Page.Tree

/-!
# A tree that grows at its end

While a page is read, its tree grows in the innermost open element. `plug frames inner` is such a
tree: `frames` are the open elements, innermost first, each with what stands in front of it, and
`inner` is what the innermost one holds so far. What is put behind the children of the innermost
element lands at the end of `inner` (`update?_plug`), as numbers of open elements are distinct.

Of the tree only its text and its links are of account (`text_append`, `links_append`).
-/

namespace ReleaseListing.Html

namespace Forest

variable {f g children next : Forest} {id i : Nat} {c : Content} {cs : List Char}

/-! ## Appending -/

@[simp] theorem nil_append (f : Forest) : nil ++ f = f := rfl

@[simp] theorem node_append (i : Nat) (c : Content) (children next f : Forest) :
    node i c children next ++ f = node i c children (next ++ f) := rfl

/-! ## Text and links -/

/-- The anchors that have a link, without their numbers. -/
def links (f : Forest) : List Anchor := f.anchors.map (·.anchor)

/-- The text of a node by itself. -/
def ownText : Content → List Char
  | .text cs => cs
  | _ => []

/-- The link of a node by itself. -/
def ownLink (c : Content) (children : Forest) : List Anchor :=
  (c.link?.map fun href => ⟨href, String.ofList children.text⟩).toList

theorem text_node : (node i c children next).text = ownText c ++ (children.text ++ next.text) := by
  cases c <;> rfl

theorem links_node :
    (node i c children next).links = ownLink c children ++ (children.links ++ next.links) := by
  unfold links ownLink
  rw [anchors]
  cases c.link? <;> simp

@[simp] theorem text_nil : nil.text = [] := rfl

@[simp] theorem links_nil : nil.links = [] := rfl

theorem text_append (f g : Forest) : (f ++ g).text = f.text ++ g.text := by
  induction f with
  | nil => rfl
  | node i c children next _ ihn => simp only [node_append, text_node, ihn, List.append_assoc]

theorem links_append (f g : Forest) : (f ++ g).links = f.links ++ g.links := by
  induction f with
  | nil => rfl
  | node i c children next _ ihn => simp only [node_append, links_node, ihn, List.append_assoc]

theorem text_single (i : Nat) (c : Content) (children : Forest) :
    (single i c children).text = ownText c ++ children.text := by
  rw [single, text_node, text_nil, List.append_nil]

theorem links_single (i : Nat) (c : Content) (children : Forest) :
    (single i c children).links = ownLink c children ++ children.links := by
  rw [single, links_node, links_nil, List.append_nil]

/-! ## Text at the end -/

/-- Nothing stands in the texts among siblings. -/
def Leafy : Forest → Prop
  | nil => True
  | node _ c children next => (∀ cs, c = .text cs → children = nil) ∧ Leafy next

theorem Leafy.append (hf : f.Leafy) (hg : g.Leafy) : (f ++ g).Leafy := by
  induction f with
  | nil => exact hg
  | node i c children next _ ihn => exact ⟨hf.1, ihn hf.2⟩

theorem leafy_single (h : ∀ cs, c ≠ .text cs) : (single i c children).Leafy :=
  ⟨fun cs hc => absurd hc (h cs), trivial⟩

/-- Text that is put at the end joins a text there, or is a node of its own. -/
theorem appendText_cases (id : Nat) (cs : List Char) (f : Forest) :
    f.appendText id cs = f ++ single id (.text cs) nil ∨
      ∃ before i ds children, f = before ++ single i (.text ds) children ∧
        f.appendText id cs = before ++ single i (.text (ds ++ cs)) children := by
  induction f with
  | nil => exact .inl rfl
  | node i c children next _ ihn =>
    cases next with
    | nil =>
      cases c with
      | text ds => exact .inr ⟨nil, i, ds, children, rfl, rfl⟩
      | _ => exact .inl rfl
    | node j d inner later =>
      have hstep : (node i c children (node j d inner later)).appendText id cs =
          node i c children ((node j d inner later).appendText id cs) := by
        cases c <;> rfl
      rw [hstep]
      rcases ihn with hown | ⟨before, k, ds, children', hf, happend⟩
      · rw [hown]
        exact .inl rfl
      · rw [happend, hf]
        exact .inr ⟨node i c children before, k, ds, children', rfl, rfl⟩

theorem Leafy.right (h : (f ++ g).Leafy) : g.Leafy := by
  induction f with
  | nil => exact h
  | node i c children next _ ihn => exact ihn h.2

theorem Leafy.left (h : (f ++ g).Leafy) : f.Leafy := by
  induction f with
  | nil => trivial
  | node i c children next _ ihn => exact ⟨h.1, ihn h.2⟩

/-- Text that is put at the end is text at the end, and no link. -/
theorem Leafy.appendText (h : f.Leafy) (id : Nat) (cs : List Char) :
    (f.appendText id cs).Leafy ∧ (f.appendText id cs).text = f.text ++ cs ∧
      (f.appendText id cs).links = f.links := by
  rcases appendText_cases id cs f with heq | ⟨before, i, ds, children, rfl, heq⟩
  · rw [heq]
    refine ⟨h.append ⟨fun _ _ => rfl, trivial⟩, ?_, ?_⟩
    · rw [text_append, text_single, ownText, text_nil, List.append_nil]
    · rw [links_append, links_single]
      simp [ownLink, Content.link?]
  · have hnil : children = nil := h.right.1 ds rfl
    rw [heq]
    refine ⟨h.left.append ⟨fun _ _ => hnil, trivial⟩, ?_, ?_⟩
    · simp only [text_append, text_single, ownText, hnil, text_nil, List.append_nil,
        List.append_assoc]
    · simp only [links_append, links_single]
      rfl

/-! ## Putting something behind the children of a node -/

/-- What stands last is found first. -/
theorem update?_last_self (before : Forest) (i : Nat) (c : Content) (children : Forest)
    (u : Content → Forest → Content × Forest) :
    (before ++ single i c children).update? i u =
      some (before ++ single i (u c children).1 (u c children).2) := by
  induction before with
  | nil => simp [single, update?]
  | node j d inner next _ ihn => simp [update?, ihn]

theorem update?_last {u : Content → Forest → Content × Forest} (before : Forest) (c : Content)
    {children' : Forest} (hi : i ≠ id) (h : children.update? id u = some children') :
    (before ++ single i c children).update? id u = some (before ++ single i c children') := by
  induction before with
  | nil => simp [single, update?, hi, h]
  | node j d inner next _ ihn => simp [update?, ihn]

end Forest

/-! ## Open elements -/

/-- An element that is open, and what stands in front of it. -/
structure Frame where
  id : Nat
  space : Space
  name : String
  attributes : List Attribute
  before : Forest

namespace Frame

def content (f : Frame) : Content := .element f.space f.name f.attributes

/-- The element as one of those that are open. -/
def element (f : Frame) : OpenElement where
  id := f.id
  space := f.space
  name := f.name

/-- The children of the element: what it holds, which in a template stands in a node of its own. -/
def holding (f : Frame) (inner : Forest) : Forest :=
  if f.element.is "template" then .single (f.id + 1) .fragment inner else inner

/-- The element with what it holds, behind what stands in front of it. -/
def closed (f : Frame) (inner : Forest) : Forest :=
  f.before ++ .single f.id f.content (f.holding inner)

theorem text_holding (f : Frame) (inner : Forest) : (f.holding inner).text = inner.text := by
  unfold holding
  split
  · rw [Forest.text_single]
    rfl
  · rfl

theorem links_holding (f : Frame) (inner : Forest) : (f.holding inner).links = inner.links := by
  unfold holding
  split
  · rw [Forest.links_single]
    rfl
  · rfl

/-- What the element holds changes, and nothing else. -/
theorem update?_closed_self (f : Frame) (inner : Forest) (u : Forest → Forest) :
    (f.closed inner).update? f.element.contentsId (fun c children => (c, u children)) =
      some (f.closed (u inner)) := by
  unfold closed holding OpenElement.contentsId
  split
  · exact Forest.update?_last f.before f.content (Nat.ne_of_lt (Nat.lt_succ_self f.id))
      (Forest.update?_last_self .nil (f.id + 1) .fragment inner _)
  · exact Forest.update?_last_self f.before f.id f.content inner _

/-- What belongs to none of the nodes of the element is found in what it holds. -/
theorem update?_closed {id : Nat} {u : Content → Forest → Content × Forest} (f : Frame)
    {g g' : Forest} (hid : f.id ≠ id) (hid' : f.id + 1 ≠ id) (h : g.update? id u = some g') :
    (f.closed g).update? id u = some (f.closed g') := by
  unfold closed holding
  split
  · exact Forest.update?_last f.before f.content hid (Forest.update?_last .nil .fragment hid' h)
  · exact Forest.update?_last f.before f.content hid h

end Frame

/-- The tree in which the elements of the frames are open and the innermost one holds `inner`. -/
def plug : List Frame → (inner : Forest) → Forest
  | [], inner => inner
  | f :: frames, inner => plug frames (f.closed inner)

/-- The numbers of the open elements grow from the outermost to the innermost one, and leave room
for the contents of templates. -/
def Apart (frames : List Frame) : Prop := frames.Pairwise fun f g => g.id + 2 ≤ f.id

variable {f : Frame} {frames : List Frame}

/-- A node that belongs to none of the open elements is found inside the innermost one. -/
theorem update?_plug_inner {id : Nat} {u : Content → Forest → Content × Forest}
    (frames : List Frame) {g g' : Forest} (hids : ∀ e ∈ frames, e.id ≠ id ∧ e.id + 1 ≠ id)
    (h : g.update? id u = some g') : (plug frames g).update? id u = some (plug frames g') := by
  induction frames generalizing g g' with
  | nil => exact h
  | cons e frames ih =>
    obtain ⟨⟨hid, hid'⟩, hids⟩ := List.forall_mem_cons.1 hids
    exact ih hids (e.update?_closed hid hid' h)

/-- What the innermost open element holds changes, and nothing else. -/
theorem update?_plug (hids : Apart (f :: frames)) (inner : Forest) (u : Forest → Forest) :
    (plug (f :: frames) inner).update? f.element.contentsId (fun c children => (c, u children)) =
      some (plug (f :: frames) (u inner)) := by
  refine update?_plug_inner frames (fun e he => ?_) (f.update?_closed_self inner u)
  have hgap : e.id + 2 ≤ f.id := (List.pairwise_cons.1 hids).1 e he
  have hle : f.id ≤ f.element.contentsId := by
    unfold OpenElement.contentsId
    split
    · exact Nat.le_succ f.id
    · exact Nat.le_refl f.id
  omega

end ReleaseListing.Html
