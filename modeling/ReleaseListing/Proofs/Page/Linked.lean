import ReleaseListing.Proofs.Html.Root

/-!
# Pages as linked nodes

A page can be held as the list of all nodes that have been read, each with the numbers of its parent
and of its children. To detach a node is to cut the link between it and its parent at both ends.
Nothing is dropped: a node that has been detached stays in the list with all that it holds, and can
be asked for its row like any other. Rows are found on the way up along the parents, anchors on the
way down along the children.

`TreePage` keeps the trees that can be reached from the document, and nothing else; that the two
answer alike is proved in `Proofs/Page/Linking`.
-/

namespace ReleaseListing

open Html (Content Forest)

/-- The numbers of the trees' first nodes. -/
def Html.Forest.roots : Forest → List Nat
  | .nil => []
  | .node i _ _ next => i :: roots next

theorem Html.Forest.roots_subset_ids (f : Forest) : f.roots ⊆ f.ids := by
  induction f with
  | nil => simp [roots]
  | node i c children next _ ihn =>
    intro j hj
    rw [mem_ids_node]
    rcases List.mem_cons.1 hj with rfl | hj
    · exact .inl rfl
    · exact .inr (.inr (ihn hj))

theorem Html.Forest.ids_ofSource (source : String) :
    (ofSource source).ids = List.range' 1 (ofSource source).ids.length := by
  obtain ⟨h, -⟩ := ids_renumber 1 (Construction.ofSource source).forest
  rw [show (ofSource source).ids = _ from h, List.length_range']

/-- A node and its links. The document is the node without content. -/
structure LinkedNode where
  content : Option Content
  parent : Option Nat
  children : List Nat
  deriving DecidableEq, Repr

namespace LinkedNode

/-- The nodes of trees that stand in the node `parent`, in the order in which they start. -/
def ofForest (parent : Nat) : Forest → List LinkedNode
  | .nil => []
  | .node i c children next =>
    ⟨some c, some parent, children.roots⟩ :: (ofForest i children ++ ofForest parent next)

/-- The nodes of a page, with the document in front. -/
def page (f : Forest) : List LinkedNode := ⟨none, none, f.roots⟩ :: ofForest 0 f

/-- What the node `i` is once the node `id` has been cut off from its parent. -/
def cut (id : Nat) (parent : Option Nat) (i : Nat) (n : LinkedNode) : LinkedNode where
  content := n.content
  parent := if i = id then none else n.parent
  children := if parent = some i then n.children.erase id else n.children

/-- What stands in the node `parent`, with all that stands in it, are the trees. -/
def Shows (nodes : List LinkedNode) (parent : Nat) : Forest → Prop
  | .nil => True
  | .node i c children next =>
    nodes[i]? = some ⟨some c, some parent, children.roots⟩ ∧
      Shows nodes i children ∧ Shows nodes parent next

variable {nodes : List LinkedNode} {parent : Nat} {f : Forest}

theorem length_ofForest (parent : Nat) (f : Forest) :
    (ofForest parent f).length = f.ids.length := by
  induction f generalizing parent with
  | nil => rfl
  | node i c children next ihc ihn => simp [ofForest, Forest.ids, ihc, ihn]

/-- Nodes that are numbered as they follow each other show the trees that they come from. -/
theorem shows_ofForest (before after : List LinkedNode)
    (h : f.ids = List.range' before.length f.ids.length) :
    Shows (before ++ (ofForest parent f ++ after)) parent f := by
  induction f generalizing parent before after with
  | nil => trivial
  | node i c children next ihc ihn =>
    let first : LinkedNode := ⟨some c, some parent, children.roots⟩
    simp only [Forest.ids, List.length_cons, List.length_append, List.range'_succ,
      List.cons.injEq] at h
    obtain ⟨rfl, hids⟩ := h
    rw [← List.range'_append_1] at hids
    obtain ⟨hchildren, hnext⟩ := List.append_inj hids (by simp)
    have hinner : Shows (before ++ [first] ++ (ofForest before.length children ++
        (ofForest parent next ++ after))) before.length children :=
      ihc _ _ (by simpa using hchildren)
    have hlength : (before ++ first :: ofForest before.length children).length =
        before.length + 1 + children.ids.length := by
      simp only [List.length_append, List.length_cons, length_ofForest]
      omega
    have hlater : Shows (before ++ first :: ofForest before.length children ++
        (ofForest parent next ++ after)) parent next :=
      ihn _ _ (hlength ▸ hnext)
    refine ⟨by simp [ofForest], ?_, ?_⟩
    · simpa [ofForest] using hinner
    · simpa [ofForest] using hlater

/-- If the numbers grow from node to node, they grow along the links. -/
theorem Shows.ordered (h : Shows nodes parent f) (hn : f.ids.Pairwise (· < ·))
    (hparent : ∀ j ∈ f.ids, parent < j) :
    ∀ i ∈ f.ids, ∃ n, nodes[i]? = some n ∧ (∀ q ∈ n.parent, q < i) ∧
      ∀ c ∈ n.children, i < c ∧ c ∈ f.ids := by
  induction f generalizing parent with
  | nil => simp [Forest.ids]
  | node i c children next ihc ihn =>
    simp only [Forest.ids, List.pairwise_cons, List.pairwise_append, List.mem_append] at hn
    obtain ⟨hi, hchildren, hnext, -⟩ := hn
    intro j hj
    rcases Forest.mem_ids_node.1 hj with rfl | hj | hj
    · refine ⟨_, h.1, ?_, fun k hk => ?_⟩
      · simpa using hparent j (Forest.mem_ids_node.2 (.inl rfl))
      · have hk := Forest.roots_subset_ids children hk
        exact ⟨hi k (.inl hk), Forest.mem_ids_node.2 (.inr (.inl hk))⟩
    · obtain ⟨n, hn, hq, hc⟩ := ihc h.2.1 hchildren (fun k hk => hi k (.inl hk)) j hj
      exact ⟨n, hn, hq, fun k hk => ⟨(hc k hk).1, Forest.mem_ids_node.2 (.inr (.inl (hc k hk).2))⟩⟩
    · obtain ⟨n, hn, hq, hc⟩ := ihn h.2.2 hnext
        (fun k hk => hparent k (Forest.mem_ids_node.2 (.inr (.inr hk)))) j hj
      exact ⟨n, hn, hq, fun k hk => ⟨(hc k hk).1, Forest.mem_ids_node.2 (.inr (.inr (hc k hk).2))⟩⟩

/-- If the trees are numbered from 1 in the order in which the nodes start, a node of the page comes
before its children. -/
theorem ordered_page (h : f.ids = List.range' 1 f.ids.length) {i : Nat} {n : LinkedNode}
    (hi : (page f)[i]? = some n) :
    (∀ q ∈ n.parent, q < i) ∧ ∀ c ∈ n.children, i < c ∧ c < (page f).length := by
  have hmem : ∀ j, j ∈ f.ids ↔ 1 ≤ j ∧ j < (page f).length := by
    intro j
    rw [h, List.mem_range'_1, page, List.length_cons, length_ofForest, ← Nat.add_comm 1]
  have hlt : i < (page f).length := (List.getElem?_eq_some_iff.1 hi).1
  by_cases h0 : i = 0
  · subst h0
    obtain rfl : ⟨none, none, f.roots⟩ = n := by simpa [page] using hi
    refine ⟨by simp, fun c hc => ?_⟩
    exact (hmem c).1 (Forest.roots_subset_ids f hc)
  · have hshows : Shows (page f) 0 f := by
      simpa [page] using shows_ofForest [⟨none, none, f.roots⟩] [] h
    have hgrow : f.ids.Pairwise (· < ·) := h ▸ List.pairwise_lt_range'
    obtain ⟨m, hm, hq, hc⟩ := hshows.ordered hgrow (fun j hj => ((hmem j).1 hj).1) i
      ((hmem i).2 ⟨by omega, hlt⟩)
    obtain rfl : m = n := Option.some.inj (hm.symm.trans hi)
    exact ⟨hq, fun c hmc => ⟨(hc c hmc).1, ((hmem c).1 (hc c hmc).2).2⟩⟩

end LinkedNode

/-- A page as the list of its nodes, by their numbers. The document is the first; a node comes before
its children, so every walk along the links ends. -/
structure LinkedPage where
  nodes : List LinkedNode
  parent_lt : ∀ (i : Nat) (n : LinkedNode), nodes[i]? = some n → ∀ q ∈ n.parent, q < i
  lt_child : ∀ (i : Nat) (n : LinkedNode), nodes[i]? = some n →
    ∀ c ∈ n.children, i < c ∧ c < nodes.length

namespace LinkedPage

variable {p : LinkedPage} {id i q c levels : Nat} {f : Forest}

/-! ## Links -/

def content? (p : LinkedPage) (id : Nat) : Option Content := p.nodes[id]?.bind (·.content)

def parent? (p : LinkedPage) (id : Nat) : Option Nat := p.nodes[id]?.bind (·.parent)

def children (p : LinkedPage) (id : Nat) : List Nat := (p.nodes[id]?.map (·.children)).getD []

theorem parent?_lt (h : p.parent? id = some q) : q < id := by
  obtain ⟨n, hn, hq⟩ := Option.bind_eq_some_iff.1 h
  exact p.parent_lt id n hn q hq

theorem lt_of_mem_children (h : c ∈ p.children id) : id < c ∧ c < p.nodes.length := by
  cases hn : p.nodes[id]? with
  | none => simp [children, hn] at h
  | some n => exact p.lt_child id n hn c (by simpa [children, hn] using h)

/-- What a node stands in, the nearest first. -/
def ancestors (p : LinkedPage) (id : Nat) : List Nat :=
  match _h : p.parent? id with
  | none => []
  | some parent => parent :: p.ancestors parent
termination_by id
decreasing_by exact parent?_lt _h

/-- A node and all that stands in it, in the order of the page. -/
def descendants (p : LinkedPage) (id : Nat) : List Nat :=
  id :: (p.children id).attach.flatMap fun c => p.descendants c.1
termination_by p.nodes.length - id
decreasing_by
  have := lt_of_mem_children c.2
  omega

theorem ancestors_of_parent? (h : p.parent? id = some q) :
    p.ancestors id = q :: p.ancestors q := by
  rw [ancestors]
  split <;> simp_all

theorem ancestors_of_none (h : p.parent? id = none) : p.ancestors id = [] := by
  rw [ancestors]
  split <;> simp_all

theorem descendants_eq (p : LinkedPage) (id : Nat) :
    p.descendants id = id :: (p.children id).flatMap p.descendants := by
  rw [descendants]
  simp

/-! ## Asking a page -/

/-- Whether the document is reached on the way up. -/
def isAttached (p : LinkedPage) (id : Nat) : Bool := (p.ancestors id).contains 0

/-- The row of a node: what stands so many levels above it, up to the document. -/
def rowOf? (p : LinkedPage) (levels id : Nat) : Option Nat :=
  p.nodes[id]?.bind fun _ => (id :: p.ancestors id)[levels]?

def isElement (p : LinkedPage) (id : Nat) : Bool := (p.content? id).any Content.isElement

/-- The link of a node, if it is an anchor element that has one. -/
def link? (p : LinkedPage) (id : Nat) : Option String := (p.content? id).bind Content.link?

/-- The characters of a text node. -/
def chars (p : LinkedPage) (id : Nat) : List Char :=
  match p.content? id with
  | some (.text cs) => cs
  | _ => []

/-- The node as an anchor, if it is one that has a link. -/
def anchorAt? (p : LinkedPage) (id : Nat) : Option PlacedAnchor :=
  (p.link? id).map fun href => ⟨id, href, String.ofList ((p.descendants id).flatMap p.chars)⟩

/-- The first element that stands in the document. -/
def root? (p : LinkedPage) : Option Nat := (p.children 0).find? p.isElement

/-- The anchors below the root. -/
def anchors? (p : LinkedPage) : Option (List PlacedAnchor) :=
  p.root?.map fun root => (p.descendants root).filterMap p.anchorAt?

/-- The trees that stand in a node. -/
def below (p : LinkedPage) (id : Nat) : Forest :=
  (p.children id).attach.foldr
    (fun c rest => .node c.1 ((p.content? c.1).getD .fragment) (p.below c.1) rest) .nil
termination_by p.nodes.length - id
decreasing_by
  have := lt_of_mem_children c.2
  omega

theorem below_eq (p : LinkedPage) (id : Nat) :
    p.below id = (p.children id).foldr
      (fun c rest => .node c ((p.content? c).getD .fragment) (p.below c) rest) .nil := by
  rw [below]
  exact List.foldr_attach
    (f := fun c rest => Forest.node c ((p.content? c).getD .fragment) (p.below c) rest)

/-- What can be reached from the document. -/
def tree (p : LinkedPage) : TreePage := ⟨p.below 0⟩

/-- The HTML of a page. -/
def render (p : LinkedPage) : String := p.tree.render

/-- The page of trees that are numbered from 1 in the order in which their nodes start. -/
def ofForest (f : Forest) (h : f.ids = List.range' 1 f.ids.length) : LinkedPage where
  nodes := LinkedNode.page f
  parent_lt _ _ hi := (LinkedNode.ordered_page h hi).1
  lt_child _ _ hi := (LinkedNode.ordered_page h hi).2

/-- Reads a page. -/
def ofSource (source : String) : LinkedPage := ofForest (.ofSource source) (Forest.ids_ofSource source)

/-! ## Changing a page -/

/-- Cuts a node off from its parent, if it has one. -/
def detach (id : Nat) (p : LinkedPage) : LinkedPage where
  nodes := p.nodes.mapIdx (LinkedNode.cut id (p.parent? id))
  parent_lt := by
    intro i n hn q hq
    rw [List.getElem?_mapIdx] at hn
    obtain ⟨m, hm, rfl⟩ := Option.map_eq_some_iff.1 hn
    simp only [LinkedNode.cut] at hq
    split at hq
    · cases hq
    · exact p.parent_lt i m hm q hq
  lt_child := by
    intro i n hn c hc
    rw [List.getElem?_mapIdx] at hn
    obtain ⟨m, hm, rfl⟩ := Option.map_eq_some_iff.1 hn
    rw [List.length_mapIdx]
    refine p.lt_child i m hm c ?_
    simp only [LinkedNode.cut] at hc
    split at hc
    · exact List.mem_of_mem_erase hc
    · exact hc

theorem getElem?_detach (id : Nat) (p : LinkedPage) (i : Nat) :
    (p.detach id).nodes[i]? = p.nodes[i]?.map (LinkedNode.cut id (p.parent? id) i) :=
  List.getElem?_mapIdx

theorem parent?_detach (id : Nat) (p : LinkedPage) (i : Nat) :
    (p.detach id).parent? i = if i = id then none else p.parent? i := by
  unfold parent?
  rw [getElem?_detach]
  cases p.nodes[i]? <;> simp [LinkedNode.cut]

theorem content?_detach (id : Nat) (p : LinkedPage) (i : Nat) :
    (p.detach id).content? i = p.content? i := by
  unfold content?
  rw [getElem?_detach]
  cases p.nodes[i]? <;> simp [LinkedNode.cut]

/-- A page whose rows are being removed: those that have been looked at, and how many have been
removed. -/
structure Removal where
  page : LinkedPage
  seen : List Nat := []
  removed : Nat := 0

/-- Removes a row that has not been looked at and is on the page, and counts it. -/
def Removal.step (s : Removal) (row : Nat) : Removal :=
  if row ∈ s.seen then s
  else if s.page.isAttached row then ⟨s.page.detach row, row :: s.seen, s.removed + 1⟩
  else { s with seen := row :: s.seen }

/-- Looks up the rows of the nodes, then removes one after the other. -/
def removeRows (nodes : List Nat) (levels : Nat) (p : LinkedPage) : LinkedPage × Nat :=
  let s := (nodes.filterMap (p.rowOf? levels)).foldl Removal.step { page := p }
  (s.page, s.removed)

instance : Page LinkedPage := ⟨anchors?, removeRows⟩

/-- The rows of nodes that are on the page, in the order of the nodes. -/
def rows (p : LinkedPage) (levels : Nat) (nodes : List Nat) : List Nat :=
  (nodes.filterMap (p.rowOf? levels)).filter p.isAttached

/-- Removes the rows of nodes time and again, each time so many levels above them. -/
def removeAll (p : LinkedPage) (removals : List (List Nat × Nat)) : LinkedPage :=
  removals.foldl (fun p removal => (p.removeRows removal.1 removal.2).1) p

/-! ## What never changes -/

/-- What is true of a page and stays true at every cut is true of the page without some of its
rows. -/
theorem removeRows_induction {motive : LinkedPage → Prop} {p : LinkedPage} (h : motive p)
    (hcut : ∀ p id, motive p → motive (detach id p)) (nodes : List Nat) (levels : Nat) :
    motive (p.removeRows nodes levels).1 := by
  refine List.foldlRecOn (motive := fun s : Removal => motive s.page) _ _ h fun s hs row _ => ?_
  rw [Removal.step]
  split
  · exact hs
  · split
    · exact hcut s.page row hs
    · exact hs

/-- A node keeps its content. -/
theorem content?_removeRows (p : LinkedPage) (nodes : List Nat) (levels id : Nat) :
    (p.removeRows nodes levels).1.content? id = p.content? id :=
  removeRows_induction (motive := fun q => q.content? id = p.content? id) rfl
    (fun q row hq => (content?_detach row q id).trans hq) nodes levels

end LinkedPage

end ReleaseListing
