import ReleaseListing.Proofs.Page.Linking
import ReleaseListing.Proofs.Page.Table
import ReleaseListing.Proofs.Text.Split

/-!
# The entries of a page

An extraction takes the anchors whose links can be cut around its pattern, and makes an entry of
each: the numbers and the entries that it gives belong to each other, place by place
(`Extraction.Exact`). It does so on every table, and on every page read from HTML that has `html`
(`extracts_exactly`), by whatever way links are joined to the base.
-/

namespace ReleaseListing

/-- The link can be cut around the pattern. -/
def Occurs (pattern href : String) : Prop := ∃ u v, href = u ++ pattern ++ v

instance (pattern href : String) : Decidable (Occurs pattern href) :=
  decidable_of_iff _ Text.occursIn_iff

/-- The name is the file name of the anchor: the end of its link behind the last slash, or its
label. -/
def Strategy.Names (s : Strategy) (anchor : Anchor) (file : String) : Prop :=
  match s with
  | .pathTail =>
    '/' ∉ file.toList ∧ (anchor.href = file ∨ ∃ front, anchor.href = front ++ "/" ++ file)
  | .label => file = Text.label anchor.text

theorem eq_pathTail_iff {href file : String} : file = pathTail href ↔
    '/' ∉ file.toList ∧ (href = file ∨ ∃ front, href = front ++ "/" ++ file) := by
  have hslash : "/".toList = ['/'] := by decide +kernel
  have hcut : (∃ front, href = front ++ "/" ++ file) ↔
      ∃ front, href.toList = front ++ '/' :: file.toList := by
    constructor
    · rintro ⟨front, rfl⟩
      exact ⟨front.toList, by simp [hslash]⟩
    · rintro ⟨front, h⟩
      exact ⟨.ofList front, String.toList_inj.1 (by simp [h, hslash])⟩
  rw [hcut, ← String.toList_inj, ← String.toList_inj, pathTail, String.toList_ofList]
  exact Text.eq_afterLast_iff

/-- An anchor has one file name. -/
theorem Strategy.names_iff {s : Strategy} {anchor : Anchor} {file : String} :
    s.Names anchor file ↔ file = s.filename anchor := by
  cases s with
  | pathTail => exact eq_pathTail_iff.symm
  | label => exact Iff.rfl

/-! ## Joining links to the base -/

/-- What a link leads to if links are joined to the base by `join`; the link itself if there is no
base or the link cannot be joined to it. -/
def linkBy (join : Url → String → Option Url) (base : Option Url) (href : String) : String :=
  ((base.bind fun base => join base href).map Url.render).getD href

theorem resolvedLink_eq_linkBy (base : Option Url) (href : String) :
    resolvedLink base href = linkBy (fun base href => (base.join href).toOption) base href := by
  cases base with
  | none => rfl
  | some base => cases h : base.join href <;> simp [resolvedLink, linkBy, h, Except.toOption]

namespace Extraction

/-- The entries of the anchors if links are joined to the base by `join`. -/
def entriesBy (join : Url → String → Option Url) (x : Extraction) (anchors : List PlacedAnchor) :
    List Entry :=
  (x.matched anchors).map fun a =>
    { name := entryName x.start (x.strategy.filename a.anchor)
      url := linkBy join x.base a.anchor.href }

theorem entries_eq_entriesBy (x : Extraction) (anchors : List PlacedAnchor) :
    x.entries anchors = x.entriesBy (fun base href => (base.join href).toOption) anchors := by
  simp only [entries, entriesBy, entry, resolvedLink_eq_linkBy]

variable {join : Url → String → Option Url} {x : Extraction} {anchors : List PlacedAnchor}

/-! ## What is extracted -/

/-- The entry is that of the anchor: its name ends in the one file name of the anchor, and its
address is the joined link or, where there is none, the link as it stands. -/
structure Describes (join : Url → String → Option Url) (x : Extraction) (anchor : Anchor)
    (e : Entry) : Prop where
  name : ∃ file, (∀ other, x.strategy.Names anchor other ↔ other = file) ∧ e.name = x.start ++ file
  joined : ∀ base url, x.base = some base → join base anchor.href = some url → e.url = url.render
  raw : (∀ base, x.base = some base → join base anchor.href = none) → e.url = anchor.href

/-- The numbers are those of the anchors in whose links the pattern occurs, each once and in the
order of the anchors, and the entries are theirs, place by place. -/
structure Exact (join : Url → String → Option Url) (x : Extraction) (anchors : List PlacedAnchor)
    (entries : List Entry) (nodes : List Nat) : Prop where
  distinct : (anchors.map (·.node)).Nodup
  selected : nodes = (anchors.filter fun a => Occurs x.pattern a.anchor.href).map (·.node)
  once : nodes.Nodup
  aligned : List.Forall₂
    (fun e node => ∃ a ∈ anchors, a.node = node ∧ x.Describes join a.anchor e) entries nodes

theorem describes (join : Url → String → Option Url) (x : Extraction) (anchor : Anchor) :
    x.Describes join anchor
      { name := entryName x.start (x.strategy.filename anchor)
        url := linkBy join x.base anchor.href } where
  name := ⟨x.strategy.filename anchor, fun _ => Strategy.names_iff, rfl⟩
  joined := by
    intro base url hbase hjoin
    simp [linkBy, hbase, hjoin]
  raw := by
    intro hnone
    cases hbase : x.base with
    | none => rfl
    | some base => simp [linkBy, hnone base hbase]

theorem matched_eq (x : Extraction) (anchors : List PlacedAnchor) :
    x.matched anchors = anchors.filter fun a => Occurs x.pattern a.anchor.href := by
  refine List.filter_congr fun a _ => ?_
  rw [Bool.eq_iff_iff, decide_eq_true_eq]
  exact Text.occursIn_iff

/-- An extraction is exact if no two anchors have the same number. -/
theorem exact (join : Url → String → Option Url) (x : Extraction)
    (h : (anchors.map (·.node)).Nodup) :
    x.Exact join anchors (x.entriesBy join anchors) (x.nodes anchors) where
  distinct := h
  selected := by rw [nodes, matched_eq]
  once := h.sublist (List.filter_sublist.map _)
  aligned := by
    rw [entriesBy, nodes, List.forall₂_map_left_iff, List.forall₂_map_right_iff, List.forall₂_same]
    exact fun a ha => ⟨a, List.mem_of_mem_filter ha, rfl, x.describes join a.anchor⟩

end Extraction

/-! ## From pages -/

/-- A page read from HTML that still has `html` has its anchors, no two with the same number. -/
theorem TreePage.exists_anchors (source : String) (removals : List (List Nat × Nat)) :
    let page := (ofSource source).removeAll removals
    ∃ html attributes children, (ofSource source).nodes.firstElement? =
        some (.single html (.element .html "html" attributes) children) ∧
      (html ∈ page.nodes.ids →
        ∃ anchors, Page.anchors? page = some anchors ∧ (anchors.map (·.node)).Nodup) := by
  intro page
  have hn := numbered_ofSource source
  obtain ⟨html, attributes, children, hr, hfirst⟩ := rooted_ofSource source
  obtain ⟨gone, hp⟩ := removeAll_nodes hn removals
  refine ⟨html, attributes, children, hfirst, fun hattached => ⟨page.nodes.anchors, ?_, ?_⟩⟩
  · have hgone : html ∉ gone := by
      intro hg
      rw [hp] at hattached
      exact Html.Forest.not_mem_ids_without hg hattached
    rw [anchors?_without hr hp, if_neg hgone]
  · exact (hp ▸ (hn.without gone).nodup).sublist (Html.Forest.anchors_nodes_sublist _)

/-- **An extraction is exact.** By whatever way links are joined to the base, an extraction of a
table, or of a page read from HTML that has `html`, gives the numbers of the anchors in whose links
the pattern occurs, each once and in the order of the page, and for each of them the entry that its
anchor describes. The program joins links as `Url.join` does. -/
theorem Extraction.extracts_exactly (x : Extraction) :
    x.entries = x.entriesBy (fun base href => (base.join href).toOption) ∧
    ∀ join : Url → String → Option Url,
      (∀ changes, ∃ anchors, Page.anchors? (TablePage.ofChanges changes) = some anchors ∧
        x.Exact join anchors (x.entriesBy join anchors) (x.nodes anchors)) ∧
      ∀ source removals,
        let page := (TreePage.ofSource source).removeAll removals
        ∃ html attributes children, (TreePage.ofSource source).nodes.firstElement? =
            some (.single html (.element .html "html" attributes) children) ∧
          (html ∈ page.nodes.ids → ∃ anchors, Page.anchors? page = some anchors ∧
            x.Exact join anchors (x.entriesBy join anchors) (x.nodes anchors)) := by
  refine ⟨funext x.entries_eq_entriesBy, fun join => ⟨fun changes => ?_, fun source removals => ?_⟩⟩
  · have hnumbered := TablePage.numbered_ofChanges changes
    exact ⟨_, rfl, x.exact join (hnumbered.nodup.sublist (TablePage.anchors_nodes_sublist _))⟩
  · intro page
    obtain ⟨html, attributes, children, hfirst, hpage⟩ := TreePage.exists_anchors source removals
    refine ⟨html, attributes, children, hfirst, fun hattached => ?_⟩
    obtain ⟨anchors, hanchors, hnodup⟩ := hpage hattached
    exact ⟨anchors, hanchors, x.exact join hnodup⟩

/-- The last row has been removed. The slash in a query counts like any other, and a link that cannot
be joined to the base stays as it is. -/
theorem Extraction.extracts_exactly_query :
    let base : Url :=
      ⟨"https".toList, some { host := "e.org".toList }, .segments ['/'], none, none⟩
    let x : Extraction := { pattern := "--x", start := "p/", base := some base }
    let source := "<p><a href='d/f--x?t=a/b'>f</a><a href=no>n</a><p><a href=//[--x>g</a>" ++
      "<ul><li><a href=--x>h</a></ul>"
    let page := (TreePage.ofSource source).removeAll [([14], 1)]
    1 ∈ page.nodes.ids ∧ ∃ anchors, Page.anchors? page = some anchors ∧
      x.Exact (fun base href => (base.join href).toOption) anchors
        [⟨"p/b", "https://e.org/d/f--x?t=a/b"⟩, ⟨"p/[--x", "//[--x"⟩] [5, 10] := by
  intro base x source page
  have hattached : 1 ∈ page.nodes.ids := by decide +kernel
  obtain ⟨hentries, hexact⟩ := extracts_exactly x
  obtain ⟨html, attributes, children, hfirst, hpage⟩ :=
    (hexact fun base href => (base.join href).toOption).2 source [([14], 1)]
  have hroots : (TreePage.ofSource source).nodes.firstElement?.map Html.Forest.roots = some [1] := by
    decide +kernel
  rw [hfirst] at hroots
  obtain rfl : html = 1 := List.singleton_injective (Option.some.inj hroots)
  obtain ⟨anchors, hanchors, h⟩ := hpage hattached
  have hout : (Page.anchors? page).map (fun as => (x.entries as, x.nodes as)) =
      some ([⟨"p/b", "https://e.org/d/f--x?t=a/b"⟩, ⟨"p/[--x", "//[--x"⟩], [5, 10]) := by
    decide +kernel
  rw [hanchors] at hout
  obtain ⟨hlisted, hnodes⟩ := Prod.mk.inj (Option.some.inj hout)
  rw [← hentries, hlisted, hnodes] at h
  exact ⟨hattached, anchors, hanchors, h⟩

end ReleaseListing
