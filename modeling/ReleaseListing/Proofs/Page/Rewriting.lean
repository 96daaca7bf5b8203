import ReleaseListing.Proofs.Html.Reread
import ReleaseListing.Proofs.Html.Tidy.Removal
import ReleaseListing.Proofs.Job.Stages
import ReleaseListing.Proofs.Page.Removal
import ReleaseListing.Proofs.Text.Utf8

/-!
# Pages that are written and read again

A tidy page has the same links when it is written and read again (`links?_reread`), so every job
lists the same (`lists_alike_of_tidy`), also when rows have been removed before. Not every page is
tidy: what `noscript` holds is read as it stands, but written like any other text, so in a link its
text may change on the way (`reread_noscript`).
-/

namespace ReleaseListing

namespace TreePage

open Html (Forest)

variable {p q : TreePage} {job : Job} {settings : Settings}

/-- The links of a page and their texts, in their order; none if the page has lost its root. -/
def links? (p : TreePage) : Option (List Anchor) := (Page.anchors? p).map (·.map (·.anchor))

/-- Removes the rows of nodes time and again, each time so many levels above them. -/
def removeAll (p : TreePage) (removals : List (List Nat × Nat)) : TreePage :=
  removals.foldl (fun p removal => (p.removeRows removal.1 removal.2).1) p

/-! ## Links of pages that are read again -/

theorem links?_of_rooted {root : Nat} (h : p.nodes.Rooted root) :
    p.links? = some p.nodes.links := by
  have hanchors : Page.anchors? p = some p.nodes.anchors := h.anchors
  rw [links?, hanchors, Option.map_some]
  rfl

theorem links?_ofSource (source : String) :
    (ofSource source).links? = some (Forest.ofSource source).links := by
  obtain ⟨root, -, -, h, -⟩ := rooted_ofSource source
  rw [← ofSource_nodes]
  generalize ofSource source = p at h ⊢
  exact links?_of_rooted h

/-- A tidy page has the same links when it is read again. -/
theorem links?_reread (h : p.tidy) : (ofSource p.render).links? = p.links? := by
  obtain ⟨root, hp⟩ := Forest.rooted_of_tidyPage h
  rw [links?_of_rooted hp, links?_ofSource, render, Html.links_ofSource_render h]

/-- Removing rows time and again leaves out trees. -/
theorem removeAll_nodes (h : p.nodes.Numbered) (removals : List (List Nat × Nat)) :
    ∃ gone, (p.removeAll removals).nodes = p.nodes.without gone := by
  induction removals generalizing p with
  | nil => exact ⟨[], (Forest.without_nil _).symm⟩
  | cons removal removals ih =>
    have hstep := removeRows_nodes h removal.1 removal.2
    obtain ⟨gone, hgone⟩ := ih (hstep ▸ h.without _)
    rw [hstep, Forest.without_without] at hgone
    exact ⟨_, hgone⟩

/-- A tidy page stays tidy as long as it has its root. -/
theorem tidy_removeAll (h : p.nodes.Numbered) (ht : p.tidy) (removals : List (List Nat × Nat))
    (hroot : (p.removeAll removals).links?.isSome) : (p.removeAll removals).tidy := by
  obtain ⟨root, hr⟩ := Forest.rooted_of_tidyPage ht
  obtain ⟨gone, hgone⟩ := removeAll_nodes h removals
  unfold links? at hroot
  rw [anchors?_without hr hgone, Option.isSome_map] at hroot
  have hmem : root ∉ gone := by
    intro hm
    simp [hm] at hroot
  unfold tidy
  rw [hgone]
  exact Forest.tidyPage_without ht hr hmem

/-! ## What jobs list -/

/-- What an extraction makes of anchors depends on their links only. -/
theorem entries_eq (x : Extraction) (anchors : List PlacedAnchor) :
    x.entries anchors =
      ((anchors.map (·.anchor)).filter fun a =>
        Text.occursIn x.pattern.toList a.href.toList).map x.entry := by
  rw [List.filter_map, List.map_map]
  rfl

/-- What a job lists of a page depends on its links only. -/
theorem run_congr (h : p.links? = q.links?) (job : Job) (settings : Settings) :
    ((job.run settings p).map fun o => (o.1.listing, o.1.matched)) =
      (job.run settings q).map fun o => (o.1.listing, o.1.matched) := by
  unfold links? at h
  cases hx : job.extraction with
  | error failure =>
    unfold Job.run
    rw [hx]
  | ok x =>
    cases hp : Page.anchors? p with
    | none =>
      rw [hp] at h
      have hq : Page.anchors? q = none := by simpa using h.symm
      have hstop : ∀ page : TreePage, Page.anchors? page = none →
          job.run settings page = .error .rootless :=
        fun page hpage => (Job.run_error_iff ⟨x, hx⟩).2 ⟨hpage, rfl⟩
      rw [hstop p hp, hstop q hq]
    | some as =>
      rw [hp] at h
      obtain ⟨bs, hq, heq⟩ := Option.map_eq_some_iff.1 h.symm
      have hentries : x.entries as = x.entries bs := by rw [entries_eq, entries_eq, heq]
      rw [Job.run_eq settings hx hp, Job.run_eq settings hx hq, hentries]
      rfl

/-! ## Pages in files -/

/-- The bytes of a tidy page are read as a page of which every job lists the same. -/
theorem lists_alike_bytes (h : p.tidy) :
    ∃ text, Text.Utf8.decode? (Run.bytes p.render) = some text ∧
      (ofSource (String.ofList text)).links? = p.links? ∧
      ∀ (job : Job) (settings : Settings),
        ((job.run settings (ofSource (String.ofList text))).map fun o =>
            (o.1.listing, o.1.matched)) =
          (job.run settings p).map fun o => (o.1.listing, o.1.matched) := by
  have hlinks := links?_reread h
  refine ⟨p.render.toList, Text.Utf8.decode?_encode _, ?_⟩
  rw [String.ofList_toList]
  exact ⟨hlinks, run_congr hlinks⟩

/-- **A rewritten tidy page lists like the page that it is written from.** Rows may be removed from a
tidy page time and again; as long as the page has its root, what is written of it is read as a page
with the same links and texts, of which every job lists the same. -/
theorem lists_alike_of_tidy (source : String) (removals : List (List Nat × Nat))
    (htidy : (ofSource source).tidy)
    (hroot : (Page.anchors? ((ofSource source).removeAll removals)).isSome) :
    let page := (ofSource source).removeAll removals
    ∃ text, Text.Utf8.decode? (Run.bytes page.render) = some text ∧
      (ofSource (String.ofList text)).links? = page.links? ∧
      ∀ (job : Job) (settings : Settings),
        ((job.run settings (ofSource (String.ofList text))).map fun o =>
            (o.1.listing, o.1.matched)) =
          (job.run settings page).map fun o => (o.1.listing, o.1.matched) :=
  lists_alike_bytes (tidy_removeAll (numbered_ofSource source) htidy removals
    (by rwa [links?, Option.isSome_map]))

/-- The row of the second link is removed; the first link and its text are written with escapes. -/
theorem lists_alike_of_tidy_escaped :
    let source := "<ul><li><a href='/\"'>a < b</a></li><li><a href=/y>y</a></li></ul>"
    let page := (ofSource source).removeAll [([9], 1)]
    page.links? = some [⟨"/\"", "a < b"⟩] ∧
      ∃ text, Text.Utf8.decode? (Run.bytes page.render) = some text ∧
        (ofSource (String.ofList text)).links? = some [⟨"/\"", "a < b"⟩] := by
  intro source page
  have hpage : page.links? = some [⟨"/\"", "a < b"⟩] := by decide +kernel
  obtain ⟨text, htext, hlinks, -⟩ :=
    lists_alike_of_tidy source [([9], 1)] (by decide +kernel) (by decide +kernel)
  exact ⟨hpage, text, htext, hlinks.trans hpage⟩

/-- Drawings, templates and lists to select from are tidy. -/
example : (ofSource "<svg><path></svg><template><td>x</template><select><option>a").tidy := by
  decide +kernel

/-- What `noscript` holds is escaped when it is written, and read as it stands. -/
theorem reread_noscript :
    let page := ofSource "<a href=/x><noscript>a&b</noscript></a>"
    page.links? = some [⟨"/x", "a&b"⟩] ∧
      (ofSource page.render).links? = some [⟨"/x", "a&amp;b"⟩] := by
  decide +kernel

end TreePage

end ReleaseListing
