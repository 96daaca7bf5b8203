import ReleaseListing.Proofs.Html.Elements

/-!
# Tables and their parts

A table, and each part of it where it belongs, is opened by its start tag and closed by its end tag;
what it holds is read in a mode of its own. Frames are held alike.
-/

namespace ReleaseListing.Html

open Construct Grown

variable {s t : Construction} {frames : List Frame} {ground : Ground} {m : Memory}
  {inner : Forest} {tag : Tag} {name : String} {names names' : List String} {e : OpenElement}
  {es : List OpenElement} {mode : Mode}

theorem isAny_mono (h : e.isAny names) (hsub : names ⊆ names') : e.isAny names' := by
  simp only [OpenElement.isAny, Bool.and_eq_true, List.contains_iff_mem] at h ⊢
  exact h.imp_right fun hmem => hsub hmem

theorem Placed.run_popUntil (h : Placed frames inner s) {p : OpenElement → Bool}
    (hp : p (current frames) = true) : (popUntil p).run s = ((), s) := by
  cases frames with
  | nil => exact ReleaseListing.Html.run_popUntil h.stack hp
  | cons f frames => exact ReleaseListing.Html.run_popUntil h.stack hp

theorem Placed.run_openIn (h : Placed frames inner s) (tag : Tag) (mode : Mode) :
    (openIn mode tag).run s = ((), { opened frames .html inner tag s with mode }) :=
  run_bind_eq (run_discard (h.run_openElement tag)) rfl

theorem run_popTo (hs : s.stack = e :: es) (mode : Mode) :
    (do pop; setMode mode : Construct Unit).run s = ((), { s with stack := es, mode }) := by
  have hpop : s.stack.drop 1 = es := by rw [hs]; rfl
  rw [← hpop]
  rfl

/-- The elements in which formatting starts anew. -/
def cellNames : List String := ["td", "th", "caption"]

/-- The end of a cell or a caption closes it, and drops the formatting entries since its start. -/
theorem run_endCell {α : Type} (hs : s.stack = e :: es) (he : e.is name = true)
    (hname : name ∈ cellNames) {later : List Formatting} (hfs : s.formatting = .marker :: later)
    (k : Construct α) : (do
      impliedEnds impliedEndNames
      popThrough (·.is name)
      clearFormatting
      k).run s = k.run { s with stack := es, formatting := later } := by
  have himplied : ∀ name ∈ cellNames, impliedEndNames.contains name = false := by decide
  have hlater : later = s.formatting.drop ((recentFormatting s.formatting).length + 1) := by
    rw [hfs]
    rfl
  rw [hlater]
  refine run_bind_eq (run_impliedEnds hs ((isAny_of_is he _).trans (himplied _ hname))) ?_
  exact run_bind_eq (run_popThrough hs he) (run_bind_eq rfl rfl)

namespace Inside

/-! ## Tables -/

/-- Where no paragraph is open, the start tag of a table opens it, whether or not a table may stand
in a paragraph. -/
theorem run_bodyStart_table (h : Inside ground frames m inner s) (hname : tag.name = "table")
    (hp : inParagraph (outline frames) = false) : (bodyStart tag).run s =
      (.done, { Grown.opened frames .html inner tag s with
        framesetAllowed := false, mode := .inTable }) := by
  have hstart : bodyStart tag = thenDone (do
      if !(← get).tableInParagraph then closeParagraph
      discard (openElement tag)
      forbidFrameset
      setMode .inTable) := by
    obtain ⟨name, attributes, selfClosing⟩ := tag
    cases hname
    rfl
  have hopen : (do
      discard (openElement tag)
      forbidFrameset
      setMode .inTable : Construct Unit).run s = ((), { Grown.opened frames .html inner tag s with
        framesetAllowed := false, mode := .inTable }) :=
    run_bind_eq (run_discard (h.run_openElement tag)) rfl
  rw [hstart]
  refine run_thenDone (run_bind_eq (a := s) (t := s) rfl ?_)
  cases s.tableInParagraph
  · exact run_bind_eq (h.run_closeParagraph hp) hopen
  · exact hopen

/-- Among text a table is held. -/
theorem holds_table (h : Inside .flow frames m inner s) (hname : tag.name = "table")
    (hp : inParagraph (outline frames) = false) : HoldsElement .flow frames m inner tag s := by
  have hself : (newFrame .html inner tag s).element.is "table" = true :=
    hname ▸ is_newFrame inner tag s
  have hnames : ¬ markedNames.contains tag.name ∧ ¬ reopenedNames.contains tag.name :=
    hname ▸ by decide
  have hground : Ground.flow.inside (around .html tag.name) = .table := hname ▸ rfl
  have hsuited : Suited .table (newFrame .html inner tag s :: frames) s.templateModes .inTable := by
    have hany : (newFrame .html inner tag s).element.isAny ["table"] :=
      (isAny_singleton _ _).trans hself
    refine ⟨isAny_mono hany (by simp), rfl, .inr fun s' _ => ?_⟩
    simp [modeOf, Frame.element, newFrame, hname]
  refine h.holds_in (hground ▸ hsuited) (h.formatting.cons hnames.1)
    ((h.look_start (hname ▸ by decide)).trans (h.run_bodyStart_table hname hp))
    (fun hd => absurd (h.drops.symm.trans hd) (by decide)) fun inner' t' h' heq => ?_
  rw [hground] at h' heq
  refine ⟨t'.formatting, s.mode, h'.formatting.of_cons hnames.1 hnames.2, .inl rfl, ?_⟩
  rw [h'.look_eq rfl, heq (by decide), hname]
  exact run_thenDone (run_if_pos (run_hasInScope_head h'.stack hself)
    (run_bind_eq (run_popThrough h'.stack hself)
      (h.suited.run_resetMode (by decide) rfl h'.modes)))

/-! ## Parts without formatting of their own -/

/-- A part of a table is held whose start tag opens it in a mode, and whose end tag closes it and
goes back to the mode in front of it. -/
theorem holds_part (h : Inside ground frames m inner s) (ground' : Ground) (mode : Mode)
    (hground : ground.inside (around .html tag.name) = ground' ∧ ground' ≠ .select)
    (hplain : ¬ markedNames.contains tag.name ∧ ¬ reopenedNames.contains tag.name)
    (hmode : ∀ s' es, modeOf s' ((newFrame .html inner tag s).element :: es) = mode)
    (hsuits : ground'.suits mode)
    (hstart : look (.startTag tag) s = (.done, { Grown.opened frames .html inner tag s with mode }))
    (hend : ∀ t' es, t'.mode = mode → es = frames.map Frame.element ++ [rootElement] →
      t'.stack = (newFrame .html inner tag s).element :: es →
      (inMode mode (.endTag { name := tag.name })).run t' =
        (.done, { t' with stack := es, mode := s.mode })) :
    HoldsElement ground frames m inner tag s := by
  have hsuited : Suited (ground.inside (around .html tag.name))
      (newFrame .html inner tag s :: frames) s.templateModes mode :=
    ⟨ground.fits_inside (newFrame .html inner tag s).element, hground.1 ▸ hsuits,
      .inr fun s' _ => hmode s' _⟩
  refine h.holds_in hsuited (h.formatting.cons hplain.1) hstart
    (fun hd => absurd (h.drops.symm.trans hd) (by decide)) fun inner' t' h' heq => ?_
  refine ⟨t'.formatting, s.mode, h'.formatting.of_cons hplain.1 hplain.2, .inl rfl, ?_⟩
  have hmode' := heq (hground.1 ▸ hground.2)
  rw [h'.look_eq rfl, hmode']
  exact hend t' _ hmode' rfl h'.stack

/-- In a table, columns are held. -/
theorem holds_columns (h : Inside .table frames m inner s) (hname : tag.name = "colgroup") :
    HoldsElement .table frames m inner tag s := by
  have hs : s.mode = .inTable := h.suited.suits
  have hscope : endsTableScope (current frames) = true :=
    isAny_mono h.suited.fits (by decide)
  refine h.holds_part .columns .inColumnGroup (hname ▸ ⟨rfl, by decide⟩)
    (hname ▸ by decide) (fun s' es => ?_) rfl ?_ fun t' es _ _ hes => ?_
  · simp [modeOf, Frame.element, newFrame, hname]
  · have hstart : inTable (.startTag tag) = thenDone (do
        backToTable
        openIn .inColumnGroup tag) := by
      obtain ⟨name, attributes, selfClosing⟩ := tag
      cases hname
      rfl
    rw [h.look_eq (h.suited.fits.space_eq trivial), hs]
    show (inTable (.startTag tag)).run s = _
    rw [hstart]
    exact run_thenDone (run_bind_eq (h.run_popUntil hscope) (h.run_openIn tag _))
  · have hself : (newFrame .html inner tag s).element.is "colgroup" = true :=
      hname ▸ is_newFrame inner tag s
    rw [hs, hname]
    exact run_thenDone (run_if_pos (hself ▸ run_currentIs hes _) (run_popTo hes _))

/-- In a table, groups of rows are held. -/
theorem holds_rowGroup (h : Inside .table frames m inner s) (hname : tag.name ∈ rowGroupNames) :
    HoldsElement .table frames m inner tag s := by
  have hs : s.mode = .inTable := h.suited.suits
  have hscope : endsTableScope (current frames) = true :=
    isAny_mono h.suited.fits (by decide)
  have hplain : ∀ name ∈ rowGroupNames, Ground.table.inside (around .html name) = .rows ∧
      ¬ markedNames.contains name ∧ ¬ reopenedNames.contains name := by decide
  obtain ⟨hground, hnames⟩ := hplain _ hname
  refine h.holds_part .rows .inTableBody ⟨hground, by decide⟩ hnames (fun s' es => ?_) rfl ?_
    fun t' es _ _ hes => ?_
  · have hmode : ∀ name ∈ rowGroupNames, ∀ e es, e.space = .html → e.name = name →
        modeOf s' (e :: es) = .inTableBody := by
      simp [rowGroupNames, modeOf]
      grind
    exact hmode _ hname _ _ rfl rfl
  · have hstart : inTable (.startTag tag) = thenDone (do
        backToTable
        openIn .inTableBody tag) := by
      obtain ⟨name, attributes, selfClosing⟩ := tag
      simp only [rowGroupNames, List.mem_cons, List.not_mem_nil, or_false] at hname
      rcases hname with rfl | rfl | rfl <;> rfl
    rw [h.look_eq (h.suited.fits.space_eq trivial), hs]
    show (inTable (.startTag tag)).run s = _
    rw [hstart]
    exact run_thenDone (run_bind_eq (h.run_popUntil hscope) (h.run_openIn tag _))
  · have hend : inTableBody (.endTag { name := tag.name }) = thenDone (do
        if ← hasInScope endsTableScope (·.is tag.name) then
          backToRowGroup
          pop
          setMode .inTable) := by
      simp only [rowGroupNames, List.mem_cons, List.not_mem_nil, or_false] at hname
      rcases hname with heq | heq | heq <;> rw [heq] <;> rfl
    have hgroup : (newFrame .html inner tag s).element.isAny rowGroupNames :=
      List.contains_iff_mem.2 hname
    rw [hs]
    show (inTableBody (.endTag { name := tag.name })).run t' = _
    rw [hend]
    exact run_thenDone (run_if_pos (run_hasInScope_head hes (is_newFrame inner tag s))
      (run_bind_eq (run_popUntil hes (isAny_mono hgroup (by decide))) (run_popTo hes _)))

/-- In a group of rows, rows are held. -/
theorem holds_row (h : Inside .rows frames m inner s) (hname : tag.name = "tr") :
    HoldsElement .rows frames m inner tag s := by
  have hs : s.mode = .inTableBody := h.suited.suits
  refine h.holds_part .cells .inRow (hname ▸ ⟨rfl, by decide⟩)
    (hname ▸ by decide) (fun s' es => ?_) rfl ?_ fun t' es _ _ hes => ?_
  · simp [modeOf, Frame.element, newFrame, hname]
  · have hstart : inTableBody (.startTag tag) = thenDone (do
        backToRowGroup
        openIn .inRow tag) := by
      obtain ⟨name, attributes, selfClosing⟩ := tag
      cases hname
      rfl
    rw [h.look_eq (h.suited.fits.space_eq trivial), hs]
    show (inTableBody (.startTag tag)).run s = _
    rw [hstart]
    exact run_thenDone (run_bind_eq (h.run_popUntil (isAny_mono h.suited.fits (by decide)))
      (h.run_openIn tag _))
  · have hself : (newFrame .html inner tag s).element.is "tr" = true :=
      hname ▸ is_newFrame inner tag s
    have hrow : (newFrame .html inner tag s).element.isAny ["tr"] :=
      (isAny_singleton _ _).trans hself
    rw [hs, hname]
    exact run_thenDone (run_if_pos (run_hasInScope_head hes hself)
      (run_bind_eq (run_popUntil hes (isAny_mono hrow (by decide))) (run_popTo hes _)))

/-! ## Parts with formatting of their own -/

/-- A part of a table is held inside of which formatting starts anew. -/
theorem holds_marked (h : Inside ground frames m inner s) (hground : ground ≠ .select)
    (hcell : tag.name ∈ cellNames) (hsuits : Ground.flow.suits mode)
    (hmode : ∀ s' d es, modeOf s' ((newFrame .html inner tag s).element :: d :: es) = mode)
    (hstart : look (.startTag tag) s = (.done, { Grown.opened frames .html inner tag s
      with formatting := .marker :: s.formatting, mode }))
    (hend : ∀ t' es later, t'.stack = (newFrame .html inner tag s).element :: es →
      t'.formatting = .marker :: later → (inMode mode (.endTag { name := tag.name })).run t' =
        (.done, { t' with stack := es, formatting := later, mode := s.mode })) :
    HoldsElement ground frames m inner tag s := by
  have hmarked : (newFrame .html inner tag s).element.isAny markedNames := by
    have hcells : ∀ name ∈ cellNames, markedNames.contains name := by decide
    exact hcells _ hcell
  have hflow : ground.inside (around .html tag.name) = .flow := by
    simp only [cellNames, List.mem_cons, List.not_mem_nil, or_false] at hcell
    rcases hcell with heq | heq | heq <;> rw [heq] <;>
      simpa [Ground.inside, around, rowGroupNames] using hground
  obtain ⟨d, ds, hds⟩ : ∃ d ds, frames.map Frame.element ++ [rootElement] = d :: ds :=
    List.exists_cons_of_ne_nil (by simp)
  have hsuited : Suited (ground.inside (around .html tag.name))
      (newFrame .html inner tag s :: frames) s.templateModes mode := by
    refine ⟨ground.fits_inside (newFrame .html inner tag s).element, hflow ▸ hsuits,
      .inr fun s' _ => ?_⟩
    rw [List.map_cons, List.cons_append, hds]
    exact hmode s' d ds
  refine h.holds_in hsuited ((Formats.marked_iff hmarked).2 ⟨_, rfl, h.formatting⟩) hstart
    (fun hd => absurd (h.drops.symm.trans hd) (by decide)) fun inner' t' h' heq => ?_
  obtain ⟨later, hfs, hlater⟩ := (Formats.marked_iff hmarked).1 h'.formatting
  refine ⟨later, s.mode, hlater, .inl rfl, ?_⟩
  rw [h'.look_eq rfl, heq (hflow ▸ by decide)]
  exact hend t' _ later h'.stack hfs

/-- In a row, cells are held. -/
theorem holds_cell (h : Inside .cells frames m inner s) (hname : tag.name ∈ ["td", "th"]) :
    HoldsElement .cells frames m inner tag s := by
  have hs : s.mode = .inRow := h.suited.suits
  have hcells : ∀ name ∈ ["td", "th"], name ∈ cellNames := by decide
  have hcell := hcells _ hname
  simp only [List.mem_cons, List.not_mem_nil, or_false] at hname
  refine h.holds_marked (by decide) hcell (.inr (.inl rfl)) (fun s' d es => ?_) ?_
    fun t' es later hes hfs => ?_
  · rw [modeOf]
    rcases hname with hname | hname <;> simp [Frame.element, newFrame, hname]
  · have hstart : inRow (.startTag tag) = thenDone (do
        backToRow
        openIn .inCell tag
        pushMarker) := by
      obtain ⟨name, attributes, selfClosing⟩ := tag
      rcases hname with rfl | rfl <;> rfl
    rw [h.look_eq (h.suited.fits.space_eq trivial), hs]
    show (inRow (.startTag tag)).run s = _
    rw [hstart]
    exact run_thenDone (run_bind_eq (h.run_popUntil (isAny_mono h.suited.fits (by decide)))
      (run_bind_eq (h.run_openIn tag _) rfl))
  · have hend : inCell (.endTag { name := tag.name }) = thenDone (do
        if ← hasInScope endsTableScope (·.is tag.name) then
          impliedEnds impliedEndNames
          popThrough (·.is tag.name)
          clearFormatting
          setMode .inRow) := by
      rcases hname with heq | heq <;> rw [heq] <;> rfl
    have hself := is_newFrame inner tag s
    rw [hs]
    show (inCell (.endTag { name := tag.name })).run t' = _
    rw [hend]
    exact run_thenDone (run_if_pos (run_hasInScope_head hes hself)
      (run_endCell hes hself hcell hfs (setMode .inRow)))

/-- In a table, a caption is held. -/
theorem holds_caption (h : Inside .table frames m inner s) (hname : tag.name = "caption") :
    HoldsElement .table frames m inner tag s := by
  have hs : s.mode = .inTable := h.suited.suits
  have hscope : endsTableScope (current frames) = true :=
    isAny_mono h.suited.fits (by decide)
  have hmarked : Placed frames inner { s with formatting := .marker :: s.formatting } :=
    { h.toPlaced with }
  refine h.holds_marked (by decide) (hname ▸ by decide) (.inr (.inr rfl)) (fun s' d es => ?_) ?_
    fun t' es later hes hfs => ?_
  · rw [modeOf]
    simp [Frame.element, newFrame, hname]
  · have hstart : inTable (.startTag tag) = thenDone (do
        backToTable
        pushMarker
        openIn .inCaption tag) := by
      obtain ⟨name, attributes, selfClosing⟩ := tag
      cases hname
      rfl
    rw [h.look_eq (h.suited.fits.space_eq trivial), hs]
    show (inTable (.startTag tag)).run s = _
    rw [hstart]
    exact run_thenDone (run_bind_eq (h.run_popUntil hscope)
      (run_bind_eq rfl (hmarked.run_openIn tag _)))
  · have hself : (newFrame .html inner tag s).element.is "caption" = true :=
      hname ▸ is_newFrame inner tag s
    rw [hs, hname]
    refine run_bind_eq (run_hasInScope_head hes hself) ?_
    exact run_endCell hes hself (by decide) hfs (do setMode .inTable; return Progress.done)

end Inside

/-! ## Frames -/

/-- The end tag of frames closes them, and ends the frames of the page if they stand in no others. -/
theorem run_endFrames {d : OpenElement} (hs : s.stack = e :: d :: es) :
    (inFrameset (.endTag { name := "frameset" })).run s = (.done, { s with
      stack := d :: es, mode := if d.is "frameset" then s.mode else .afterFrameset }) := by
  have hlong : (("frameset" : String) == "frameset" && 2 ≤ s.stack.length) = true := by
    rw [hs]
    simp
  have hpop : pop.run s = ((), { s with stack := d :: es }) := by
    have hdrop : s.stack.drop 1 = d :: es := by rw [hs]; rfl
    rw [← hdrop]
    rfl
  show (thenDone do
    if "frameset" == "frameset" && 2 ≤ (← get).stack.length then
      pop
      if !(← currentIs (·.is "frameset")) then setMode .afterFrameset).run s = _
  refine run_thenDone (run_bind_eq (a := s) (t := s) rfl ?_)
  rw [if_pos hlong]
  refine run_bind_eq hpop (run_bind_eq (run_currentIs (s := { s with stack := d :: es }) rfl _) ?_)
  cases d.is "frameset" <;> rfl

/-- Among frames, further ones are held. -/
theorem Inside.holds_frameset (h : Inside .frames frames m inner s) (hname : tag.name = "frameset") :
    HoldsElement .frames frames m inner tag s := by
  have hs : s.mode = .inFrameset := h.suited.suits
  have hlook : look (.startTag tag) s = (.done, { Grown.opened frames .html inner tag s with
      mode := s.mode }) := by
    have hstart : inMode .inFrameset (.startTag tag) = thenDone (discard (openElement tag)) := by
      obtain ⟨name, attributes, selfClosing⟩ := tag
      cases hname
      rfl
    rw [h.look_eq (h.suited.fits.space_eq trivial)]
    conv_lhs => rw [hs, hstart]
    exact run_thenDone (run_discard (h.run_openElement tag))
  have hmode : ∀ s' es, modeOf s' ((newFrame .html inner tag s).element :: es) = s.mode := by
    intro s' es
    simp [modeOf, Frame.element, newFrame, hname, hs]
  refine h.holds_part .frames s.mode (hname ▸ ⟨rfl, by decide⟩) (hname ▸ by decide) hmode hs
    hlook fun t' es hmode' hes hstack => ?_
  obtain ⟨ds, hds⟩ : ∃ ds, es = current frames :: ds := by
    rw [hes]
    cases frames <;> exact ⟨_, rfl⟩
  subst hds
  have houter : (current frames).is "frameset" = true := h.suited.fits
  rw [hs, hname]
  show (inFrameset (.endTag { name := "frameset" })).run t' = _
  rw [run_endFrames hstack]
  rw [houter, if_pos rfl, hmode', hs]

end ReleaseListing.Html
