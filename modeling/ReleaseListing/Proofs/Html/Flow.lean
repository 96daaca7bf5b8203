import ReleaseListing.Proofs.Html.Text

/-!
# Tags in the body

Where an element may stand, its start tag closes nothing and opens it in the innermost open element
(`Opens`), and its end tag closes it alone (`Closes`). What is searched among the open elements is
searched in their outline (`inScope_stack`).
-/

namespace ReleaseListing.Html

open Construct Grown

variable {s t : Construction} {frames : List Frame} {f : Frame} {form : Option Nat}
  {inner : Forest} {tag : Tag} {name : String} {names : List String} {e : OpenElement}
  {es : List OpenElement} {boundary p q : OpenElement → Bool}

/-! ## Open elements -/

/-- Whether a condition on open elements does not depend on their numbers. -/
def Unnumbered (p : OpenElement → Bool) : Prop := ∀ e, p (around e.space e.name) = p e

/-- What is not in scope in the outline is in no scope, unless the page is meant. -/
theorem inScope_stack (hb : Unnumbered boundary) (hp : Unnumbered p) (hroot : p rootElement = false)
    (h : inScope boundary p (outline frames) = false) :
    inScope boundary p (frames.map Frame.element ++ [rootElement]) = false := by
  induction frames with
  | nil => simp [inScope, hroot]
  | cons f frames ih =>
    have hp' : p (around f.space f.name) = p f.element := hp f.element
    have hb' : boundary (around f.space f.name) = boundary f.element := hb f.element
    simp only [outline, List.map_cons, inScope, hp', hb', Bool.or_eq_false_iff,
      Bool.and_eq_false_iff] at h
    simp only [List.map_cons, List.cons_append, inScope, Bool.or_eq_false_iff,
      Bool.and_eq_false_iff]
    exact ⟨h.1, h.2.imp_right ih⟩

/-- The first element of a kind is of another one if it is so in the outline. -/
theorem any_find?_stack (hp : Unnumbered p) (hq : Unnumbered q) (hroot : q rootElement = false)
    (h : ((outline frames).find? p).any q = false) :
    ((frames.map Frame.element ++ [rootElement]).find? p).any q = false := by
  induction frames with
  | nil => cases hr : p rootElement <;> simp [hr, hroot]
  | cons f frames ih =>
    have hp' : p (around f.space f.name) = p f.element := hp f.element
    have hq' : q (around f.space f.name) = q f.element := hq f.element
    rw [List.map_cons, List.cons_append, List.find?_cons]
    rw [outline, List.map_cons, List.find?_cons, hp'] at h
    split at h
    · rw [Option.any_some, hq'] at h
      exact h
    · exact ih h

/-- Around the innermost elements that satisfy `p` there is none that satisfies `q`, if there is none
in the outline. -/
theorem takeWhile_outline (hp : Unnumbered p) (hq : Unnumbered q)
    (h : ((outline frames).takeWhile p).any q = false) :
    ∀ e ∈ (frames.map Frame.element).takeWhile p, q e = false := by
  induction frames with
  | nil => simp
  | cons f frames ih =>
    have hp' : p (around f.space f.name) = p f.element := hp f.element
    have hq' : q (around f.space f.name) = q f.element := hq f.element
    rw [outline, List.map_cons, List.takeWhile_cons, hp'] at h
    rw [List.map_cons, List.takeWhile_cons]
    cases hpass : p f.element with
    | false => simp
    | true =>
      rw [hpass, if_pos rfl, List.any_cons, hq', Bool.or_eq_false_iff] at h
      exact List.forall_mem_cons.2 ⟨h.1, ih h.2⟩

theorem isAny_current (hroot : "html" ∉ names) (h : isIn names (outline frames) = false) :
    (current frames).isAny names = false := by
  cases frames with
  | nil => simpa [current, OpenElement.isAny, rootElement] using hroot
  | cons f frames => exact h

theorem isAny_singleton (name : String) (e : OpenElement) : e.isAny [name] = e.is name := by
  simp [OpenElement.isAny, OpenElement.is, Bool.beq_eq_decide_eq]

theorem name_of_is (he : e.is name = true) : e.space = .html ∧ e.name = name := by
  simpa [OpenElement.is] using he

theorem isAny_of_is (he : e.is name = true) (names : List String) :
    e.isAny names = names.contains name := by
  obtain ⟨hspace, rfl⟩ := name_of_is he
  simp [OpenElement.isAny, hspace]

theorem Placed.run_hasInScope (h : Placed frames inner s) (hroot : name ≠ "html")
    (hb : Unnumbered boundary) (hscope : inScope boundary (·.is name) (outline frames) = false) :
    (hasInScope boundary (·.is name)).run s = (false, s) := by
  have hnot : rootElement.is name = false := by
    simpa [OpenElement.is, rootElement] using hroot.symm
  have hstack : inScope boundary (·.is name) s.stack = false :=
    h.stack ▸ inScope_stack hb (fun _ => rfl) hnot hscope
  exact congrArg (·, s) hstack

theorem Placed.run_closeParagraph (h : Placed frames inner s)
    (hp : inParagraph (outline frames) = false) : closeParagraph.run s = ((), s) :=
  run_if_neg (h.run_hasInScope (by decide) (fun _ => rfl) hp)

theorem run_hasInScope_head (hs : s.stack = e :: es) (hp : p e = true) :
    (hasInScope boundary p).run s = (true, s) := by
  have hscope : inScope boundary p s.stack = true := by
    rw [hs, inScope, hp]
    rfl
  exact congrArg (·, s) hscope

theorem run_currentIs (hs : s.stack = e :: es) (p : OpenElement → Bool) :
    (currentIs p).run s = (p e, s) := by
  have hcurrent : s.stack.head?.any p = p e := by rw [hs]; rfl
  exact congrArg (·, s) hcurrent

theorem Placed.run_currentIs (h : Placed frames inner s) (p : OpenElement → Bool) :
    (currentIs p).run s = (p (current frames), s) := by
  have hcurrent : s.stack.head?.any p = p (current frames) := by rw [h.head?_stack]; rfl
  exact congrArg (·, s) hcurrent

theorem run_popThrough (hs : s.stack = e :: es) (hp : p e = true) :
    (popThrough p).run s = ((), { s with stack := es }) := by
  have hclosed : closedThrough p s.stack = es := by
    rw [hs, closedThrough, List.dropWhile_cons_of_neg (by simp [hp])]
    rfl
  rw [← hclosed]
  rfl

theorem run_popUntil (hs : s.stack = e :: es) (hp : p e = true) :
    (popUntil p).run s = ((), s) := by
  have hkept : s.stack.dropWhile (!p ·) = s.stack := by
    rw [hs, List.dropWhile_cons_of_neg (by simp [hp])]
  show ((), { s with stack := s.stack.dropWhile (!p ·) }) = ((), s)
  rw [hkept]

theorem run_impliedEnds (hs : s.stack = e :: es) (he : e.isAny names = false) :
    (impliedEnds names).run s = ((), s) := run_popUntil hs (by simp [he])

theorem Placed.run_impliedEnds (h : Placed frames inner s)
    (hcurrent : (current frames).isAny names = false) : (impliedEnds names).run s = ((), s) := by
  cases frames with
  | nil => exact ReleaseListing.Html.run_impliedEnds h.stack hcurrent
  | cons f frames => exact ReleaseListing.Html.run_impliedEnds h.stack hcurrent

/-- An end tag closes the innermost element of its name. -/
theorem run_close (hs : s.stack = e :: es) (he : e.is name = true) :
    (close name).run s = ((), { s with stack := es }) :=
  run_bind_eq (run_impliedEnds hs (by simp [isAny_of_is he])) (run_popThrough hs he)

theorem run_closeInScope (hs : s.stack = e :: es) (he : e.is name = true)
    (hname : impliedEndNames.contains name = false) (boundary : OpenElement → Bool) :
    (closeInScope boundary name).run s = ((), { s with stack := es }) :=
  run_if_pos (run_hasInScope_head hs he)
    (run_bind_eq (run_impliedEnds hs ((isAny_of_is he _).trans hname)) (run_popThrough hs he))

/-- No open element is an item that would have to be closed. -/
theorem Placed.run_closeItem (h : Placed frames inner s) (hroot : "html" ∉ names)
    (hitem : inItem names (outline frames) = false) : (closeItem names).run s = ((), s) := by
  have hnot : rootElement.isAny names = false := by
    simpa [OpenElement.isAny, rootElement] using hroot
  have hfind := any_find?_stack (fun _ => rfl) (fun _ => rfl) hnot hitem
  rw [← h.stack] at hfind
  unfold closeItem
  refine run_bind_eq (a := s) (t := s) rfl ?_
  split
  · rename_i e heq
    rw [show s.stack.find? (endsItemSearch names) = some e from heq, Option.any_some] at hfind
    rw [if_neg (by simp [hfind])]
    rfl
  · rfl

/-! ## Start tags -/

/-- The element is opened; a frameset may not be allowed any more, and a line feed may be
dropped. -/
def Opens (action : Construct Progress) (frames : List Frame) (inner : Forest) (tag : Tag)
    (s : Construction) : Prop :=
  ∃ allowed drops, action.run s = (.done, { opened frames .html inner tag s with
      framesetAllowed := allowed, dropsLineFeed := drops }) ∧
    (drops = true → s.dropsLineFeed = true ∨ tag.name ∈ ["pre", "listing"])

theorem Placed.run_openBlock (h : Placed frames inner s)
    (hp : inParagraph (outline frames) = false) :
    (openBlock tag).run s = ((), opened frames .html inner tag s) :=
  run_bind_eq (h.run_closeParagraph hp) (run_discard (h.run_openElement tag))

theorem Grown.run_openInline (h : Grown frames form inner s) (tag : Tag) :
    (do reopenFormatting; discard (openElement tag) : Construct Unit).run s =
      ((), opened frames .html inner tag s) :=
  run_bind_eq h.run_reopenFormatting (run_discard (h.run_openElement tag))

theorem bodyStart_block (hname : tag.name ∈ "p" :: blockNames) :
    bodyStart tag = thenDone (openBlock tag) := by
  obtain ⟨name, attributes, selfClosing⟩ := tag
  simp only [blockNames, List.mem_cons, List.not_mem_nil, or_false] at hname
  rcases hname with rfl | rfl | rfl | rfl | rfl | rfl | rfl | rfl | rfl | rfl | rfl | rfl | rfl |
    rfl | rfl | rfl | rfl | rfl | rfl | rfl | rfl | rfl | rfl | rfl | rfl <;> rfl

theorem bodyStart_ordinary (hname : tag.name ∉ peculiarNames) :
    bodyStart tag = thenDone (do
      reopenFormatting
      discard (openElement tag)) := by
  have hblock : blockNames.contains tag.name = false := by
    rw [← Bool.not_eq_true, List.contains_iff_mem]
    exact fun hmem => hname (by simp [peculiarNames, hmem])
  have hformatting : formattingNames.contains tag.name = false := by
    rw [← Bool.not_eq_true, List.contains_iff_mem]
    exact fun hmem => hname (by simp [peculiarNames, hmem])
  unfold bodyStart
  split <;> first
    | rw [hblock, hformatting]; rfl
    | rename_i heq; rw [heq] at hname; exact absurd (by decide) hname

namespace Grown

variable (h : Grown frames form inner s)
include h

omit h in
/-- An action that opens the element and nothing else. -/
theorem opens_of_run {action : Construct Unit}
    (hrun : action.run s = ((), opened frames .html inner tag s)) :
    Opens (thenDone action) frames inner tag s :=
  ⟨s.framesetAllowed, s.dropsLineFeed, run_thenDone hrun, .inl⟩

theorem opens_block (hname : tag.name ∈ "p" :: blockNames)
    (hp : inParagraph (outline frames) = false) : Opens (bodyStart tag) frames inner tag s := by
  rw [bodyStart_block hname]
  exact opens_of_run (h.run_openBlock hp)

theorem opens_ordinary (hname : tag.name ∉ peculiarNames) :
    Opens (bodyStart tag) frames inner tag s := by
  rw [bodyStart_ordinary hname]
  exact opens_of_run (h.run_openInline tag)

theorem opens_preformatted (hname : tag.name ∈ ["pre", "listing"])
    (hp : inParagraph (outline frames) = false) : Opens (bodyStart tag) frames inner tag s := by
  have hstart : bodyStart tag = thenDone (do
      openBlock tag
      modify fun s => { s with dropsLineFeed := true, framesetAllowed := false }) := by
    obtain ⟨name, attributes, selfClosing⟩ := tag
    simp only [List.mem_cons, List.not_mem_nil, or_false] at hname
    rcases hname with rfl | rfl <;> rfl
  rw [hstart]
  exact ⟨false, true, run_thenDone (run_bind_eq (h.run_openBlock hp) rfl), fun _ => .inr hname⟩

theorem opens_heading (hname : tag.name ∈ headings) (hp : inParagraph (outline frames) = false)
    (hparent : isIn headings (outline frames) = false) :
    Opens (bodyStart tag) frames inner tag s := by
  have hstart : bodyStart tag = thenDone (do
      closeParagraph
      if ← currentIs (·.isAny headings) then pop
      discard (openElement tag)) := by
    obtain ⟨name, attributes, selfClosing⟩ := tag
    simp only [headings, List.mem_cons, List.not_mem_nil, or_false] at hname
    rcases hname with rfl | rfl | rfl | rfl | rfl | rfl <;> rfl
  have hneg : (currentIs (·.isAny headings)).run s = (false, s) :=
    isAny_current (by decide) hparent ▸ h.run_currentIs _
  rw [hstart]
  refine opens_of_run (run_bind_eq (h.run_closeParagraph hp) ?_)
  exact run_bind_eq hneg (run_discard (h.run_openElement tag))

/-- An item is opened where none has to be closed. -/
theorem opens_item (hname : tag.name ∈ ["li", "dd", "dt"])
    (hp : inParagraph (outline frames) = false)
    (hitem : inItem (itemNames tag.name) (outline frames) = false) :
    Opens (bodyStart tag) frames inner tag s := by
  have hstart : bodyStart tag = thenDone (do
      forbidFrameset
      closeItem (itemNames tag.name)
      openBlock tag) := by
    obtain ⟨name, attributes, selfClosing⟩ := tag
    simp only [List.mem_cons, List.not_mem_nil, or_false] at hname
    rcases hname with rfl | rfl | rfl <;> rfl
  have hroot : ∀ name ∈ ["li", "dd", "dt"], "html" ∉ itemNames name := by decide
  have hforbidden : Placed frames inner { s with framesetAllowed := false } := { h.toPlaced with }
  rw [hstart]
  refine ⟨false, s.dropsLineFeed, run_thenDone ?_, .inl⟩
  refine run_bind_eq (t := { s with framesetAllowed := false }) rfl ?_
  exact run_bind_eq (hforbidden.run_closeItem (hroot _ hname) hitem) (hforbidden.run_openBlock hp)

theorem opens_button (hname : tag.name = "button")
    (hnot : inScope endsScope (·.is "button") (outline frames) = false) :
    Opens (bodyStart tag) frames inner tag s := by
  have hstart : bodyStart tag = thenDone (do
      if ← hasInScope endsScope (·.is "button") then
        impliedEnds impliedEndNames
        popThrough (·.is "button")
      reopenFormatting
      discard (openElement tag)
      forbidFrameset) := by
    obtain ⟨name, attributes, selfClosing⟩ := tag
    cases hname
    rfl
  rw [hstart]
  refine ⟨false, s.dropsLineFeed, run_thenDone ?_, .inl⟩
  refine run_bind_eq (h.run_hasInScope (by decide) (fun _ => rfl) hnot) ?_
  refine run_bind_eq h.run_reopenFormatting ?_
  exact run_bind_eq (run_discard (h.run_openElement tag)) rfl

theorem opens_option (hname : tag.name ∈ ["optgroup", "option"])
    (hparent : isIn ["option"] (outline frames) = false) :
    Opens (bodyStart tag) frames inner tag s := by
  have hstart : bodyStart tag = (do
      if ← currentIs (·.is "option") then pop
      thenDone (do
        reopenFormatting
        discard (openElement tag))) := by
    obtain ⟨name, attributes, selfClosing⟩ := tag
    simp only [List.mem_cons, List.not_mem_nil, or_false] at hname
    rcases hname with rfl | rfl <;> rfl
  have hneg : (currentIs (·.is "option")).run s = (false, s) := by
    rw [← isAny_current (by decide) hparent, isAny_singleton]
    exact h.run_currentIs _
  rw [hstart]
  obtain ⟨allowed, drops, hrun, hdrops⟩ := opens_of_run (h.run_openInline tag)
  exact ⟨allowed, drops, run_bind_eq hneg hrun, hdrops⟩

/-- A part of a ruby annotation is opened where it closes no other. -/
theorem opens_ruby (hname : tag.name ∈ rubyNames)
    (hparent : inScope endsScope (·.is "ruby") (outline frames) = false ∨
      isIn (rubyEnds tag.name) (outline frames) = false) :
    Opens (bodyStart tag) frames inner tag s := by
  have hstart : bodyStart tag = thenDone (do
      if ← hasInScope endsScope (·.is "ruby") then impliedEnds (rubyEnds tag.name)
      discard (openElement tag)) := by
    obtain ⟨name, attributes, selfClosing⟩ := tag
    simp only [rubyNames, List.mem_cons, List.not_mem_nil, or_false] at hname
    rcases hname with rfl | rfl | rfl | rfl <;> rfl
  have hroot : ∀ name ∈ rubyNames, "html" ∉ rubyEnds name := by decide
  have hopen := run_discard (h.run_openElement tag)
  rw [hstart]
  refine opens_of_run ?_
  rcases hparent with hscope | hin
  · exact run_bind_eq (h.run_hasInScope (by decide) (fun _ => rfl) hscope) hopen
  · refine run_bind_eq (a := inScope endsScope (·.is "ruby") s.stack) (t := s) rfl ?_
    dsimp only
    split
    · exact run_bind_eq (h.run_impliedEnds (isAny_current (hroot _ hname) hin)) hopen
    · exact hopen

/-! ## Formatting elements -/

/-- Of equal formatting elements one may lose its entry when a further one is opened. -/
theorem run_openFormatting :
    ∃ fs, Formats (frames.map Frame.element) fs ∧ (openFormatting tag).run s =
      ((), { opened frames .html inner tag s with
        formatting := .element (newFrame .html inner tag s).element tag :: fs }) := by
  have hopen : ∀ fs, Formats (frames.map Frame.element) fs →
      (do let e ← openElement tag
          modify fun s => { s with formatting := .element e tag :: s.formatting } :
        Construct Unit).run { s with formatting := fs } =
      ((), { opened frames .html inner tag s with
        formatting := .element (newFrame .html inner tag s).element tag :: fs }) := by
    intro fs hfs
    have hgrown : Grown frames form inner { s with formatting := fs } := { h with formatting := hfs }
    exact run_bind_eq (hgrown.run_openElement tag) rfl
  unfold openFormatting
  by_cases hmany : 3 ≤ ((recentFormatting s.formatting).filter (sameFormatting tag ·.2)).length
  · cases hlast : ((recentFormatting s.formatting).filter (sameFormatting tag ·.2)).getLast? with
    | none =>
      refine ⟨s.formatting, h.formatting, run_bind_eq (a := s) (t := s) rfl ?_⟩
      dsimp only
      rw [if_pos hmany, hlast]
      exact hopen _ h.formatting
    | some entry =>
      have hfs := h.formatting.eraseP entry.1.id
      refine ⟨_, hfs, run_bind_eq (a := s) (t := s) rfl ?_⟩
      dsimp only
      rw [if_pos hmany, hlast]
      exact run_bind_eq rfl (hopen _ hfs)
  · refine ⟨s.formatting, h.formatting, run_bind_eq (a := s) (t := s) rfl ?_⟩
    dsimp only
    rw [if_neg hmany]
    exact hopen _ h.formatting

theorem run_closeLink (ha : inLink (outline frames) = false) : closeLink.run s = ((), s) := by
  have hnone : (recentFormatting s.formatting).find? (·.1.is "a") = none := by
    rw [List.find?_eq_none]
    intro entry hmem
    simp [takeWhile_outline (fun _ => rfl) (fun _ => rfl) ha _ (h.formatting.mem_recent hmem)]
  unfold closeLink
  refine run_bind_eq (a := s) (t := s) rfl ?_
  rw [hnone]
  rfl

end Grown

/-- The innermost element, which has the last entry, is closed and loses the entry. -/
theorem Grown.run_closeFormattingOnce (h : Grown (f :: frames) form inner s) {fs : List Formatting}
    (hentry : s.formatting = .element f.element tag :: fs) (htag : tag.name = f.element.name) :
    (closeFormattingOnce f.name).run s = (false, { s with
      stack := frames.map Frame.element ++ [rootElement], formatting := fs }) := by
  have hfind : (recentFormatting s.formatting).find? (·.2.name == f.name) =
      some (f.element, tag) := by
    rw [hentry, recentFormatting, List.find?_cons_of_pos]
    simp [htag, Frame.element]
  have hscope : ¬ (!inScope endsScope (·.id == f.element.id)
      (f.element :: (frames.map Frame.element ++ [rootElement]))) = true := by
    simp [inScope]
  have herase : s.formatting.eraseP (·.isOf f.element.id) = fs := by
    rw [hentry, List.eraseP_cons_of_pos]
    simp [Formatting.isOf]
  unfold closeFormattingOnce
  refine run_bind_eq (a := s) (t := s) rfl ?_
  rw [hfind]
  simp only [h.stack, List.map_cons, List.cons_append, bne_self_eq_false,
    List.takeWhile_cons_of_neg, Bool.false_eq_true, not_false_eq_true, List.length_nil,
    List.drop_zero]
  rw [if_neg hscope, ← herase]
  rfl

/-- A formatting element that is closed, and whose entry goes. -/
theorem Grown.run_closeFormatting (h : Grown (f :: frames) form inner s)
    (hname : f.element.isAny reopenedNames) :
    ∃ fs, Formats (frames.map Frame.element) fs ∧ (closeFormatting f.name).run s =
      ((), { s with stack := frames.map Frame.element ++ [rootElement], formatting := fs }) := by
  have hself : f.element.is f.name = true := by
    have hspace := (Bool.and_eq_true_iff.1 hname).1
    simpa [OpenElement.is, Frame.element] using hspace
  rcases h.formatting.of_reopened hname with hfs | ⟨tag, fs, hentry, htag, hfs⟩
  · -- The element has lost its entry.
    have hnone : s.formatting.any (·.isOf f.element.id) = false := by
      rw [List.any_eq_false]
      intro entry hmem
      cases entry with
      | marker => simp [Formatting.isOf]
      | element e tag =>
        obtain ⟨g, hg, heq⟩ := List.mem_map.1 (hfs.mem hmem)
        have hgap : g.id + 2 ≤ f.id := (List.pairwise_cons.1 h.apart).1 g hg
        have hne : g.id ≠ f.id := by omega
        simpa [Formatting.isOf, ← heq, Frame.element] using hne
    refine ⟨s.formatting, hfs, ?_⟩
    unfold closeFormatting
    refine run_bind_eq (a := s) (t := s) rfl ?_
    simp only [h.stack, List.map_cons, List.cons_append]
    rw [if_pos (by rw [hself, hnone]; rfl)]
    rfl
  · refine ⟨fs, hfs, ?_⟩
    have hany : s.formatting.any (·.isOf f.element.id) = true := by
      rw [hentry, List.any_cons]
      simp [Formatting.isOf, Frame.element]
    unfold closeFormatting
    refine run_bind_eq (a := s) (t := s) rfl ?_
    simp only [h.stack, List.map_cons, List.cons_append]
    rw [if_neg (by rw [hself, hany]; decide)]
    exact run_bind_eq (h.run_closeFormattingOnce hentry htag) rfl

/-! ## End tags -/

theorem bodyEnd_block (hname : name ∈ "button" :: "listing" :: "pre" :: blockNames) :
    bodyEnd { name } = thenDone (closeInScope endsScope name) := by
  simp only [blockNames, List.mem_cons, List.not_mem_nil, or_false] at hname
  rcases hname with rfl | rfl | rfl | rfl | rfl | rfl | rfl | rfl | rfl | rfl | rfl | rfl | rfl |
    rfl | rfl | rfl | rfl | rfl | rfl | rfl | rfl | rfl | rfl | rfl | rfl | rfl | rfl <;> rfl

theorem bodyEnd_heading (hname : name ∈ headings) :
    bodyEnd { name } = thenDone (do
      if ← hasInScope endsScope (·.isAny headings) then
        impliedEnds impliedEndNames
        popThrough (·.isAny headings)) := by
  simp only [headings, List.mem_cons, List.not_mem_nil, or_false] at hname
  rcases hname with rfl | rfl | rfl | rfl | rfl | rfl <;> rfl

theorem bodyEnd_reopened (hname : name ∈ reopenedNames) :
    bodyEnd { name } = thenDone (closeFormatting name) := by
  simp only [reopenedNames, formattingNames, List.mem_cons, List.not_mem_nil, or_false] at hname
  rcases hname with rfl | rfl | rfl | rfl | rfl | rfl | rfl | rfl | rfl | rfl | rfl | rfl | rfl |
    rfl <;> rfl

theorem bodyEnd_object (hname : name ∈ objectNames) :
    bodyEnd { name } = thenDone (do
      if ← hasInScope endsScope (·.is name) then
        closeInScope endsScope name
        clearFormatting) := by
  simp only [objectNames, List.mem_cons, List.not_mem_nil, or_false] at hname
  rcases hname with rfl | rfl | rfl <;> rfl

/-- Elements with start tags of their own kind whose end tags are like others. -/
def plainEndNames : List String := ["optgroup", "option"] ++ rubyNames

theorem bodyEnd_ordinary (hname : name ∉ peculiarNames ∨ name ∈ plainEndNames) :
    bodyEnd { name } = thenDone (closeAny name) := by
  rcases hname with hname | hname
  · have hblock : blockNames.contains name = false := by
      rw [← Bool.not_eq_true, List.contains_iff_mem]
      exact fun hmem => hname (by simp [peculiarNames, hmem])
    have hformatting : formattingNames.contains name = false := by
      rw [← Bool.not_eq_true, List.contains_iff_mem]
      exact fun hmem => hname (by simp [peculiarNames, hmem])
    unfold bodyEnd
    split <;> first
      | rw [hblock, hformatting]; rfl
      | rename_i heq; rw [show name = _ from heq] at hname; exact absurd (by decide) hname
  · simp only [plainEndNames, rubyNames, List.cons_append, List.nil_append, List.mem_cons,
      List.not_mem_nil, or_false] at hname
    rcases hname with rfl | rfl | rfl | rfl | rfl | rfl <;> rfl

/-- The end tag closes the innermost element of its name, and nothing else happens. -/
def Closes (name : String) : Prop :=
  ∀ (s : Construction) (e : OpenElement) (es : List OpenElement), s.stack = e :: es →
    e.is name = true → (bodyEnd { name }).run s = (.done, { s with stack := es })

theorem closes_block (hname : name ∈ "button" :: "listing" :: "pre" :: blockNames) :
    Closes name := by
  have himplied : ∀ name ∈ "button" :: "listing" :: "pre" :: blockNames,
      impliedEndNames.contains name = false := by decide
  intro s e es hs he
  rw [bodyEnd_block hname]
  exact run_thenDone (run_closeInScope hs he (himplied _ hname) endsScope)

theorem closes_paragraph : Closes "p" := by
  intro s e es hs he
  show (thenDone (do
    if !(← hasInScope endsButtonScope (·.is "p")) then discard (openImplied "p")
    close "p")).run s = _
  exact run_thenDone (run_bind_eq (run_hasInScope_head hs he) (run_close hs he))

theorem closes_item (hname : name ∈ ["li", "dd", "dt"]) : Closes name := by
  intro s e es hs he
  simp only [List.mem_cons, List.not_mem_nil, or_false] at hname
  rcases hname with rfl | rfl | rfl
  · exact run_thenDone (run_if_pos (run_hasInScope_head hs he) (run_close hs he))
  · exact run_thenDone (run_if_pos (run_hasInScope_head hs he) (run_close hs he))
  · exact run_thenDone (run_if_pos (run_hasInScope_head hs he) (run_close hs he))

theorem closes_heading (hname : name ∈ headings) : Closes name := by
  have himplied : ∀ name ∈ headings, impliedEndNames.contains name = false := by decide
  intro s e es hs he
  have hany : e.isAny headings = true :=
    (isAny_of_is he headings).trans (List.contains_iff_mem.2 hname)
  rw [bodyEnd_heading hname]
  refine run_thenDone (run_if_pos (run_hasInScope_head hs hany) ?_)
  exact run_bind_eq (run_impliedEnds hs ((isAny_of_is he _).trans (himplied _ hname)))
    (run_popThrough hs hany)

theorem closes_ordinary (hname : name ∉ peculiarNames ∨ name ∈ plainEndNames) : Closes name := by
  intro s e es hs he
  rw [bodyEnd_ordinary hname]
  refine run_thenDone ?_
  unfold closeAny
  refine run_bind_eq (a := s) (t := s) rfl ?_
  simp only [hs, List.find?_cons, he, Bool.true_or, if_true]
  exact run_bind_eq (run_impliedEnds hs (by simp [isAny_of_is he]))
    (run_popThrough hs (beq_self_eq_true _))

/-- The end tag of an element closes it, and drops the formatting entries since its start. -/
theorem run_endObject (hs : s.stack = e :: es) (he : e.is name = true)
    (hname : name ∈ objectNames) {later : List Formatting} (hfs : s.formatting = .marker :: later) :
    (bodyEnd { name }).run s = (.done, { s with stack := es, formatting := later }) := by
  have himplied : ∀ name ∈ objectNames, impliedEndNames.contains name = false := by decide
  have hlater : later = s.formatting.drop ((recentFormatting s.formatting).length + 1) := by
    rw [hfs]
    rfl
  rw [bodyEnd_object hname, hlater]
  refine run_thenDone (run_if_pos (run_hasInScope_head hs he) ?_)
  exact run_bind_eq (run_closeInScope hs he (himplied _ hname) endsScope) rfl

end ReleaseListing.Html
