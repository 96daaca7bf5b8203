import ReleaseListing.Proofs.Html.Flow

/-!
# Elements among text

Where an element stands as a tidy page wants it, its start tag opens it in the innermost open
element, and its end tag closes it alone (`HoldsElement`).
-/

namespace ReleaseListing.Html

open Construct Grown

variable {s t : Construction} {frames : List Frame} {f : Frame} {ground ground' : Ground}
  {m m' : Memory} {inner : Forest} {space : Space} {tag : Tag} {name : String} {names : List String}
  {mode : Mode}

/-! ## Elements that hold others -/

/-- An element is opened by the start tag that is read of it, with the ground `ground'` inside, and
its end tag closes it. -/
def HoldsOn (ground' ground : Ground) (frames : List Frame) (m : Memory) (inner : Forest)
    (space : Space) (tag read : Tag) (s : Construction) : Prop :=
  ∃ t m', look (.startTag read) s = (.done, t) ∧
    Inside ground' (newFrame space inner tag s :: frames) m' .nil (undropped t) ∧
    (t.dropsLineFeed = true → (newFrame space inner tag s).element.isAny ["pre", "listing"]) ∧
    ∀ inner' t', Inside ground' (newFrame space inner tag s :: frames) m' inner' t' →
      ∃ u, look (.endTag { name := read.name }) t' = (.done, u) ∧
        Inside ground frames m ((newFrame space inner tag s).closed inner') u

/-- An HTML element is opened by its start tag, and its end tag closes it. -/
def HoldsElement (ground : Ground) (frames : List Frame) (m : Memory) (inner : Forest) (tag : Tag)
    (s : Construction) : Prop :=
  HoldsOn (ground.inside (around .html tag.name)) ground frames m inner .html tag tag s

theorem isAny_newFrame (inner : Forest) (tag : Tag) (s : Construction) (names : List String) :
    (newFrame .html inner tag s).element.isAny names = names.contains tag.name := rfl

theorem is_newFrame (inner : Forest) (tag : Tag) (s : Construction) :
    (newFrame .html inner tag s).element.is tag.name = true := by
  simp [OpenElement.is, Frame.element, newFrame]

theorem Ground.modes_inside (ground : Ground) (e : OpenElement) (mode : Mode) (modes : List Mode) :
    (ground.inside e).modes mode modes = modes := by
  unfold inside
  repeat' split
  all_goals rfl

namespace Suited

variable {modes : List Mode} {mode' : Mode}

/-- The open elements call for one mode. -/
theorem mode_eq (h : Suited ground frames modes mode) (h' : Suited ground' frames modes mode')
    (hground : ground ≠ .select) (hground' : ground' ≠ .select) : mode = mode' :=
  (h.modeOf_eq.resolve_left hground { templateModes := modes } rfl).symm.trans
    (h'.modeOf_eq.resolve_left hground' { templateModes := modes } rfl)

/-- Inside of an element that calls for no mode, the mode stays. -/
theorem cons (h : Suited ground frames modes mode) (hground : ground ≠ .select)
    (hfits : ground'.Fits f.element) (hsuits : ground'.suits mode)
    (hmode : ¬ f.element.isAny modeNames) : Suited ground' (f :: frames) modes mode :=
  ⟨hfits, hsuits, .inr fun s hs =>
    (modeOf_cons s hmode _).trans (h.modeOf_eq.resolve_left hground s hs)⟩

/-- The mode is gone back to that the open elements call for. -/
theorem run_resetMode (h : Suited ground frames modes mode) (hground : ground ≠ .select)
    (hstack : t.stack = frames.map Frame.element ++ [rootElement])
    (hmodes : t.templateModes = modes) : resetMode.run t = ((), { t with mode }) := by
  rw [← h.modeOf_eq.resolve_left hground t hmodes, ← hstack]
  rfl

end Suited

namespace Inside

/-- An element is held if its start tag opens it, and its end tag closes it and goes back to the mode
in front of it. -/
theorem holds_in (h : Inside ground frames m inner s) {read : Tag} {allowed drops : Bool}
    {fs : List Formatting}
    (hsuited : Suited (ground.inside (around space tag.name))
      (newFrame space inner tag s :: frames) s.templateModes mode)
    (hfs : Formats ((newFrame space inner tag s).element :: frames.map Frame.element) fs)
    (hstart : look (.startTag read) s = (.done, { Grown.opened frames space inner tag s with
      framesetAllowed := allowed, dropsLineFeed := drops, formatting := fs, mode }))
    (hdrops : drops = true → (newFrame space inner tag s).element.isAny ["pre", "listing"])
    (hend : ∀ inner' t', Inside (ground.inside (around space tag.name))
        (newFrame space inner tag s :: frames) { m with modes := s.templateModes } inner' t' →
      (ground.inside (around space tag.name) ≠ .select → t'.mode = mode) →
      ∃ fs' mode', Formats (frames.map Frame.element) fs' ∧
        (mode' = s.mode ∨ ground = .select ∧ Ground.select.suits mode') ∧
        look (.endTag { name := read.name }) t' = (.done, { t' with
          stack := frames.map Frame.element ++ [rootElement], formatting := fs', mode := mode' })) :
    HoldsOn (ground.inside (around space tag.name)) ground frames m inner space tag read s := by
  have hmodes : s.templateModes =
      (ground.inside (around space tag.name)).modes mode s.templateModes :=
    (Ground.modes_inside ..).symm
  have hopened := h.opened { m with modes := s.templateModes } hsuited hmodes hfs
    fun hsome => (h.form_open hsome).imp fun f hf => hf.imp_left (List.mem_cons_of_mem _)
  refine ⟨_, { m with modes := s.templateModes }, hstart, hopened.congr ?_, hdrops,
    fun inner' t' h' => ?_⟩
  · simp only [Construction.readingKey, Construction.key, undropped, Grown.opened, Grown.grow,
      h.drops, h.form_eq]
  · obtain ⟨fs', mode', hfs', hmode, hrun⟩ := hend inner' t' h' fun hne => by
      have hmodes' : t'.templateModes = s.templateModes :=
        h'.modes.trans (Ground.modes_inside ..)
      exact (hmodes' ▸ h'.suited).mode_eq hsuited hne hne
    have hmodes' : t'.templateModes = s.templateModes := h'.modes.trans (Ground.modes_inside ..)
    have hback : Suited ground frames s.templateModes mode' ∧
        s.templateModes = ground.modes mode' m.modes := by
      rcases hmode with rfl | ⟨rfl, hsuits⟩
      · exact ⟨h.suited, h.modes⟩
      · exact ⟨⟨h.suited.fits, hsuits, .inl rfl⟩, h.modes⟩
    refine ⟨_, hrun, (h'.closed hback.1 hback.2 hfs' h.form_open).congr ?_⟩
    simp only [Construction.readingKey, Construction.key, h'.form_eq, hmodes']

end Inside

/-! ## Tags among text -/

/-- Elements that are not read among text as others are. -/
def misplacedNames : List String := "col" :: "mglyph" :: "malignmark" :: modeNames

/-- What is read among text as others are calls for no mode, and is no part of a table. -/
theorem not_mem_parts (hname : name ∉ misplacedNames) :
    name ∉ modeNames ∧ name ∉ tablePartNames ∧ name ∉ ["mglyph", "malignmark"] := by
  have hsub : (∀ name ∈ modeNames, name ∈ misplacedNames) ∧
      (∀ name ∈ tablePartNames, name ∈ misplacedNames) ∧
      ∀ name ∈ ["mglyph", "malignmark"], name ∈ misplacedNames := by decide
  exact ⟨fun h => hname (hsub.1 _ h), fun h => hname (hsub.2.1 _ h), fun h => hname (hsub.2.2 _ h)⟩

theorem inMode_start (hmode : Ground.flow.suits mode) (hname : tag.name ∉ tablePartNames) :
    inMode mode (.startTag tag) = bodyStart tag := by
  have hpart : tablePartNames.contains tag.name = false := by
    rwa [← Bool.not_eq_true, List.contains_iff_mem]
  rcases hmode with rfl | rfl | rfl
  · rfl
  · show (if tablePartNames.contains tag.name then _ else _) = _
    rw [hpart]
    rfl
  · show (if tablePartNames.contains tag.name then _ else _) = _
    rw [hpart]
    rfl

theorem inMode_end (hmode : Ground.flow.suits mode) (hname : name ∉ misplacedNames) :
    inMode mode (.endTag { name }) = bodyEnd { name } := by
  have hpart : tablePartNames.contains name = false := by
    rw [← Bool.not_eq_true, List.contains_iff_mem]
    exact (not_mem_parts hname).2.1
  rcases hmode with rfl | rfl | rfl
  · rfl
  · show inCell (.endTag { name }) = _
    unfold inCell
    dsimp only
    split <;> first
      | rfl
      | rename_i heq; exact absurd (by decide) hname
  · show inCaption (.endTag { name }) = _
    unfold inCaption
    dsimp only
    split <;> first
      | rw [hpart]; rfl
      | exact absurd (by decide) hname

/-- Among text a start tag is looked at as in the body. -/
theorem Inside.look_start (h : Inside .flow frames m inner s)
    (hname : tag.name ∉ tablePartNames ∧ tag.name ∉ ["mglyph", "malignmark"]) :
    look (.startTag tag) s = (bodyStart tag).run s := by
  have hforeign : isForeign s.stack.head? (.startTag tag) = false := by
    have hname := hname.2
    simp only [List.mem_cons, List.not_mem_nil, or_false, not_or] at hname
    rw [h.head?_stack]
    rcases h.suited.fits with hfits | hfits | hfits <;> simp [isForeign, hfits, hname]
  rw [look_eq hforeign, inMode_start h.suited.suits hname.1]

/-- Among text the end tag of an HTML element is looked at as in the body. -/
theorem Inside.look_end (h : Inside .flow (f :: frames) m inner s) (hspace : f.space = .html)
    (hname : name ∉ misplacedNames) :
    look (.endTag { name }) s = (bodyEnd { name }).run s := by
  rw [h.look_eq hspace, inMode_end h.suited.suits hname]

theorem inside_eq_flow (hname : name ∉ modeNames) :
    Ground.flow.inside (around .html name) = .flow := by
  have hnot : ∀ names : List String, names ⊆ modeNames → name ∉ names :=
    fun names hsub hmem => hname (hsub hmem)
  have hnames := hnot ["head", "table", "colgroup", "tbody", "tfoot", "thead", "tr", "frameset",
    "select"] (by decide)
  simp only [List.mem_cons, List.not_mem_nil, or_false, not_or] at hnames
  simp [Ground.inside, around, rowGroupNames, hnames]

namespace Inside

variable (h : Inside .flow frames m inner s)
include h

/-- Among text an element that calls for no mode is held if its start tag opens it and its end tag
closes it. -/
theorem holds_plain {allowed drops : Bool} {fs : List Formatting} (hname : tag.name ∉ misplacedNames)
    (hfs : Formats ((newFrame .html inner tag s).element :: frames.map Frame.element) fs)
    (hstart : (bodyStart tag).run s = (.done, { Grown.opened frames .html inner tag s with
      framesetAllowed := allowed, dropsLineFeed := drops, formatting := fs }))
    (hdrops : drops = true → tag.name ∈ ["pre", "listing"])
    (hend : ∀ inner' t' m', Inside .flow (newFrame .html inner tag s :: frames) m' inner' t' →
      ∃ fs', Formats (frames.map Frame.element) fs' ∧
        (bodyEnd { name := tag.name }).run t' = (.done, { t' with
          stack := frames.map Frame.element ++ [rootElement], formatting := fs' })) :
    HoldsElement .flow frames m inner tag s := by
  obtain ⟨hmode, hpart⟩ := not_mem_parts hname
  have hflow := inside_eq_flow hmode
  have hsuited : Suited (Ground.flow.inside (around .html tag.name))
      (newFrame .html inner tag s :: frames) s.templateModes s.mode := by
    rw [hflow]
    refine h.suited.cons (by decide) (.inl rfl) h.suited.suits ?_
    rwa [isAny_newFrame, List.contains_iff_mem]
  refine h.holds_in hsuited hfs (h.look_start hpart ▸ hstart)
    (fun hd => List.contains_iff_mem.2 (hdrops hd)) fun inner' t' h' heq => ?_
  rw [hflow] at h' heq
  obtain ⟨fs', hfs', hrun⟩ := hend inner' t' _ h'
  refine ⟨fs', s.mode, hfs', .inl rfl, ?_⟩
  rw [h'.look_end rfl hname, hrun, heq (by decide)]

/-- Among text an element is held if the start tag opens it and the end tag closes it. -/
theorem holds (hname : tag.name ∉ misplacedNames) (hplain : tag.name ∉ markedNames ++ reopenedNames)
    (hopens : Opens (bodyStart tag) frames inner tag s) (hcloses : Closes tag.name) :
    HoldsElement .flow frames m inner tag s := by
  obtain ⟨allowed, drops, hrun, hdrops⟩ := hopens
  rw [List.mem_append, not_or] at hplain
  have hmarked : ¬ (newFrame .html inner tag s).element.isAny markedNames := by
    rw [isAny_newFrame, List.contains_iff_mem]
    exact hplain.1
  have hreopened : ¬ (newFrame .html inner tag s).element.isAny reopenedNames := by
    rw [isAny_newFrame, List.contains_iff_mem]
    exact hplain.2
  refine h.holds_plain hname (h.formatting.cons hmarked) hrun
    (fun hd => (hdrops hd).resolve_left (by simp [h.drops])) fun inner' t' m' h' => ?_
  exact ⟨t'.formatting, h'.formatting.of_cons hmarked hreopened,
    hcloses t' _ _ h'.stack (is_newFrame inner tag s)⟩

/-- A formatting element, or a link, is held if its start tag gives it an entry. -/
theorem holds_reopened (hname : tag.name ∈ reopenedNames)
    (hstart : ∃ fs, Formats (frames.map Frame.element) fs ∧ (bodyStart tag).run s = (.done,
      { Grown.opened frames .html inner tag s with
        formatting := .element (newFrame .html inner tag s).element tag :: fs })) :
    HoldsElement .flow frames m inner tag s := by
  obtain ⟨fs, hfs, hrun⟩ := hstart
  have hplain : ∀ name ∈ reopenedNames, name ∉ misplacedNames := by decide
  have hreopened : (newFrame .html inner tag s).element.isAny reopenedNames :=
    List.contains_iff_mem.2 hname
  refine h.holds_plain (hplain _ hname) (hfs.cons_element hreopened rfl) hrun
    (fun hd => absurd (h.drops.symm.trans hd) (by decide)) fun inner' t' m' h' => ?_
  obtain ⟨fs', hfs', hclose⟩ := h'.run_closeFormatting hreopened
  exact ⟨fs', hfs', bodyEnd_reopened hname ▸ run_thenDone hclose⟩

theorem holds_formatting (hname : tag.name ∈ formattingNames) :
    HoldsElement .flow frames m inner tag s := by
  have hstart : bodyStart tag = thenDone (do
      reopenFormatting
      openFormatting tag) := by
    obtain ⟨name, attributes, selfClosing⟩ := tag
    simp only [formattingNames, List.mem_cons, List.not_mem_nil, or_false] at hname
    rcases hname with rfl | rfl | rfl | rfl | rfl | rfl | rfl | rfl | rfl | rfl | rfl | rfl <;> rfl
  obtain ⟨fs, hfs, hopen⟩ := h.run_openFormatting
  refine h.holds_reopened (by simp [reopenedNames, hname]) ⟨fs, hfs, ?_⟩
  rw [hstart]
  exact run_thenDone (run_bind_eq h.run_reopenFormatting hopen)

theorem holds_link (hname : tag.name = "a") (ha : inLink (outline frames) = false) :
    HoldsElement .flow frames m inner tag s := by
  have hstart : bodyStart tag = thenDone (do
      closeLink
      reopenFormatting
      openFormatting tag) := by
    obtain ⟨name, attributes, selfClosing⟩ := tag
    cases hname
    rfl
  obtain ⟨fs, hfs, hopen⟩ := h.run_openFormatting
  refine h.holds_reopened (hname ▸ by decide) ⟨fs, hfs, ?_⟩
  rw [hstart]
  exact run_thenDone (run_bind_eq (h.run_closeLink ha) (run_bind_eq h.run_reopenFormatting hopen))

theorem holds_nobr (hname : tag.name = "nobr")
    (hnot : inScope endsScope (·.is "nobr") (outline frames) = false) :
    HoldsElement .flow frames m inner tag s := by
  have hstart : bodyStart tag = thenDone (do
      reopenFormatting
      if ← hasInScope endsScope (·.is "nobr") then
        closeFormatting "nobr"
        reopenFormatting
      openFormatting tag) := by
    obtain ⟨name, attributes, selfClosing⟩ := tag
    cases hname
    rfl
  obtain ⟨fs, hfs, hopen⟩ := h.run_openFormatting
  refine h.holds_reopened (hname ▸ by decide) ⟨fs, hfs, ?_⟩
  rw [hstart]
  refine run_thenDone (run_bind_eq h.run_reopenFormatting ?_)
  exact run_bind_eq (h.run_hasInScope (by decide) (fun _ => rfl) hnot) hopen

/-- An element in which nothing is opened again is held. -/
theorem holds_object (hname : tag.name ∈ objectNames) :
    HoldsElement .flow frames m inner tag s := by
  have hstart : bodyStart tag = thenDone (do
      reopenFormatting
      discard (openElement tag)
      pushMarker
      forbidFrameset) := by
    obtain ⟨name, attributes, selfClosing⟩ := tag
    simp only [objectNames, List.mem_cons, List.not_mem_nil, or_false] at hname
    rcases hname with rfl | rfl | rfl <;> rfl
  have hnames : ∀ name ∈ objectNames, name ∉ misplacedNames ∧ name ∈ markedNames := by decide
  have hmarked : (newFrame .html inner tag s).element.isAny markedNames :=
    List.contains_iff_mem.2 (hnames _ hname).2
  have hrun : (bodyStart tag).run s = (.done, { Grown.opened frames .html inner tag s with
      framesetAllowed := false, formatting := .marker :: s.formatting }) := by
    rw [hstart]
    exact run_thenDone (run_bind_eq h.run_reopenFormatting
      (run_bind_eq (run_discard (h.run_openElement tag)) rfl))
  refine h.holds_plain (hnames _ hname).1
    ((Formats.marked_iff hmarked).2 ⟨_, rfl, h.formatting⟩) hrun
    (fun hd => absurd (h.drops.symm.trans hd) (by decide)) fun inner' t' m' h' => ?_
  obtain ⟨later, hfs, hlater⟩ := (Formats.marked_iff hmarked).1 h'.formatting
  exact ⟨later, hlater, run_endObject h'.stack (is_newFrame inner tag s) hname hfs⟩

/-- A block is held where no paragraph is open. -/
theorem holds_block (hname : tag.name ∈ "p" :: "pre" :: "listing" :: blockNames)
    (hp : inParagraph (outline frames) = false) :
    HoldsElement .flow frames m inner tag s := by
  have hplain : ∀ name ∈ "p" :: "pre" :: "listing" :: blockNames,
      name ∉ misplacedNames ∧ name ∉ markedNames ++ reopenedNames := by decide
  have hcloses : Closes tag.name := by
    rcases List.mem_cons.1 hname with heq | hblock
    · exact heq ▸ closes_paragraph
    · exact closes_block (by simp only [List.mem_cons] at hblock ⊢; tauto)
  refine h.holds (hplain _ hname).1 (hplain _ hname).2 ?_ hcloses
  by_cases hpre : tag.name ∈ ["pre", "listing"]
  · exact h.opens_preformatted hpre hp
  · refine h.opens_block ?_ hp
    simp only [List.mem_cons, List.not_mem_nil, or_false] at hname hpre ⊢
    tauto

/-- An item is held where none has to be closed. -/
theorem holds_item (hname : tag.name ∈ ["li", "dd", "dt"])
    (hp : inParagraph (outline frames) = false)
    (hitem : inItem (itemNames tag.name) (outline frames) = false) :
    HoldsElement .flow frames m inner tag s := by
  have hplain : ∀ name ∈ ["li", "dd", "dt"],
      name ∉ misplacedNames ∧ name ∉ markedNames ++ reopenedNames := by decide
  exact h.holds (hplain _ hname).1 (hplain _ hname).2 (h.opens_item hname hp hitem)
    (closes_item hname)

end Inside

/-! ### Forms -/

/-- No template is open if there is none in the outline. -/
theorem any_template_stack (hnot : ∀ e ∈ outline frames, e.isAny ["form", "template"] = false) :
    (frames.map Frame.element ++ [rootElement]).any (·.is "template") = false := by
  rw [List.any_append, Bool.or_eq_false_iff, List.any_eq_false]
  refine ⟨fun e he his => ?_, rfl⟩
  obtain ⟨f, hf, rfl⟩ := List.mem_map.1 he
  have hf' : f.element.isAny ["form", "template"] = false :=
    hnot (around f.space f.name) (List.mem_map_of_mem hf)
  rw [isAny_of_is his] at hf'
  cases hf'

/-- Where no form is open, the start tag of one opens it. -/
theorem Grown.run_bodyStart_form (h : Grown frames none inner s) (hname : tag.name = "form")
    (hp : inParagraph (outline frames) = false)
    (hnot : ∀ e ∈ outline frames, e.isAny ["form", "template"] = false) :
    (bodyStart tag).run s = (.done, { Grown.opened frames .html inner tag s with
      form := some (newFrame .html inner tag s).id }) := by
  have hstart : bodyStart tag = thenDone (do
      let inTemplate ← hasOpen (·.is "template")
      if (← get).form.isNone || inTemplate then
        closeParagraph
        let e ← openElement tag
        if !inTemplate then modify fun s => { s with form := some e.id }) := by
    obtain ⟨name, attributes, selfClosing⟩ := tag
    cases hname
    rfl
  rw [hstart]
  refine run_thenDone (run_bind_eq (a := false) (t := s) ?_ ?_)
  · exact congrArg (·, s) (h.stack ▸ any_template_stack hnot)
  refine run_bind_eq (a := s) (t := s) rfl ?_
  rw [if_pos (by rw [h.form_eq]; rfl)]
  refine run_bind_eq (h.run_closeParagraph hp) ?_
  exact run_bind_eq (h.run_openElement tag) rfl

/-- If the innermost element is the form that is open, the end tag of a form closes it. -/
theorem Grown.run_endForm (h : Grown (f :: frames) (some f.id) inner s)
    (hform : f.element.is "form")
    (hnot : ∀ e ∈ outline frames, e.isAny ["form", "template"] = false) :
    endForm.run s = ((), { s with
      stack := frames.map Frame.element ++ [rootElement], form := none }) := by
  have hscope : inScope endsScope (·.id == f.id) s.stack = true := by
    simp [h.stack, inScope, Frame.element]
  have herase : s.stack.eraseP (·.id == f.id) = frames.map Frame.element ++ [rootElement] := by
    rw [h.stack, List.map_cons, List.cons_append, List.eraseP_cons_of_pos]
    exact beq_self_eq_true _
  have htemplate : s.stack.any (·.is "template") = false := by
    obtain ⟨-, hname⟩ := name_of_is hform
    rw [h.stack, List.map_cons, List.cons_append, List.any_cons, any_template_stack hnot]
    simp [OpenElement.is, hname]
  unfold endForm
  refine run_bind_eq (a := false) (t := s) (congrArg (·, s) htemplate) ?_
  refine run_bind_eq (a := s) (t := s) rfl ?_
  refine run_bind_eq (t := { s with form := none }) rfl ?_
  rw [h.form_eq]
  dsimp only
  rw [if_pos hscope, ← herase]
  exact run_bind_eq (run_impliedEnds (s := { s with form := none }) h.stack
    (isAny_of_is hform _)) rfl

namespace Inside

variable (h : Inside .flow frames m inner s)
include h

/-- A form that stands in no other and in no template is held; its end tag closes the form that is
open. -/
theorem holds_form (hname : tag.name = "form") (hp : inParagraph (outline frames) = false)
    (hnot : ∀ e ∈ outline frames, e.isAny ["form", "template"] = false) :
    HoldsElement .flow frames m inner tag s := by
  have hnone : m.form = none := by
    by_contra hsome
    obtain ⟨f, hf, hform⟩ := h.form_open hsome
    have hf' : f.element.isAny ["form", "template"] = false :=
      hnot (around f.space f.name) (List.mem_map_of_mem hf)
    rw [isAny_of_is hform] at hf'
    cases hf'
  have hself : (newFrame .html inner tag s).element.is "form" := hname ▸ is_newFrame inner tag s
  have hmarked : ¬ (newFrame .html inner tag s).element.isAny markedNames := by
    rw [isAny_of_is hself]
    decide
  have hreopened : ¬ (newFrame .html inner tag s).element.isAny reopenedNames := by
    rw [isAny_of_is hself]
    decide
  have hcalls : ¬ (newFrame .html inner tag s).element.isAny modeNames := by
    rw [isAny_of_is hself]
    decide
  have hplain : tag.name ∉ misplacedNames := hname ▸ by decide
  obtain ⟨hmode, hpart⟩ := not_mem_parts hplain
  have hflow : Ground.flow.inside (around .html tag.name) = .flow := inside_eq_flow hmode
  have hsuited : Suited .flow (newFrame .html inner tag s :: frames) s.templateModes s.mode :=
    h.suited.cons (by decide) (.inl rfl) h.suited.suits hcalls
  have hopened := h.opened
    { form := some (newFrame .html inner tag s).id, modes := s.templateModes } hsuited rfl
    (h.formatting.cons hmarked) fun _ => ⟨_, List.mem_cons_self, hself⟩
  have hgrown : Grown frames none inner s := hnone ▸ h.toGrown
  unfold HoldsElement
  rw [hflow]
  refine ⟨_, _, (h.look_start hpart).trans (hgrown.run_bodyStart_form hname hp hnot),
    hopened.congr ?_, fun hd => absurd (h.drops.symm.trans hd) (by decide), fun inner' t' h' => ?_⟩
  · simp only [Construction.readingKey, Construction.key, undropped, Grown.opened, Grown.grow,
      h.drops]
  · have hmodes' : t'.templateModes = s.templateModes := h'.modes
    have hmode' : t'.mode = s.mode :=
      (hmodes' ▸ h'.suited).mode_eq hsuited (by decide) (by decide)
    have hend : (bodyEnd { name := tag.name }).run t' = (.done, { t' with
        stack := frames.map Frame.element ++ [rootElement], form := none }) := by
      rw [hname]
      exact run_thenDone (x := endForm) (h'.run_endForm hself hnot)
    refine ⟨_, (h'.look_end rfl hplain).trans hend, (h'.closed h.suited h.modes
      (h'.formatting.of_cons hmarked hreopened) h.form_open).congr ?_⟩
    simp only [Construction.readingKey, Construction.key, hnone, hmode', hmodes']

/-! ### Lists to select from -/

/-- A list to select from is held. -/
theorem holds_select (hname : tag.name = "select") :
    HoldsElement .flow frames m inner tag s := by
  have hstart : bodyStart tag = thenDone (do
      reopenFormatting
      discard (openElement tag)
      forbidFrameset
      modify fun s =>
        { s with
          mode :=
            if [Mode.inTable, .inCaption, .inTableBody, .inRow, .inCell].contains s.mode then
              .inSelectInTable
            else .inSelect }) := by
    obtain ⟨name, attributes, selfClosing⟩ := tag
    cases hname
    rfl
  have hself : (newFrame .html inner tag s).element.is "select" := hname ▸ is_newFrame inner tag s
  have hmarked : ¬ (newFrame .html inner tag s).element.isAny markedNames := by
    rw [isAny_of_is hself]
    decide
  have hreopened : ¬ (newFrame .html inner tag s).element.isAny reopenedNames := by
    rw [isAny_of_is hself]
    decide
  have hground : Ground.flow.inside (around .html tag.name) = .select := hname ▸ rfl
  have hrun : ∃ mode, Ground.select.suits mode ∧ look (.startTag tag) s = (.done,
      { Grown.opened frames .html inner tag s with framesetAllowed := false, mode }) := by
    refine ⟨if [Mode.inTable, .inCaption, .inTableBody, .inRow, .inCell].contains s.mode then
      .inSelectInTable else .inSelect, ?_, ?_⟩
    · split
      · exact .inr rfl
      · exact .inl rfl
    · rw [h.look_start (hname ▸ by decide), hstart]
      exact run_thenDone (run_bind_eq h.run_reopenFormatting
        (run_bind_eq (run_discard (h.run_openElement tag)) rfl))
  obtain ⟨mode, hmode, hrun⟩ := hrun
  refine h.holds_in (hground ▸ ⟨rfl, hmode, .inl rfl⟩) (h.formatting.cons hmarked) hrun
    (fun hd => absurd (h.drops.symm.trans hd) (by decide)) fun inner' t' h' _ => ?_
  rw [hground] at h'
  refine ⟨t'.formatting, s.mode, h'.formatting.of_cons hmarked hreopened, .inl rfl, ?_⟩
  have hmodes' : t'.templateModes = s.templateModes := h'.modes
  have hend : (inSelect (.endTag { name := "select" })).run t' = (.done, { t' with
      stack := frames.map Frame.element ++ [rootElement], mode := s.mode }) :=
    run_bind_eq (run_hasInScope_head h'.stack hself) (run_bind_eq (run_popThrough h'.stack hself)
      (run_bind_eq (h.suited.run_resetMode (by decide) rfl hmodes') rfl))
  rw [h'.look_eq rfl, hname]
  rcases h'.suited.suits with hmode' | hmode' <;> rw [hmode'] <;> exact hend

end Inside

/-- Closes the innermost element, if it is of the name. -/
def closeCurrent (name : String) : Construct Unit := do if ← currentIs (·.is name) then pop

theorem Placed.run_closeCurrent (h : Placed frames inner s) (hroot : name ≠ "html")
    (hin : isIn [name] (outline frames) = false) : (closeCurrent name).run s = ((), s) := by
  have hnot : (current frames).is name = false := by
    rw [← isAny_singleton]
    exact isAny_current (by simpa using hroot.symm) hin
  exact run_if_neg (hnot ▸ h.run_currentIs _)

theorem run_closeCurrent {e : OpenElement} {es : List OpenElement} (hs : t.stack = e :: es)
    (he : e.is name = true) : (closeCurrent name).run t = ((), { t with stack := es }) := by
  have hpop : t.stack.drop 1 = es := by rw [hs]; rfl
  rw [← hpop]
  exact run_if_pos (he ▸ run_currentIs hs _) rfl

/-- The start tag of an option, or of a group of them, opens it where it closes no other. -/
theorem Placed.run_inSelect_start (h : Placed frames inner s)
    (hname : tag.name ∈ ["option", "optgroup"])
    (hoption : isIn ["option"] (outline frames) = false)
    (hgroup : tag.name = "optgroup" → isIn ["optgroup"] (outline frames) = false) :
    (inSelect (.startTag tag)).run s = (.done, Grown.opened frames .html inner tag s) := by
  have hopen := run_discard (h.run_openElement tag)
  have hclose := h.run_closeCurrent (by decide) hoption
  obtain ⟨name, attributes, selfClosing⟩ := tag
  simp only [List.mem_cons, List.not_mem_nil, or_false] at hname
  rcases hname with rfl | rfl
  · show (thenDone do
      closeCurrent "option"
      discard (openElement _)).run s = _
    exact run_thenDone (run_bind_eq hclose hopen)
  · show (thenDone do
      closeCurrent "option"
      closeCurrent "optgroup"
      discard (openElement _)).run s = _
    exact run_thenDone (run_bind_eq hclose
      (run_bind_eq (h.run_closeCurrent (by decide) (hgroup rfl)) hopen))

/-- The end tag of an option, or of a group of them, closes it alone. -/
theorem run_inSelect_end {e : OpenElement} {es : List OpenElement} (hs : t.stack = e :: es)
    (he : e.is name = true) (hname : name ∈ ["option", "optgroup"]) :
    (inSelect (.endTag { name })).run t = (.done, { t with stack := es }) := by
  simp only [List.mem_cons, List.not_mem_nil, or_false] at hname
  rcases hname with rfl | rfl
  · exact run_thenDone (run_closeCurrent hs he)
  · have hoption : e.is "option" = false := by
      obtain ⟨-, hname⟩ := name_of_is he
      simp [OpenElement.is, hname]
    refine run_thenDone (run_bind_eq (a := t) (t := t) rfl ?_)
    rw [hs]
    cases es with
    | nil => exact run_closeCurrent hs he
    | cons outer es =>
      dsimp only
      rw [if_neg (by simp [hoption])]
      exact run_closeCurrent hs he

/-- Parts of tables that end a list to select from. -/
def selectEndNames : List String :=
  ["caption", "table", "tbody", "tfoot", "thead", "tr", "td", "th"]

/-- In a table, too, tags are looked at as in a list to select from. -/
theorem Inside.look_selected (h : Inside .select frames m inner s) (tag : Tag)
    (hname : ¬ selectEndNames.contains tag.name) :
    look (.startTag tag) s = (inSelect (.startTag tag)).run s ∧
      look (.endTag tag) s = (inSelect (.endTag tag)).run s := by
  rw [h.look_eq h.suited.fits, h.look_eq h.suited.fits]
  rcases h.suited.suits with hmode | hmode <;> rw [hmode]
  · exact ⟨rfl, rfl⟩
  · exact ⟨congrArg (StateT.run · s) (if_neg hname), congrArg (StateT.run · s) (if_neg hname)⟩

/-- Among what may be selected, options and groups of them are held. -/
theorem Inside.holds_selected (h : Inside .select frames m inner s)
    (hname : tag.name ∈ ["option", "optgroup"])
    (hoption : isIn ["option"] (outline frames) = false)
    (hgroup : tag.name = "optgroup" → isIn ["optgroup"] (outline frames) = false) :
    HoldsElement .select frames m inner tag s := by
  have hplain : ∀ name ∈ ["option", "optgroup"], Ground.select.inside (around .html name) = .select ∧
      ¬ markedNames.contains name ∧ ¬ reopenedNames.contains name ∧
      ¬ selectEndNames.contains name := by
    decide
  obtain ⟨hground, hmarked, hreopened, hpart⟩ := hplain _ hname
  have hstart := h.run_inSelect_start hname hoption hgroup
  have hsuited : Suited (Ground.select.inside (around .html tag.name))
      (newFrame .html inner tag s :: frames) s.templateModes s.mode := by
    rw [hground]
    exact ⟨rfl, h.suited.suits, .inl rfl⟩
  refine h.holds_in hsuited (h.formatting.cons hmarked) ((h.look_selected tag hpart).1.trans hstart)
    (fun hd => absurd (h.drops.symm.trans hd) (by decide)) fun inner' t' h' _ => ?_
  rw [hground] at h'
  refine ⟨t'.formatting, t'.mode, h'.formatting.of_cons hmarked hreopened,
    .inr ⟨rfl, h'.suited.suits⟩, (h'.look_selected { name := tag.name } hpart).2.trans ?_⟩
  exact run_inSelect_end h'.stack (is_newFrame inner tag s) hname

/-! ## Among text -/

/-- Among text an HTML element that may stand there, and holds others, is held. -/
theorem Inside.holds_flow (h : Inside .flow frames m inner s)
    (hstands : StandsInFlow (outline frames) tag.name)
    (hcontents : contentsOf .html tag.name = .trees) (htable : tag.name ≠ "table") :
    HoldsElement .flow frames m inner tag s := by
  cases hstands with
  | anywhere hname =>
    have hleaf : ∀ name ∈ headNames ++ leafNames, contentsOf .html name ≠ .trees := by decide
    exact absurd hcontents (hleaf _ (List.mem_append.2 hname))
  | formatting hname => exact h.holds_formatting hname
  | object hname => exact h.holds_object hname
  | select hname => exact h.holds_select hname
  | ordinary hname =>
    have hplain : ∀ names : List String, (∀ name ∈ names, name ∈ peculiarNames) →
        tag.name ∉ names := fun names hsub hmem => hname (hsub _ hmem)
    exact h.holds (hplain _ (by decide)) (hplain _ (by decide)) (h.opens_ordinary hname)
      (closes_ordinary (.inl hname))
  | link hname hnot => exact h.holds_link hname hnot
  | once hname hnot =>
    simp only [List.mem_cons, List.not_mem_nil, or_false] at hname
    rcases hname with hname | hname
    · exact h.holds_nobr hname (hname ▸ hnot)
    · exact h.holds (hname ▸ by decide) (hname ▸ by decide)
        (h.opens_button hname (hname ▸ hnot)) (closes_block (hname ▸ List.mem_cons_self))
  | option hname hparent =>
    have hplain : ∀ name ∈ ["optgroup", "option"], name ∉ misplacedNames ∧
        name ∉ markedNames ++ reopenedNames ∧ name ∈ plainEndNames := by decide
    obtain ⟨hmisplaced, hheld, hend⟩ := hplain _ hname
    exact h.holds hmisplaced hheld (h.opens_option hname hparent) (closes_ordinary (.inr hend))
  | ruby hname hparent =>
    have hplain : ∀ name ∈ rubyNames, name ∉ misplacedNames ∧
        name ∉ markedNames ++ reopenedNames ∧ name ∈ plainEndNames := by decide
    obtain ⟨hmisplaced, hheld, hend⟩ := hplain _ hname
    exact h.holds hmisplaced hheld (h.opens_ruby hname hparent) (closes_ordinary (.inr hend))
  | block hname hp =>
    have hblock : ∀ name ∈ nonParagraphNames, contentsOf .html name ≠ .trees ∨ name = "table" ∨
        name ∈ "p" :: "pre" :: "listing" :: blockNames := by decide
    exact h.holds_block (((hblock _ hname).resolve_left (· hcontents)).resolve_left htable) hp
  | heading hname hp hparent =>
    have hplain : ∀ name ∈ headings,
        name ∉ misplacedNames ∧ name ∉ markedNames ++ reopenedNames := by decide
    exact h.holds (hplain _ hname).1 (hplain _ hname).2 (h.opens_heading hname hp hparent)
      (closes_heading hname)
  | item hname hp hnot => exact h.holds_item hname hp hnot
  | form hname hp hnot => exact h.holds_form hname hp hnot

end ReleaseListing.Html
