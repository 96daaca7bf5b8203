import ReleaseListing.Proofs.Html.Leaves

/-!
# Templates

A template is held wherever an element of the head may stand (`Inside.holds_template`). The first tag
in it that is no element of the head says what the template is made for (`Inside.switches`); from
then on what it holds is read as in an element that holds the same (`Inside.of_template`).
-/

namespace ReleaseListing.Html

open Construct Grown

variable {s t : Construction} {frames : List Frame} {f : Frame} {ground ground' holds : Ground}
  {m : Memory} {inner : Forest} {space : Space} {tag read : Tag} {name : String} {lexing : Lexing}
  {e : OpenElement} {es : List OpenElement} {mode : Mode} {modes : List Mode}

/-! ## Start and end -/

theorem modeOf_template (hs : t.templateModes = mode :: modes) (he : e.is "template" = true)
    (es : List OpenElement) : modeOf t (e :: es) = mode := by
  obtain ⟨hspace, hname⟩ := name_of_is he
  simp [modeOf, hspace, hname, hs]

/-- The end tag of a template closes it, and drops the formatting entries since its start. -/
theorem run_endTemplate (hs : s.stack = e :: es) (he : e.is "template" = true)
    {later : List Formatting} (hfs : s.formatting = .marker :: later)
    (hreset : ∀ t, t.stack = es → t.templateModes = s.templateModes.drop 1 →
      resetMode.run t = ((), { t with mode })) :
    endTemplate.run s = ((), { s with
      stack := es, formatting := later, templateModes := s.templateModes.drop 1, mode }) := by
  have hopen : (hasOpen (·.is "template")).run s = (true, s) := by
    have hany : s.stack.any (·.is "template") = true := by rw [hs, List.any_cons, he]; rfl
    exact congrArg (·, s) hany
  have himplied : e.isAny (impliedEndNames ++ tablePartNames.filter (· != "col")) = false :=
    (isAny_of_is he _).trans (by decide)
  have hlater : later = s.formatting.drop ((recentFormatting s.formatting).length + 1) := by
    rw [hfs]
    rfl
  rw [hlater]
  refine run_if_pos hopen (run_bind_eq (run_impliedEnds hs himplied) ?_)
  refine run_bind_eq (run_popThrough hs he) (run_bind_eq rfl (run_bind_eq rfl ?_))
  exact hreset _ rfl rfl

theorem Ground.suits.inMode_endTemplate (h : (Ground.template holds).suits mode) :
    inMode mode (.endTag { name := "template" }) = thenDone endTemplate := by
  rcases h with rfl | rfl
  · rfl
  · cases holds <;> rfl

/-- A template is held, whatever it is made for. -/
theorem Inside.holds_template (h : Inside ground frames m inner s) (hground : ground ≠ .select)
    (hname : tag.name = "template") (hhead : tag.name ∈ ground.headNames)
    (hholds : holds ∈ templateGrounds) :
    HoldsOn (.template holds) ground frames m inner .html tag tag s := by
  have hstart : headElement tag = thenDone (beginTemplate tag) := by
    obtain ⟨name, attributes, selfClosing⟩ := tag
    cases hname
    rfl
  have hself : (newFrame .html inner tag s).element.is "template" = true :=
    hname ▸ is_newFrame inner tag s
  have hmarked : (newFrame .html inner tag s).element.isAny markedNames :=
    (isAny_of_is hself _).trans (by decide)
  have hsuited : Suited (.template holds) (newFrame .html inner tag s :: frames)
      (.inTemplate :: s.templateModes) .inTemplate :=
    ⟨⟨hself, hholds⟩, .inl rfl, .inr fun s' hs' => modeOf_template hs' hself _⟩
  have hopened := h.opened { m with modes := s.templateModes } hsuited rfl
    ((Formats.marked_iff hmarked).2 ⟨_, rfl, h.formatting⟩)
    fun hsome => (h.form_open hsome).imp fun f hf => hf.imp_left (List.mem_cons_of_mem _)
  have hrun : look (.startTag tag) s = (.done, { Grown.opened frames .html inner tag s with
      formatting := .marker :: s.formatting
      framesetAllowed := false
      mode := .inTemplate
      templateModes := .inTemplate :: s.templateModes }) := by
    rw [h.look_head hhead, hstart]
    exact run_thenDone (run_bind_eq (run_discard (h.run_openElement tag)) rfl)
  refine ⟨_, _, hrun, hopened.congr ?_, fun hd => absurd (h.drops.symm.trans hd) (by decide),
    fun inner' t' h' => ?_⟩
  · simp only [Construction.readingKey, Construction.key, undropped, Grown.opened, Grown.grow,
      h.drops, h.form_eq]
  · obtain ⟨later, hfs, hlater⟩ := (Formats.marked_iff hmarked).1 h'.formatting
    have hmodes : t'.templateModes.drop 1 = s.templateModes := by
      rw [h'.modes]
      rfl
    have hend : look (.endTag { name := tag.name }) t' = (.done, { t' with
        stack := frames.map Frame.element ++ [rootElement], formatting := later,
        templateModes := t'.templateModes.drop 1, mode := s.mode }) := by
      rw [h'.look_eq rfl, hname, h'.suited.suits.inMode_endTemplate]
      exact run_thenDone (run_endTemplate h'.stack hself hfs fun u hstack hu =>
        h.suited.run_resetMode hground hstack (hu.trans hmodes))
    refine ⟨_, hend, (h'.closed h.suited h.modes hlater h.form_open).congr ?_⟩
    simp only [Construction.readingKey, Construction.key, h'.form_eq, hmodes]

/-! ## What a template holds -/

/-- A template lies on the ground of what it is made for. -/
theorem Ground.Fits.of_template (h : (Ground.template holds).Fits e) : holds.Fits e := by
  obtain ⟨he, hholds⟩ := h
  have hspace := (name_of_is he).1
  have hany : ∀ names : List String, names.contains "template" → e.isAny names :=
    fun names hmem => (isAny_of_is he names).trans hmem
  simp only [templateGrounds, List.mem_cons, List.not_mem_nil, or_false] at hholds
  rcases hholds with rfl | rfl | rfl | rfl | rfl
  · exact .inl hspace
  · exact hany _ (by decide)
  · exact hany _ (by decide)
  · exact hany _ (by decide)
  · exact hany _ (by decide)

/-- What a template may be made for has a mode of its own, and is no template. -/
theorem Ground.of_templateGrounds (hholds : holds ∈ templateGrounds) :
    holds.suits holds.templateMode ∧ holds ≠ .select ∧
      ∀ mode modes, holds.modes mode modes = modes := by
  simp only [templateGrounds, List.mem_cons, List.not_mem_nil, or_false] at hholds
  rcases hholds with rfl | rfl | rfl | rfl | rfl
  · exact ⟨.inl rfl, by decide, fun _ _ => rfl⟩
  · exact ⟨rfl, by decide, fun _ _ => rfl⟩
  · exact ⟨rfl, by decide, fun _ _ => rfl⟩
  · exact ⟨rfl, by decide, fun _ _ => rfl⟩
  · exact ⟨rfl, by decide, fun _ _ => rfl⟩

/-- A template that is known to be made for something is read as what holds the same. -/
theorem Inside.of_template (h : Inside (.template holds) frames m inner s)
    (hmode : s.mode ≠ .inTemplate) :
    Inside holds frames { m with modes := s.templateModes } inner s := by
  obtain ⟨hsuits, -, hmodes⟩ := Ground.of_templateGrounds h.suited.fits.2
  have heq : s.mode = holds.templateMode := h.suited.suits.resolve_left hmode
  exact
    { h with
      suited := ⟨h.suited.fits.of_template, heq ▸ hsuits,
        .inr (h.suited.modeOf_eq.resolve_left Ground.noConfusion)⟩
      modes := (hmodes _ _).symm }

/-- What is read on the ground is read on the other one as well. -/
def Carries (ground ground' : Ground) (frames : List Frame) (m m' : Memory) : Prop :=
  m.form = m'.form ∧ ∀ ⦃mode modes⦄, Suited ground frames modes mode →
    modes = ground.modes mode m.modes →
      Suited ground' frames modes mode ∧ modes = ground'.modes mode m'.modes

/-- What is read as in an element that holds the same is read as in the template, too: the mode of
the template is kept. -/
theorem Inside.carries_template (h : Inside (.template holds) frames m inner s)
    (hmode : s.mode ≠ .inTemplate) :
    Carries holds (.template holds) frames { m with modes := s.templateModes } m := by
  obtain ⟨htemplate, hholds⟩ := h.suited.fits
  obtain ⟨-, hselect, hmodes⟩ := Ground.of_templateGrounds hholds
  have heq : s.mode = holds.templateMode := h.suited.suits.resolve_left hmode
  have hcurrent : ∀ t : Construction, t.templateModes = s.mode :: m.modes →
      modeOf t (frames.map Frame.element ++ [rootElement]) = s.mode := by
    cases frames with
    | nil => cases htemplate
    | cons f frames => exact fun t ht => modeOf_template ht htemplate _
  refine ⟨rfl, fun mode modes hs hms => ?_⟩
  have hms' : modes = s.mode :: m.modes := (hms.trans (hmodes _ _)).trans h.modes
  have hmode' : mode = s.mode :=
    (hs.modeOf_eq.resolve_left hselect { templateModes := modes } rfl).symm.trans
      (hcurrent _ hms')
  subst hmode'
  exact ⟨⟨⟨htemplate, hholds⟩, .inr heq, .inr fun t ht => hcurrent t (ht.trans hms')⟩, hms'⟩

section

variable {m' : Memory} (hcarries : Carries ground ground' frames m m')
include hcarries

/-- What is held on a ground is held on one that carries what is read there. -/
theorem Inside.carried (h : Inside ground frames m inner s) :
    Inside ground' frames m' inner s := by
  obtain ⟨hsuited, hmodes⟩ := hcarries.2 h.suited h.modes
  exact ⟨hcarries.1 ▸ h.toGrown, hsuited, hmodes, h.lexing, h.tableText, h.drops⟩

theorem HoldsVoid.carried (h : HoldsVoid ground frames m inner tag s) :
    HoldsVoid ground' frames m' inner tag s :=
  h.imp fun _ ht => ht.imp_right (Inside.carried hcarries)

theorem HoldsText.carried (h : HoldsText ground frames m inner lexing tag s) :
    HoldsText ground' frames m' inner lexing tag s := by
  obtain ⟨t, hlook, ht, hdrops⟩ := h
  obtain ⟨hsuited, hmodes⟩ := hcarries.2 ht.suited ht.modes
  exact ⟨t, hlook, ⟨hcarries.1 ▸ ht.toGrown, ht.space, ht.mode, ht.lexing_eq, hsuited, hmodes,
    ht.tableText, ht.drops⟩, hdrops⟩

theorem HoldsOn.carried {inside : Ground}
    (h : HoldsOn inside ground frames m inner space tag read s) :
    HoldsOn inside ground' frames m' inner space tag read s := by
  obtain ⟨t, kept, hlook, ht, hdrops, hend⟩ := h
  refine ⟨t, kept, hlook, ht, hdrops, fun inner' t' h' => ?_⟩
  exact (hend inner' t' h').imp fun _ hu => hu.imp_right (Inside.carried hcarries)

end

/-! ## The first tag in a template -/

/-- What stands on the ground besides elements of the head, wherever on the page it is. -/
def Ground.partNames : Ground → List String
  | .head => ["noscript"]
  | .frames => ["frameset", "frame"]
  | .table => ["caption", "colgroup", "tbody", "tfoot", "thead"]
  | .columns => ["col"]
  | .rows => ["tr"]
  | .cells => ["td", "th"]
  | _ => []

/-- The first start tag of the name in a template says that it is made for the ground. -/
def Ground.Calls (holds : Ground) (name : String) : Prop :=
  name ∈ holds.partNames ∨ holds = .flow ∧ name ∉ tablePartNames ∧ name ∉ Html.headNames

/-- The tag sets the mode of the template. -/
theorem Ground.Calls.inTemplate_start (h : holds.Calls tag.name) :
    inTemplate (.startTag tag) = (do
      modify fun s => { s with templateModes := holds.templateMode :: s.templateModes.drop 1 }
      againIn holds.templateMode) := by
  obtain ⟨name, attributes, selfClosing⟩ := tag
  rcases h with hpart | ⟨rfl, hpart, hhead⟩
  · cases holds <;> simp only [partNames, List.mem_cons, List.not_mem_nil, or_false] at hpart
    case table => rcases hpart with rfl | rfl | rfl | rfl | rfl <;> rfl
    case cells | frames => rcases hpart with rfl | rfl <;> rfl
    all_goals
      subst hpart
      rfl
  · change name ∉ tablePartNames at hpart
    have hnot : Html.headNames.contains name = false := by
      rwa [← Bool.not_eq_true, List.contains_iff_mem]
    unfold inTemplate
    dsimp only
    split <;> first
      | exact absurd (by decide) hpart
      | rw [hnot]; rfl

/-- Then the tag is looked at again, in a template that is known to be made for what it holds. -/
theorem Inside.switches (h : Inside (.template holds) frames m inner s)
    (hmode : s.mode = .inTemplate) (hcalls : holds.Calls tag.name) :
    ∃ t, look (.startTag tag) s = (.again, t) ∧ t.mode = holds.templateMode ∧
      Inside (.template holds) frames m inner t := by
  have htemplate : (current frames).is "template" = true := h.suited.fits.1
  have hmodes : s.templateModes.drop 1 = m.modes := by
    rw [h.modes]
    rfl
  refine ⟨{ s with
    templateModes := holds.templateMode :: s.templateModes.drop 1
    mode := holds.templateMode }, ?_, rfl, h.toGrown.congr rfl, ⟨h.suited.fits, .inr rfl, .inr ?_⟩,
    congrArg _ hmodes, h.lexing, h.tableText, h.drops⟩
  · rw [h.look_eq (h.suited.fits.space_eq trivial), hmode]
    show (inTemplate (.startTag tag)).run s = _
    rw [hcalls.inTemplate_start]
    rfl
  · intro t ht
    cases frames with
    | nil => cases htemplate
    | cons f frames => exact modeOf_template ht htemplate _

end ReleaseListing.Html
