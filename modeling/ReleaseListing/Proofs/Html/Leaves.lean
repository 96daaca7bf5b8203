import ReleaseListing.Proofs.Html.Elements

/-!
# Elements without elements inside

An element that holds nothing is put where its start tag stands (`HoldsVoid`). The text of one that
holds nothing else is read in a way of its own up to its end tag (`InText.reads`). Elements of the
head are read alike wherever they may stand (`Inside.look_head`).
-/

namespace ReleaseListing.Html

open Construct Grown

variable {s t : Construction} {frames : List Frame} {f : Frame} {ground : Ground} {m : Memory}
  {inner : Forest} {tag : Tag} {name : String} {lexing : Lexing} {cs rest : List Char} {mode : Mode}

/-! ## Elements of the head -/

/-- The elements of the head that are read as such in the mode. -/
def headNamesIn : Mode → List String
  | .inHead | .inBody | .inCell | .inCaption | .inTemplate => headNames
  | .inTable | .inTableBody | .inRow => scriptNames
  | .inColumnGroup => ["template"]
  | .inSelect | .inSelectInTable => ["script"]
  | .inFrameset => ["noframes"]
  | _ => []

/-- The elements of the head that may stand on the ground. -/
def Ground.headNames : Ground → List String
  | .flow | .head => Html.headNames
  | .table | .rows | .cells => scriptNames
  | .columns => ["template"]
  | .select => ["script"]
  | .frames => ["noframes"]
  | .foreign _ => []
  | .template holds => holds.headNames

theorem inMode_head (hname : tag.name ∈ headNamesIn mode) :
    inMode mode (.startTag tag) = headElement tag := by
  obtain ⟨name, attributes, selfClosing⟩ := tag
  cases mode <;>
    simp only [headNamesIn, headNames, scriptNames, List.mem_cons, List.not_mem_nil, or_false]
      at hname
  case inHead | inBody | inCell | inCaption | inTemplate =>
    rcases hname with rfl | rfl | rfl | rfl | rfl | rfl | rfl | rfl | rfl | rfl <;> rfl
  case inTable | inTableBody | inRow => rcases hname with rfl | rfl | rfl <;> rfl
  all_goals
    subst hname
    rfl

theorem Ground.mem_headNames (h : name ∈ ground.headNames) : name ∈ Html.headNames := by
  have hsub : ∀ names : List String, names ⊆ Html.headNames → name ∈ names →
      name ∈ Html.headNames := fun names hsub hmem => hsub hmem
  induction ground with
  | flow | head => exact h
  | template holds ih => exact ih h
  | table | rows | cells => exact hsub scriptNames (by decide) h
  | columns => exact hsub ["template"] (by decide) h
  | select => exact hsub ["script"] (by decide) h
  | frames => exact hsub ["noframes"] (by decide) h
  | foreign space => cases h

theorem Ground.suits.headNames (h : ground.suits mode) (hname : name ∈ ground.headNames) :
    name ∈ headNamesIn mode := by
  cases ground with
  | flow => rcases h with rfl | rfl | rfl <;> exact hname
  | select => rcases h with rfl | rfl <;> exact hname
  | foreign space => cases hname
  | template holds =>
    rcases h with rfl | rfl
    · exact Ground.mem_headNames hname
    · cases holds <;> first | exact hname | exact Ground.mem_headNames hname
  | _ =>
    obtain rfl := h
    exact hname

/-- An element of the head is looked at as such wherever it may stand. -/
theorem Inside.look_head (h : Inside ground frames m inner s) (hname : tag.name ∈ ground.headNames) :
    look (.startTag tag) s = (headElement tag).run s := by
  have hmode := inMode_head (h.suited.suits.headNames hname)
  cases ground with
  | flow =>
    have hparts : ∀ name ∈ headNames,
        name ∉ tablePartNames ∧ name ∉ ["mglyph", "malignmark"] := by decide
    rw [h.look_start (hparts _ hname), ← hmode, inMode_start h.suited.suits (hparts _ hname).1]
  | foreign space => cases hname
  | _ => rw [h.look_eq (h.suited.fits.space_eq trivial), hmode]

/-! ## Elements that hold nothing -/

/-- An element that holds nothing is put where its start tag stands. -/
def HoldsVoid (ground : Ground) (frames : List Frame) (m : Memory) (inner : Forest) (tag : Tag)
    (s : Construction) : Prop :=
  ∃ t, look (.startTag tag) s = (.done, t) ∧
    Inside ground frames m ((newFrame .html inner tag s).closed .nil) t

/-- The elements that hold nothing and stand among text as a letter does. -/
def inlineVoidNames : List String := ["area", "br", "embed", "img", "keygen", "wbr", "input"]

theorem bodyStart_inline (hname : tag.name ∈ inlineVoidNames) :
    bodyStart tag = thenDone (putInline tag) := by
  obtain ⟨name, attributes, selfClosing⟩ := tag
  simp only [inlineVoidNames, List.mem_cons, List.not_mem_nil, or_false] at hname
  rcases hname with rfl | rfl | rfl | rfl | rfl | rfl | rfl <;> rfl

theorem bodyStart_void (hname : tag.name ∈ ["param", "source", "track"]) :
    bodyStart tag = thenDone (putVoid tag) := by
  obtain ⟨name, attributes, selfClosing⟩ := tag
  simp only [List.mem_cons, List.not_mem_nil, or_false] at hname
  rcases hname with rfl | rfl | rfl <;> rfl

theorem bodyStart_rule (hname : tag.name = "hr") :
    bodyStart tag = thenDone (do
      closeParagraph
      putVoid tag
      forbidFrameset) := by
  obtain ⟨name, attributes, selfClosing⟩ := tag
  cases hname
  rfl

namespace Inside

section

variable (h : Inside ground frames m inner s)
include h

theorem holdsVoid (allowed : Bool) (hrun : look (.startTag tag) s = (.done,
    { Grown.grow frames ((newFrame .html inner tag s).closed .nil) s with
      framesetAllowed := allowed })) : HoldsVoid ground frames m inner tag s :=
  ⟨_, hrun, (h.grow (Grown.closed_leafy h.leafy _)).congr rfl⟩

/-- An element that is put and nothing else. -/
theorem holdsVoid_of_put (hlook : look (.startTag tag) s = (thenDone (putVoid tag)).run s) :
    HoldsVoid ground frames m inner tag s :=
  h.holdsVoid s.framesetAllowed (hlook.trans (run_thenDone (h.run_putVoid tag)))

/-- An element of the head that holds nothing is put. -/
theorem holdsVoid_head (hname : tag.name ∈ ground.headNames)
    (hvoid : contentsOf .html tag.name = .nothing) : HoldsVoid ground frames m inner tag s := by
  have hkinds : ∀ name ∈ headNames, contentsOf .html name = .nothing →
      name ∈ ["base", "basefont", "bgsound", "link", "meta"] := by decide
  have hstart : headElement tag = thenDone (putVoid tag) := by
    have hkind := hkinds _ (Ground.mem_headNames hname) hvoid
    obtain ⟨name, attributes, selfClosing⟩ := tag
    simp only [List.mem_cons, List.not_mem_nil, or_false] at hkind
    rcases hkind with rfl | rfl | rfl | rfl | rfl <;> rfl
  exact h.holdsVoid_of_put (h.look_head hname ▸ hstart ▸ rfl)

theorem run_putInline : ∃ allowed, (putInline tag).run s =
    ((), { Grown.grow frames ((newFrame .html inner tag s).closed .nil) s with
      framesetAllowed := allowed }) := by
  unfold putInline
  by_cases hhidden : (!(tag.name == "input" && isHidden tag)) = true
  · refine ⟨false, run_bind_eq h.run_reopenFormatting (run_bind_eq (h.run_putVoid tag) ?_)⟩
    rw [if_pos hhidden]
    rfl
  · refine ⟨s.framesetAllowed, run_bind_eq h.run_reopenFormatting
      (run_bind_eq (h.run_putVoid tag) ?_)⟩
    rw [if_neg hhidden]
    rfl

end

/-- Among text an element that may stand there, and holds nothing, is put. -/
theorem holdsVoid_flow (h : Inside .flow frames m inner s)
    (hstands : StandsInFlow (outline frames) tag.name)
    (hvoid : contentsOf .html tag.name = .nothing) : HoldsVoid .flow frames m inner tag s := by
  have hmem := (contentsOf_nothing hvoid).2
  have hnames : ∀ name ∈ voidNames, name ∈ peculiarNames ∧ name ∉ holderNames := by decide
  rcases hstands.anywhere_or_block (hnames _ hmem).1 (hnames _ hmem).2 with hname | ⟨hname, hp⟩
  · have hkinds : ∀ name ∈ headNames ++ leafNames, name ∈ voidNames → name ∈ headNames ∨
        (name ∉ tablePartNames ∧ name ∉ ["mglyph", "malignmark"]) ∧
          (name ∈ inlineVoidNames ∨ name ∈ ["param", "source", "track"]) := by decide
    rcases hkinds _ hname hmem with hhead | ⟨hpart, hinline | hplain⟩
    · exact h.holdsVoid_head hhead hvoid
    · obtain ⟨allowed, hrun⟩ := h.run_putInline
      refine h.holdsVoid allowed ?_
      rw [h.look_start hpart, bodyStart_inline hinline]
      exact run_thenDone hrun
    · exact h.holdsVoid_of_put (by rw [h.look_start hpart, bodyStart_void hplain])
  · have hrule : ∀ name ∈ nonParagraphNames, name ∈ voidNames → name = "hr" := by decide
    have hname := hrule _ hname hmem
    refine h.holdsVoid false ?_
    rw [h.look_start (hname ▸ by decide), bodyStart_rule hname]
    exact run_thenDone (run_bind_eq (h.run_closeParagraph hp) (run_bind_eq (h.run_putVoid tag) rfl))

/-- Among columns a column is put. -/
theorem holdsVoid_columns (h : Inside .columns frames m inner s) (hname : tag.name = "col") :
    HoldsVoid .columns frames m inner tag s := by
  have hstart : inColumnGroup (.startTag tag) = thenDone (putVoid tag) := by
    obtain ⟨name, attributes, selfClosing⟩ := tag
    cases hname
    rfl
  have hmode : s.mode = .inColumnGroup := h.suited.suits
  refine h.holdsVoid_of_put ?_
  rw [h.look_eq (h.suited.fits.space_eq trivial), hmode, ← hstart]
  rfl

/-- Among frames a frame is put. -/
theorem holdsVoid_frames (h : Inside .frames frames m inner s) (hname : tag.name = "frame") :
    HoldsVoid .frames frames m inner tag s := by
  have hstart : inFrameset (.startTag tag) = thenDone (putVoid tag) := by
    obtain ⟨name, attributes, selfClosing⟩ := tag
    cases hname
    rfl
  have hmode : s.mode = .inFrameset := h.suited.suits
  refine h.holdsVoid_of_put ?_
  rw [h.look_eq (h.suited.fits.space_eq trivial), hmode, ← hstart]
  rfl

/-- Among what may be selected a rule is put. -/
theorem holdsVoid_selected (h : Inside .select frames m inner s) (hname : tag.name = "hr")
    (hoption : isIn ["option"] (outline frames) = false)
    (hgroup : isIn ["optgroup"] (outline frames) = false) :
    HoldsVoid .select frames m inner tag s := by
  have hclose := h.run_closeCurrent (by decide) hoption
  refine h.holdsVoid_of_put ?_
  rw [(h.look_selected tag (hname ▸ by decide)).1]
  obtain ⟨name, attributes, selfClosing⟩ := tag
  cases hname
  show (thenDone do
    closeCurrent "option"
    closeCurrent "optgroup"
    putVoid _).run s = _
  exact (run_thenDone (run_bind_eq hclose (run_bind_eq (h.run_closeCurrent (by decide) hgroup)
    (h.run_putVoid _)))).trans (run_thenDone (h.run_putVoid _)).symm

end Inside

/-! ## Elements that hold nothing but text -/

/-- The element of the frame `f` is open, and its text is read, of which it holds `inner`. -/
structure InText (f : Frame) (ground : Ground) (frames : List Frame) (m : Memory) (lexing : Lexing)
    (inner : Forest) (s : Construction) : Prop extends Grown (f :: frames) m.form inner s where
  space : f.space = .html
  mode : s.mode = .inText
  lexing_eq : s.lexing = lexing
  suited : Suited ground frames s.templateModes s.interrupted
  modes : s.templateModes = ground.modes s.interrupted m.modes
  tableText : s.tableText = []
  drops : s.dropsLineFeed = false

/-- The elements whose content is read as text. -/
def textNames : List String :=
  ["title", "textarea", "style", "noframes", "xmp", "iframe", "noembed", "noscript", "script"]

theorem mem_textNames (hlexing : textLexing? name = some lexing) : name ∈ textNames := by
  cases textLexing?_cases hlexing with
  | escapable h =>
    have hsub : ∀ name ∈ ["title", "textarea"], name ∈ textNames := by decide
    exact hsub _ h
  | raw h =>
    have hsub : ∀ name ∈ ["style", "noframes", "xmp", "iframe", "noembed", "noscript"],
        name ∈ textNames := by decide
    exact hsub _ h
  | script h => exact h ▸ by decide

namespace InText

theorem takesText : TakesText lexing (tidyChar ·) fun done s =>
    ∃ inner', InText f ground frames m lexing inner' s ∧ Extends inner done inner' where
  lexing_eq := fun ⟨_, h, _⟩ => h.lexing_eq
  drops := fun ⟨_, h, _⟩ => h.drops
  take := by
    rintro done run s ⟨inner', h, hextends⟩ hrun hchars
    have hput : look (pieceOf run) s =
        (.done, Grown.grow (f :: frames) (inner'.appendText s.nextId run) s) := by
      rw [h.look_eq h.space, h.mode]
      rcases pieceOf_cases hrun hchars with hpiece | ⟨hpiece, -⟩
      · rw [hpiece]
        exact run_thenDone (h.run_putText run)
      · rw [hpiece]
        exact run_thenDone (h.run_putText run)
    exact ⟨_, (Taken.once hput).run_take, _,
      ⟨h.grow_grown (h.leafy.appendText s.nextId run).1, h.space, h.mode, h.lexing_eq, h.suited,
        h.modes, h.tableText, h.drops⟩, h.extends_appendText hextends run⟩

/-- The end tag closes the element. -/
theorem run_inText (h : InText f ground frames m lexing inner s) (hname : f.name ∈ textNames)
    (tag : Tag) : ∃ t, (take (.endTag tag)).run s = ((), t) ∧
      Inside ground frames m (f.closed inner) t := by
  have hnames : ∀ name ∈ textNames, ¬ markedNames.contains name ∧
      ¬ reopenedNames.contains name ∧ name ≠ "form" := by decide
  obtain ⟨hmarked, hreopened, hform⟩ := hnames _ hname
  have hnot : ∀ names : List String, ¬ names.contains f.name → ¬ f.element.isAny names :=
    fun names hnot hany => hnot (Bool.and_eq_true_iff.1 hany).2
  have hopen : m.form ≠ none → ∃ f ∈ frames, f.element.is "form" := by
    intro hsome
    obtain ⟨g, hg, his⟩ := h.form_open hsome
    rcases List.mem_cons.1 hg with rfl | hg
    · exact absurd (name_of_is his).2 hform
    · exact ⟨g, hg, his⟩
  have hpop : look (.endTag tag) s = (.done, { s with
      stack := frames.map Frame.element ++ [rootElement]
      mode := s.interrupted
      lexing := .data }) := by
    have hstack : s.stack.drop 1 = frames.map Frame.element ++ [rootElement] := by
      rw [h.stack]
      rfl
    rw [h.look_eq h.space, h.mode, ← hstack]
    rfl
  have hformats := h.formatting.of_cons (hnot _ hmarked) (hnot _ hreopened)
  refine ⟨_, (Taken.once hpop).run_take, ?_, h.suited, h.modes, rfl, h.tableText, h.drops⟩
  refine (h.closed_grown hformats hopen).congr ?_
  simp only [Construction.key, h.form_eq]

/-- The text of an element is read, and then its end tag. -/
theorem reads (h : InText f ground frames m lexing .nil (undropped s))
    (hlexing : textLexing? f.name = some lexing) (hname : tidyName .html f.name)
    (hchars : ∀ c ∈ cs, tidyChar c) (htidy : tidyText cs lexing)
    (hdrops : s.dropsLineFeed = true → (lexing.reread cs).head? ≠ some '\n') (rest : List Char) :
    ∃ u inner', Inside ground frames m (f.closed inner') u ∧
      Extends .nil (lexing.reread cs) inner' ∧
      Reads s (lexing.written cs ++ '<' :: (endTagTail f.name ++ rest)) u rest := by
  have hspells := spells_tidyText hlexing hchars htidy rest
  have hstart : ∃ inner', InText f ground frames m lexing inner' (undropped s) ∧
      Extends .nil [] inner' := ⟨.nil, h, .refl .nil⟩
  obtain ⟨t, ⟨inner', ht, hextends⟩, hreads⟩ :=
    takesText.reads hstart hspells (tidyChar_reread hchars _)
  obtain ⟨u, hu, hinside⟩ := ht.run_inText (mem_textNames hlexing) { name := f.name }
  have hnext := next_endTag hlexing hname rest
  have hpiece : (Piece.endTag { name := f.name }).token? = some (.endTag { name := f.name }) := rfl
  refine ⟨u, inner', hinside, hextends, ?_⟩
  refine hspells.reads_of_undropped (s := s) h.lexing_eq hdrops hpiece hnext (by simp)
    (hreads.trans (.token (ht.lexing_eq ▸ hnext) (length_lt_cons_append ..) ?_))
  rw [run_feed_mark hpiece, undropped_eq ht.drops]
  exact hu

end InText

/-- The text of an element is read where its start tag stands. -/
def HoldsText (ground : Ground) (frames : List Frame) (m : Memory) (inner : Forest)
    (lexing : Lexing) (tag : Tag) (s : Construction) : Prop :=
  ∃ t, look (.startTag tag) s = (.done, t) ∧
    InText (newFrame .html inner tag s) ground frames m lexing .nil (undropped t) ∧
    (t.dropsLineFeed = true → tag.name = "textarea")

theorem Placed.run_openText (h : Placed frames inner s) (tag : Tag) (lexing : Lexing) :
    (openText tag lexing).run s = ((), { opened frames .html inner tag s with
      interrupted := s.mode, mode := .inText, lexing }) :=
  run_bind_eq (run_discard (h.run_openElement tag)) rfl

section

variable (hlexing : textLexing? tag.name = some lexing)
include hlexing

theorem headElement_text (hname : tag.name ∈ headNames) :
    headElement tag = thenDone (openText tag lexing) := by
  have hnames : ∀ name ∈ headNames, textLexing? name ≠ none →
      name ∈ ["title", "noframes", "style", "script"] := by decide
  have hkind := hnames _ hname (hlexing ▸ by simp)
  obtain ⟨name, attributes, selfClosing⟩ := tag
  simp only [List.mem_cons, List.not_mem_nil, or_false] at hkind
  rcases hkind with rfl | rfl | rfl | rfl <;> cases hlexing <;> rfl

theorem inHead_noscript (hname : tag.name = "noscript") :
    inHead (.startTag tag) = thenDone (openText tag lexing) := by
  obtain ⟨name, attributes, selfClosing⟩ := tag
  cases hname
  cases hlexing
  rfl

theorem bodyStart_textarea (hname : tag.name = "textarea") :
    bodyStart tag = thenDone (do
      modify fun s => { s with dropsLineFeed := true, framesetAllowed := false }
      openText tag lexing) := by
  obtain ⟨name, attributes, selfClosing⟩ := tag
  cases hname
  cases hlexing
  rfl

theorem bodyStart_iframe (hname : tag.name = "iframe") :
    bodyStart tag = thenDone (do
      forbidFrameset
      openText tag lexing) := by
  obtain ⟨name, attributes, selfClosing⟩ := tag
  cases hname
  cases hlexing
  rfl

theorem bodyStart_noembed (hname : tag.name ∈ ["noembed", "noscript"]) :
    bodyStart tag = thenDone (openText tag lexing) := by
  obtain ⟨name, attributes, selfClosing⟩ := tag
  simp only [List.mem_cons, List.not_mem_nil, or_false] at hname
  rcases hname with rfl | rfl <;> cases hlexing <;> rfl

theorem bodyStart_xmp (hname : tag.name = "xmp") :
    bodyStart tag = thenDone (do
      closeParagraph
      reopenFormatting
      forbidFrameset
      openText tag lexing) := by
  obtain ⟨name, attributes, selfClosing⟩ := tag
  cases hname
  cases hlexing
  rfl

end

namespace Inside

theorem holdsText (h : Inside ground frames m inner s) (allowed drops : Bool)
    (hlexing : textLexing? tag.name = some lexing)
    (hrun : look (.startTag tag) s = (.done, { Grown.opened frames .html inner tag s with
      interrupted := s.mode, mode := .inText, lexing,
      framesetAllowed := allowed, dropsLineFeed := drops }))
    (hdrops : drops = true → tag.name = "textarea") :
    HoldsText ground frames m inner lexing tag s := by
  have hnames : ∀ name ∈ textNames, ¬ markedNames.contains name := by decide
  have hplain : ¬ (newFrame .html inner tag s).element.isAny markedNames :=
    hnames _ (mem_textNames hlexing)
  have hopened : Grown (newFrame .html inner tag s :: frames) m.form .nil
      { Grown.opened frames .html inner tag s with formatting := s.formatting, form := m.form } :=
    h.opened_grown (h.formatting.cons hplain)
      fun hsome => (h.form_open hsome).imp fun f hf => hf.imp_left (List.mem_cons_of_mem _)
  refine ⟨_, hrun, ⟨hopened.congr ?_, rfl, rfl, rfl, h.suited, h.modes, h.tableText, rfl⟩, hdrops⟩
  simp only [Construction.key, undropped, Grown.opened, Grown.grow, h.form_eq]

/-- The text of an element is read whose start tag opens it and nothing else. -/
theorem holdsText_of_open (h : Inside ground frames m inner s)
    (hlexing : textLexing? tag.name = some lexing)
    (hlook : look (.startTag tag) s = (thenDone (openText tag lexing)).run s) :
    HoldsText ground frames m inner lexing tag s :=
  h.holdsText s.framesetAllowed s.dropsLineFeed hlexing
    (hlook.trans (run_thenDone (h.run_openText tag lexing)))
    fun hd => absurd (h.drops.symm.trans hd) (by decide)

/-- The text of an element of the head is read. -/
theorem holdsText_head (h : Inside ground frames m inner s) (hname : tag.name ∈ ground.headNames)
    (hlexing : textLexing? tag.name = some lexing) :
    HoldsText ground frames m inner lexing tag s := by
  refine h.holdsText_of_open hlexing ?_
  rw [h.look_head hname, headElement_text hlexing (Ground.mem_headNames hname)]

/-- In the head the text of `noscript` is read. -/
theorem holdsText_noscript (h : Inside .head frames m inner s) (hname : tag.name = "noscript")
    (hlexing : textLexing? tag.name = some lexing) :
    HoldsText .head frames m inner lexing tag s := by
  have hmode : s.mode = .inHead := h.suited.suits
  refine h.holdsText_of_open hlexing ?_
  rw [h.look_eq h.suited.fits, hmode, ← inHead_noscript hlexing hname]
  rfl

/-- Among text the text of a leaf is read. -/
theorem holdsText_leaf (h : Inside .flow frames m inner s) (hname : tag.name ∈ leafNames)
    (hlexing : textLexing? tag.name = some lexing) :
    HoldsText .flow frames m inner lexing tag s := by
  have hparts : ∀ name ∈ leafNames,
      name ∉ tablePartNames ∧ name ∉ ["mglyph", "malignmark"] := by decide
  have hlook := h.look_start (hparts _ hname)
  have hleaf : ∀ name ∈ leafNames, textLexing? name ≠ none →
      name = "textarea" ∨ name = "iframe" ∨ name ∈ ["noembed", "noscript"] := by decide
  rcases hleaf _ hname (hlexing ▸ by simp) with hkind | hkind | hkind
  · have hplaced : Placed frames inner { s with dropsLineFeed := true, framesetAllowed := false } :=
      { h.toPlaced with }
    refine h.holdsText false true hlexing ?_ (fun _ => hkind)
    rw [hlook, bodyStart_textarea hlexing hkind]
    exact run_thenDone (run_bind_eq rfl (hplaced.run_openText tag lexing))
  · have hplaced : Placed frames inner { s with framesetAllowed := false } := { h.toPlaced with }
    refine h.holdsText false s.dropsLineFeed hlexing ?_
      (fun hd => absurd (h.drops.symm.trans hd) (by decide))
    rw [hlook, bodyStart_iframe hlexing hkind]
    exact run_thenDone (run_bind_eq rfl (hplaced.run_openText tag lexing))
  · exact h.holdsText_of_open hlexing (by rw [hlook, bodyStart_noembed hlexing hkind])

/-- Where no paragraph is open, the text of a listing is read. -/
theorem holdsText_xmp (h : Inside .flow frames m inner s) (hname : tag.name = "xmp")
    (hp : inParagraph (outline frames) = false) (hlexing : textLexing? tag.name = some lexing) :
    HoldsText .flow frames m inner lexing tag s := by
  have hplaced : Placed frames inner { s with framesetAllowed := false } := { h.toPlaced with }
  refine h.holdsText false s.dropsLineFeed hlexing ?_
    (fun hd => absurd (h.drops.symm.trans hd) (by decide))
  rw [h.look_start (hname ▸ by decide), bodyStart_xmp hlexing hname]
  refine run_thenDone (run_bind_eq (h.run_closeParagraph hp) ?_)
  refine run_bind_eq h.run_reopenFormatting ?_
  exact run_bind_eq rfl (hplaced.run_openText tag lexing)

/-- Among text the text of an element that may stand there is read. -/
theorem holdsText_flow (h : Inside .flow frames m inner s)
    (hstands : StandsInFlow (outline frames) tag.name)
    (hlexing : textLexing? tag.name = some lexing) :
    HoldsText .flow frames m inner lexing tag s := by
  have hnames : ∀ name ∈ textNames, name ∈ peculiarNames ∧ name ∉ holderNames := by decide
  obtain ⟨hpeculiar, hholder⟩ := hnames _ (mem_textNames hlexing)
  rcases hstands.anywhere_or_block hpeculiar hholder with hname | ⟨hname, hp⟩
  · rcases List.mem_append.1 hname with hhead | hleaf
    · exact h.holdsText_head hhead hlexing
    · exact h.holdsText_leaf hleaf hlexing
  · have hxmp : ∀ name ∈ nonParagraphNames, textLexing? name ≠ none → name = "xmp" := by decide
    exact h.holdsText_xmp (hxmp _ hname (hlexing ▸ by simp)) hp hlexing

end Inside

end ReleaseListing.Html
