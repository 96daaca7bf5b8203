import ReleaseListing.Proofs.Html.Trees

/-!
# The head and the body of a tidy page

Around the trees of a tidy page stand its head and its body, or frames instead of a body, or tags
from which they are implied. What is written for a whole page is read as a page with the same links
(`Unread.reads_page`).
-/

namespace ReleaseListing.Html

open Construct Forest

variable {s t u : Construction} {piece : Piece} {cs rest run done mark : List Char} {g : Frame}
  {f children inner inner' : Forest} {tag : Tag} {name words : String} {ground : Ground}
  {attributes : List Attribute} {stage : Stage} {links : List Anchor}

/-! ## In `html` -/

/-- The mode in which the children of `html` are read. -/
def Forest.Stage.mode : Stage → Mode
  | .start => .beforeHead
  | .head => .afterHead
  | .body => .afterBody
  | .frames => .afterFrameset

/-- Around the head and the body no form and no template is open. -/
def unformed : Memory := ⟨none, []⟩

/-- Only `html` is open, which holds `inner`, and has no body. -/
structure InHtml (stage : Stage) (inner : Forest) (s : Construction) : Prop
    extends Grown [] none inner s where
  ne_body : stage ≠ .body
  mode_eq : s.mode = stage.mode
  templateModes : s.templateModes = []
  lexing : s.lexing = .data
  tableText : s.tableText = []
  drops : s.dropsLineFeed = false

namespace InHtml

theorem undropped_eq (h : InHtml stage inner s) : undropped s = s :=
  ReleaseListing.Html.undropped_eq h.drops

theorem look_eq (h : InHtml stage inner s) (piece : Piece) :
    look piece s = (inMode stage.mode piece).run s :=
  h.mode_eq ▸ h.toPlaced.look_eq rfl piece

theorem grow (h : InHtml stage inner s) (hleafy : inner'.Leafy) :
    InHtml stage inner' (Grown.grow [] inner' s) :=
  ⟨h.grow_grown hleafy, h.ne_body, h.mode_eq, h.templateModes, h.lexing, h.tableText, h.drops⟩

/-- A mark is read as it is taken. -/
theorem reads_mark (h : InHtml stage inner s) (hmarks : Marks mark piece) (htaken : Taken piece s t)
    (rest : List Char) : Reads s (mark ++ rest) t rest := by
  obtain ⟨⟨tail, rfl⟩, token, hpiece, hnext⟩ := hmarks
  refine .token (h.lexing ▸ (hnext · rest)) (length_lt_cons_append ..) ?_
  rw [run_feed_mark hpiece, h.undropped_eq]
  exact htaken.run_take

/-! ### Text and comments -/

/-- Blank text is left out in front of the head, and kept behind it. -/
theorem takesText (stage : Stage) (links : List Anchor) :
    TakesText .data (fun c => tidyChar c ∧ isSpace c) fun _ s =>
      ∃ inner, InHtml stage inner s ∧ inner.links = links where
  lexing_eq := fun ⟨_, h, _⟩ => h.lexing
  drops := fun ⟨_, h, _⟩ => h.drops
  take := by
    rintro done run s ⟨inner, h, rfl⟩ hrun hchars
    have hpiece : pieceOf run = .blank run := by
      rcases pieceOf_cases hrun fun c hc => (hchars c hc).1 with hpiece | ⟨-, hnot⟩
      · exact hpiece
      · exact absurd (fun c hc => (hchars c hc).2) hnot
    have hput : look (.blank run) s = (thenDone (putText run)).run s →
        ∃ t, (take (.blank run)).run s = ((), t) ∧
          ∃ inner', InHtml stage inner' t ∧ inner'.links = inner.links := fun hlook => by
      obtain ⟨hleafy, -, hlinks⟩ := h.leafy.appendText s.nextId run
      exact ⟨_, (Taken.once (hlook.trans (run_thenDone (h.run_putText run)))).run_take, _,
        h.grow hleafy, hlinks⟩
    have hlook := h.look_eq (.blank run)
    rw [hpiece]
    cases stage with
    | start => exact ⟨s, (Taken.once hlook).run_take, inner, h, rfl⟩
    | head | frames => exact hput hlook
    | body => exact absurd rfl h.ne_body

theorem reads_text (h : InHtml stage inner s) (hchars : ∀ c ∈ cs, tidyChar c ∧ isSpace c)
    (rest : List Char) : ∃ t inner', InHtml stage inner' t ∧ inner'.links = inner.links ∧
      Reads s (cs.flatMap escapeText ++ '<' :: rest) t ('<' :: rest) := by
  have hspells : Spells .data ('<' :: rest) (cs.flatMap escapeText ++ '<' :: rest) cs :=
    spells_flatMap (by trivial : Lexing.data.resolves)
      (ne_nul_of_tidyChar fun c hc => (hchars c hc).1) rest
  have hstart : ∃ inner', InHtml stage inner' s ∧ inner'.links = inner.links := ⟨inner, h, rfl⟩
  obtain ⟨t, ⟨inner', ht, hlinks⟩, hreads⟩ :=
    @TakesText.reads s _ _ _ _ _ [] _ (takesText stage inner.links) hstart hspells hchars
  exact ⟨t, inner', ht, hlinks, hreads⟩

/-- A comment is put where it stands. -/
theorem taken_comment (h : InHtml stage inner s) (words : String) :
    ∃ t inner', Taken (.comment words) s t ∧ InHtml stage inner' t ∧
      inner'.links = inner.links := by
  have hleafy : (inner ++ Placed.commentTree words s).Leafy :=
    h.leafy.append (leafy_single fun _ => Content.noConfusion)
  refine ⟨_, _, .once ((h.look_eq _).trans ?_), h.grow hleafy, ?_⟩
  · cases stage with
    | body => exact absurd rfl h.ne_body
    | _ => exact run_thenDone (h.run_putComment words)
  · rw [links_append, Placed.commentTree, links_single]
    exact List.append_nil _

end InHtml

/-! ## Behind the body -/

/-- The body or the frames have been read, and comments may follow, in `html` or behind it. -/
structure BehindBody (mode : Mode) (links : List Anchor) (s : Construction) : Prop where
  late : mode ∈ [.afterBody, .afterAfterBody, .afterAfterFrameset]
  stack : ∃ e es, s.stack = e :: es ∧ e.space = .html
  links_eq : s.children.links = links
  mode_eq : s.mode = mode
  lexing : s.lexing = .data
  drops : s.dropsLineFeed = false

namespace BehindBody

variable {mode : Mode}

theorem look_eq (h : BehindBody mode links s) (piece : Piece) :
    look piece s = (inMode mode piece).run s := by
  obtain ⟨e, es, hstack, hspace⟩ := h.stack
  rw [← h.mode_eq]
  refine ReleaseListing.Html.look_eq ?_
  rw [hstack]
  exact isForeign_eq_false hspace piece

theorem reads_mark (h : BehindBody mode links s) (hmarks : Marks mark piece)
    (hlook : look piece s = (.done, t)) (rest : List Char) : Reads s (mark ++ rest) t rest := by
  obtain ⟨⟨tail, rfl⟩, token, hpiece, hnext⟩ := hmarks
  refine .token (h.lexing ▸ (hnext · rest)) (length_lt_cons_append ..) ?_
  rw [run_feed_mark hpiece, undropped_eq h.drops]
  exact (Taken.once hlook).run_take

/-- A comment is put in `html` or behind it. -/
theorem look_comment (h : BehindBody mode links s) (words : String) :
    ∃ t, look (.comment words) s = (.done, t) ∧ BehindBody mode links t := by
  obtain ⟨e, es, hstack, hspace⟩ := h.stack
  have hput : (putCommentOutside words).run s =
      ((), { s with epilog := .comment words :: s.epilog }) := by
    show ((), if s.stack.isEmpty then _ else _) = _
    rw [hstack]
    rfl
  have houtside : BehindBody mode links { s with epilog := .comment words :: s.epilog } :=
    ⟨h.late, h.stack, h.links_eq, h.mode_eq, h.lexing, h.drops⟩
  have hlate := h.late
  rw [h.look_eq]
  simp only [List.mem_cons, List.not_mem_nil, or_false] at hlate
  rcases hlate with rfl | rfl | rfl
  · refine ⟨{ s with
      nextId := s.nextId + 2
      children := s.children ++ .single s.nextId (.comment words) .nil }, rfl, h.late, h.stack, ?_,
      h.mode_eq, h.lexing, h.drops⟩
    rw [links_append, links_single, h.links_eq]
    exact List.append_nil _
  · exact ⟨_, run_thenDone hput, houtside⟩
  · exact ⟨_, run_thenDone hput, houtside⟩

/-- Comments behind the body are read, and put somewhere. -/
theorem reads_comment (h : BehindBody mode links s) (htidy : tidyComment words.toList)
    (rest : List Char) :
    ∃ t, BehindBody mode links t ∧
      Reads s ((Content.comment words).opening false ++ rest) t rest := by
  obtain ⟨t, hlook, ht⟩ := h.look_comment words
  exact ⟨t, ht, h.reads_mark (marks_comment htidy) hlook rest⟩

end BehindBody

/-- The page has been read up to the end tag of `html`. -/
def Ended (links : List Anchor) (s : Construction) : Prop :=
  ∃ mode, mode ∈ [Mode.afterAfterBody, .afterAfterFrameset] ∧ BehindBody mode links s

/-- The end tag of `html` ends it. -/
theorem BehindBody.look_end (h : BehindBody .afterBody links s) :
    ∃ t, look (.endTag { name := "html" }) s = (.done, t) ∧ Ended links t :=
  ⟨{ s with mode := .afterAfterBody }, h.look_eq _, .afterAfterBody, by decide, by decide, h.stack,
    h.links_eq, rfl, h.lexing, h.drops⟩

/-! ## The head and the body -/

/-- What is no anchor adds no link to those in it. -/
theorem Frame.links_closed (hname : g.name ≠ "a") (children : Forest) :
    (g.closed children).links = g.before.links ++ children.links := by
  have hown : ownLink g.content (g.holding children) = [] := by
    simp [ownLink, Frame.content, Content.link?, hname]
  rw [Frame.closed, links_append, links_single, hown, List.nil_append, Frame.links_holding]

/-- The head or the frames have been closed. -/
theorem Inside.inHtml (h : Inside ground [g] unformed inner s)
    (hname : g.name ∈ ["head", "frameset"]) (hmodes : s.templateModes = [])
    (hstage : stage ≠ .body) :
    InHtml stage (g.closed inner) { s with stack := [rootElement], mode := stage.mode } := by
  have hplain : ∀ name ∈ ["head", "frameset"], name ∉ markedNames ∧ name ∉ reopenedNames := by
    decide
  have hnot : ∀ names : List String, g.name ∉ names → ¬ g.element.isAny names :=
    fun names hnot hany => hnot (List.contains_iff_mem.1 (Bool.and_eq_true_iff.1 hany).2)
  have hfs : Formats ([].map Frame.element) s.formatting :=
    h.formatting.of_cons (hnot _ (hplain _ hname).1) (hnot _ (hplain _ hname).2)
  have hclosed : Grown [] none (g.closed inner) { s with
      stack := [rootElement], formatting := s.formatting, form := none } :=
    h.closed_grown hfs (by simp)
  have hform : s.form = none := h.form_eq
  exact ⟨hclosed.congr (by simp [Construction.key, hform]), hstage, rfl, hmodes, h.lexing,
    h.tableText, h.drops⟩

theorem Inside.run_popHead (h : Inside .head [g] unformed inner s) (hname : g.name = "head") :
    ∃ t, (do pop; setMode .afterHead : Construct Unit).run s = ((), t) ∧
      InHtml .head (g.closed inner) t :=
  ⟨_, run_popTo h.stack _, h.inHtml (by simp [hname]) h.modes (by decide)⟩

theorem Inside.look_endHead (h : Inside .head [g] unformed inner s) (hname : g.name = "head") :
    ∃ t, look (.endTag { name := "head" }) s = (.done, t) ∧ InHtml .head (g.closed inner) t := by
  have hmode : s.mode = .inHead := h.suited.suits
  obtain ⟨t, hrun, ht⟩ := h.run_popHead hname
  rw [h.look_eq h.suited.fits, hmode]
  exact ⟨t, run_thenDone hrun, ht⟩

theorem Inside.look_endFrames (h : Inside .frames [g] unformed inner s) :
    ∃ t, look (.endTag { name := "frameset" }) s = (.done, t) ∧
      InHtml .frames (g.closed inner) t := by
  have hmode : s.mode = .inFrameset := h.suited.suits
  have hself : g.element.is "frameset" = true := h.suited.fits
  have hname : g.name = "frameset" := (name_of_is hself).2
  refine ⟨_, ?_, h.inHtml (by simp [hname]) h.modes (by decide)⟩
  rw [h.look_eq (name_of_is hself).1, hmode]
  exact run_endFrames h.stack

/-- Among the trees of the body. -/
theorem Inside.mode_body (h : Inside .flow [g] unformed inner s) (hbody : g.element.is "body") :
    s.mode = .inBody := by
  obtain ⟨hspace, hname⟩ := name_of_is hbody
  rw [← h.suited.modeOf_eq.resolve_left (by decide) s rfl, List.map_cons, List.cons_append, modeOf]
  simp [hspace, hname]

theorem Inside.run_hasBody (h : Inside ground [g] unformed inner s) (hbody : g.element.is "body") :
    (hasInScope endsScope (·.is "body")).run s = (true, s) :=
  run_hasInScope_head h.stack hbody

/-- The body stays open behind its end. -/
theorem Inside.behindBody (h : Inside ground [g] unformed inner s) (hspace : g.space = .html) :
    BehindBody .afterBody (g.closed inner).links { s with mode := .afterBody } where
  late := List.mem_cons_self
  stack := ⟨g.element, _, h.stack, hspace⟩
  links_eq := congrArg links h.children
  mode_eq := rfl
  lexing := h.lexing
  drops := h.drops

theorem Inside.look_endBody (h : Inside .flow [g] unformed inner s) (hbody : g.element.is "body") :
    ∃ t, look (.endTag { name := "body" }) s = (.done, t) ∧
      BehindBody .afterBody (g.closed inner).links t := by
  have hspace := (name_of_is hbody).1
  rw [h.look_eq hspace, h.mode_body hbody]
  exact ⟨_, run_thenDone (run_if_pos (h.run_hasBody hbody) rfl), h.behindBody hspace⟩

namespace InHtml

/-- The start tag of a part of the page opens it in `html`. -/
theorem inside_part (h : InHtml stage inner s) (tag : Tag) (allowed : Bool)
    (head : Option OpenElement) {mode : Mode} (hpart : tag.name = "head" ∧ ground = .head ∧ mode = .inHead ∨
      tag.name = "body" ∧ ground = .flow ∧ mode = .inBody ∨
      tag.name = "frameset" ∧ ground = .frames ∧ mode = .inFrameset) :
    Inside ground [Grown.newFrame .html inner tag s] unformed .nil
      { Grown.opened [] .html inner tag s with head, framesetAllowed := allowed, mode } := by
  have hsuited : Suited ground [Grown.newFrame .html inner tag s] s.templateModes mode := by
    refine ⟨?_, ?_, .inr fun s' _ => ?_⟩
    · rcases hpart with ⟨hname, rfl, -⟩ | ⟨hname, rfl, -⟩ | ⟨hname, rfl, -⟩
      · rfl
      · exact .inl rfl
      · have hself := is_newFrame inner tag s
        rwa [hname] at hself
    · rcases hpart with ⟨-, rfl, rfl⟩ | ⟨-, rfl, rfl⟩ | ⟨-, rfl, rfl⟩
      · rfl
      · exact .inl rfl
      · rfl
    · rcases hpart with ⟨hname, -, rfl⟩ | ⟨hname, -, rfl⟩ | ⟨hname, -, rfl⟩ <;>
        simp [modeOf, Frame.element, Grown.newFrame, hname]
  have hmodes : s.templateModes = ground.modes mode unformed.modes := by
    rcases hpart with ⟨-, rfl, -⟩ | ⟨-, rfl, -⟩ | ⟨-, rfl, -⟩ <;> exact h.templateModes
  have hplain : ¬ (Grown.newFrame .html inner tag s).element.isAny markedNames := by
    rw [isAny_newFrame]
    rcases hpart with ⟨hname, -⟩ | ⟨hname, -⟩ | ⟨hname, -⟩ <;> rw [hname] <;> decide
  have hopened : Grown [Grown.newFrame .html inner tag s] none .nil
      { Grown.opened [] .html inner tag s with formatting := s.formatting, form := none } :=
    h.opened_grown (h.formatting.cons hplain) (by simp)
  refine ⟨hopened.congr ?_, hsuited, hmodes, h.lexing, h.tableText, h.drops⟩
  simp [Construction.key, Grown.opened, Grown.grow, h.form_eq]

/-- The start tag of the head opens it. -/
theorem run_beginHead (h : InHtml .start inner s) (hname : tag.name = "head") :
    ∃ t, (beginHead tag).run s = ((), t) ∧
      Inside .head [Grown.newFrame .html inner tag s] unformed .nil t :=
  ⟨_, run_bind_eq (h.run_openElement tag) rfl,
    h.inside_part tag s.framesetAllowed _ (.inl ⟨hname, rfl, rfl⟩)⟩

/-- A piece in front of the head that belongs neither there nor into the head is looked at behind
it. -/
theorem exists_behind_head (h : InHtml .start inner s)
    (hbefore : beforeHead piece = (do beginHead { name := "head" }; return .again))
    (hin : inHead piece = (do pop; againIn .afterHead)) :
    ∃ t inner', InHtml .head inner' t ∧ inner'.links = inner.links ∧
      ∀ {looks u}, Takes piece looks t u → Takes piece (looks + 2) s u := by
  have hname : ({ name := "head" } : Tag).name = "head" := rfl
  obtain ⟨s₁, hbegin, hs₁⟩ := h.run_beginHead hname
  obtain ⟨s₂, hpop, hs₂⟩ := hs₁.run_popHead rfl
  have hmode : s₁.mode = .inHead := hs₁.suited.suits
  refine ⟨s₂, _, hs₂, ?_, fun hlater => .again ((h.look_eq _).trans ?_)
    (.again ((hs₁.look_eq hs₁.suited.fits _).trans ?_) hlater)⟩
  · rw [Frame.links_closed (show "head" ≠ "a" by decide)]
    exact List.append_nil _
  · show (beforeHead piece).run s = _
    rw [hbefore]
    exact run_bind_eq hbegin rfl
  · rw [hmode]
    show (inHead piece).run s₁ = _
    rw [hin]
    show (_, ((do pop; setMode .afterHead : Construct Unit).run s₁).2) = _
    rw [hpop]

/-- The start tag opens a part of the page, behind a head that may be implied. -/
def OpensPart (ground : Ground) (inner : Forest) (tag : Tag) (s : Construction) : Prop :=
  ∃ t g, Taken (.startTag tag) s t ∧ Inside ground [g] unformed .nil t ∧ g.space = .html ∧
    g.name = tag.name ∧ g.before.links = inner.links

theorem opensPart_head (h : InHtml .start inner s) (hname : tag.name = "head") :
    OpensPart .head inner tag s := by
  have hstart : beforeHead (.startTag tag) = thenDone (beginHead tag) := by
    obtain ⟨name, attributes, selfClosing⟩ := tag
    cases hname
    rfl
  obtain ⟨t, hbegin, ht⟩ := h.run_beginHead hname
  refine ⟨t, _, .once ((h.look_eq _).trans ?_), ht, rfl, rfl, rfl⟩
  show (beforeHead (.startTag tag)).run s = _
  rw [hstart]
  exact run_thenDone hbegin

/-- What opens a body or frames behind the head, opens them in front of it, too. -/
theorem opensPart_late (h : InHtml stage inner s) (hstage : stage ∈ [Stage.start, .head])
    (hname : tag.name ∈ ["body", "frameset"])
    (hopens : ∀ {inner s}, InHtml .head inner s → ∃ t, look (.startTag tag) s = (.done, t) ∧
      Inside ground [Grown.newFrame .html inner tag s] unformed .nil t) :
    OpensPart ground inner tag s := by
  simp only [List.mem_cons, List.not_mem_nil, or_false] at hstage
  rcases hstage with rfl | rfl
  · have hbefore : beforeHead (.startTag tag) = (do beginHead { name := "head" }; return .again) ∧
        inHead (.startTag tag) = (do pop; againIn .afterHead) := by
      obtain ⟨name, attributes, selfClosing⟩ := tag
      simp only [List.mem_cons, List.not_mem_nil, or_false] at hname
      rcases hname with rfl | rfl <;> exact ⟨rfl, rfl⟩
    obtain ⟨s', inner', hs', hlinks, hlater⟩ := h.exists_behind_head hbefore.1 hbefore.2
    obtain ⟨t, hlook, ht⟩ := hopens hs'
    exact ⟨t, _, ⟨2, by decide, hlater (.done hlook)⟩, ht, rfl, rfl, hlinks⟩
  · obtain ⟨t, hlook, ht⟩ := hopens h
    exact ⟨t, _, .once hlook, ht, rfl, rfl, rfl⟩

theorem opensPart_body (h : InHtml stage inner s) (hstage : stage ∈ [Stage.start, .head])
    (hname : tag.name = "body") : OpensPart .flow inner tag s := by
  refine h.opensPart_late hstage (by simp [hname]) fun {inner s} h => ?_
  have hstart : inMode Stage.head.mode (.startTag tag) = thenDone (do
      discard (openElement tag)
      forbidFrameset
      setMode .inBody) := by
    obtain ⟨name, attributes, selfClosing⟩ := tag
    cases hname
    rfl
  refine ⟨_, (h.look_eq _).trans ?_, h.inside_part tag false s.head (.inr (.inl ⟨hname, rfl, rfl⟩))⟩
  rw [hstart]
  exact run_thenDone (run_bind_eq (run_discard (h.run_openElement tag)) rfl)

theorem opensPart_frames (h : InHtml stage inner s) (hstage : stage ∈ [Stage.start, .head])
    (hname : tag.name = "frameset") : OpensPart .frames inner tag s := by
  refine h.opensPart_late hstage (by simp [hname]) fun {inner s} h => ?_
  have hstart : inMode Stage.head.mode (.startTag tag) = thenDone (do
      discard (openElement tag)
      setMode .inFrameset) := by
    obtain ⟨name, attributes, selfClosing⟩ := tag
    cases hname
    rfl
  refine ⟨_, (h.look_eq _).trans ?_,
    h.inside_part tag s.framesetAllowed s.head (.inr (.inr ⟨hname, rfl, rfl⟩))⟩
  rw [hstart]
  exact run_thenDone (run_bind_eq (run_discard (h.run_openElement tag)) rfl)

/-- The end tag of `html` ends it, behind a body that is implied. -/
theorem takes_end_of_head (h : InHtml .head inner s) :
    ∃ t, Takes (.endTag { name := "html" }) 2 s t ∧ Ended inner.links t := by
  have hbody := h.inside_part { name := "body" } s.framesetAllowed s.head
    (.inr (.inl ⟨rfl, rfl, rfl⟩))
  have hbegin : look (.endTag { name := "html" }) s = (.again,
      { Grown.opened [] .html inner { name := "body" } s with
        head := s.head, framesetAllowed := s.framesetAllowed, mode := .inBody }) :=
    (h.look_eq _).trans (run_bind_eq (run_discard (h.run_openElement _)) rfl)
  obtain ⟨t, hend, ht⟩ := (hbody.behindBody rfl).look_end
  refine ⟨t, .again hbegin (.again ?_ (.done hend)), ?_⟩
  · exact (hbody.look_eq rfl _).trans (run_bind_eq (hbody.run_hasBody rfl) rfl)
  · rw [Frame.links_closed (show "body" ≠ "a" by decide), links_nil, List.append_nil] at ht
    exact ht

/-- The end tag of `html` ends it, behind a head and a body that may be implied, or frames. -/
theorem taken_end (h : InHtml stage inner s) :
    ∃ t, Taken (.endTag { name := "html" }) s t ∧ Ended inner.links t := by
  cases stage with
  | start =>
    have hbefore : beforeHead (.endTag { name := "html" }) =
        (do beginHead { name := "head" }; return .again) := rfl
    have hin : inHead (.endTag { name := "html" }) = (do pop; againIn .afterHead) := rfl
    obtain ⟨s', inner', hs', hlinks, hlater⟩ := h.exists_behind_head hbefore hin
    obtain ⟨t, htakes, ht⟩ := hs'.takes_end_of_head
    exact ⟨t, ⟨_, by decide, hlater htakes⟩, hlinks ▸ ht⟩
  | head =>
    obtain ⟨t, htakes, ht⟩ := h.takes_end_of_head
    exact ⟨t, ⟨_, by decide, htakes⟩, ht⟩
  | body => exact absurd rfl h.ne_body
  | frames =>
    refine ⟨{ s with mode := .afterAfterFrameset }, .once (h.look_eq _), .afterAfterFrameset,
      by decide, by decide, ⟨rootElement, [], h.stack, rfl⟩, congrArg links h.children, rfl,
      h.lexing, h.drops⟩

end InHtml

/-! ## The children of `html` -/

theorem marks_endHtml (h : tidyName .html name) :
    Marks ('<' :: endTagTail name) (.endTag { name }) := by
  have hmarks := marks_end h
  rwa [lowerName_eq h] at hmarks

/-- What is written for a part of the page is read up to its end tag. -/
theorem Inside.reads_children (h : Inside ground [g] unformed .nil s) (hspace : g.space = .html)
    (htidy : children.tidy ground [around .html g.name]) (hname : tidyName .html g.name)
    (rest : List Char) :
    ∃ t inner, Inside ground [g] unformed inner t ∧ inner.links = children.links ∧
      ∀ u, look (.endTag { name := g.name }) t = (.done, u) →
        Reads s (children.renderChars false ++ ('<' :: endTagTail g.name ++ rest)) u rest := by
  have htidy' : children.tidy ground (outline [g]) := by
    rw [outline, List.map_singleton, hspace]
    exact htidy
  have hrereads := Inside.rereads children [] (h.undropped_eq.symm ▸ h) htidy' (by simp)
    fun hd => absurd (h.drops.symm.trans hd) (by decide)
  obtain ⟨t, inner, ht, hgains, hread⟩ := hrereads (marks_endHtml hname) rest
  exact ⟨t, inner, ht, hgains.2, fun u hu => hread u (.once hu)⟩

/-- What is written for comments behind the body is read. -/
theorem BehindBody.reads_html (h : BehindBody .afterBody links s) (htidy : f.tidyHtml .body)
    (rest : List Char) : ∃ t, Ended (links ++ f.links) t ∧
      Reads s (f.renderChars false ++ ('<' :: endTagTail "html" ++ rest)) t rest := by
  induction f generalizing s with
  | nil =>
    obtain ⟨t, hlook, ht⟩ := h.look_end
    rw [links_nil, List.append_nil]
    exact ⟨t, ht, h.reads_mark (marks_endHtml (by decide)) hlook rest⟩
  | node i c children next _ ihn =>
    obtain ⟨later, hpart, hnext⟩ := tidyHtml_node htidy
    cases hpart with
    | blank hstage _ => exact absurd rfl hstage
    | body hstage _ _ => exact absurd hstage (by decide)
    | frames hstage _ _ => exact absurd hstage (by decide)
    | @comment _ words hwords =>
      obtain ⟨t, ht, hreads⟩ :=
        h.reads_comment hwords (next.renderChars false ++ ('<' :: endTagTail "html" ++ rest))
      obtain ⟨u, hu, hreads'⟩ := ihn ht hnext
      refine ⟨u, hu, ?_⟩
      rw [renderChars_node, List.append_assoc]
      exact hreads.trans hreads'

/-- A mark is read, behind blank text. -/
theorem InHtml.reads_behind_text (h : InHtml stage inner s)
    (hchars : ∀ c ∈ cs, tidyChar c ∧ isSpace c) (hmarks : Marks mark piece)
    {P : Construction → Prop}
    (htakes : ∀ {inner' t}, InHtml stage inner' t → inner'.links = inner.links →
      ∃ u, Taken piece t u ∧ P u) (rest : List Char) :
    ∃ u, P u ∧ Reads s (cs.flatMap escapeText ++ (mark ++ rest)) u rest := by
  obtain ⟨tail, rfl⟩ := hmarks.start
  obtain ⟨t, inner', ht, hlinks, hreads⟩ := h.reads_text hchars (tail ++ rest)
  obtain ⟨u, htaken, hu⟩ := htakes ht hlinks
  exact ⟨u, hu, hreads.trans (ht.reads_mark hmarks htaken rest)⟩

theorem links_part (hname : name ≠ "a") (i : Nat) (attributes : List Attribute)
    (children next : Forest) :
    (node i (.element .html name attributes) children next).links =
      children.links ++ next.links := by
  rw [links_node]
  simp [ownLink, Content.link?, hname]

/-- What is written for a part of the page is read, behind blank text. -/
theorem InHtml.reads_part (h : InHtml stage inner s) (hchars : ∀ c ∈ cs, tidyChar c ∧ isSpace c)
    (htag : tidyTag .html name attributes) (hname : name ∈ ["head", "body", "frameset"])
    (hopens : ∀ {inner' t}, InHtml stage inner' t →
      OpensPart ground inner' (startTag name attributes) t)
    (htidy : children.tidy ground [around .html name]) {P : List Anchor → Construction → Prop}
    (hend : ∀ {g inner' t}, Inside ground [g] unformed inner' t → g.space = .html → g.name = name →
      ∃ u, look (.endTag { name }) t = (.done, u) ∧ P (g.closed inner').links u)
    (i : Nat) (next : Forest) (source : List Char) :
    ∃ t, P (inner.links ++ children.links) t ∧ Reads s (cs.flatMap escapeText ++
        ((node i (.element .html name attributes) children next).renderChars false ++ source)) t
      (next.renderChars false ++ source) := by
  have hnames : ∀ name ∈ ["head", "body", "frameset"],
      name ≠ "a" ∧ contentsOf .html name ≠ .nothing ∧ rawTextNames.contains name = false := by
    decide
  obtain ⟨hlink, hcontents, hraw⟩ := hnames _ hname
  let later := next.renderChars false ++ source
  have hmarks := marks_start htag
  rw [rereadTag_eq htag] at hmarks
  obtain ⟨t, ⟨g, ht, hspace, hg, hbefore⟩, hreads⟩ := h.reads_behind_text hchars hmarks
    (P := fun t => ∃ g, Inside ground [g] unformed .nil t ∧ g.space = .html ∧ g.name = name ∧
      g.before.links = inner.links)
    (fun ht hlinks => by
      obtain ⟨u, g, htaken, hu, hspace, hname, hbefore⟩ := hopens ht
      exact ⟨u, htaken, g, hu, hspace, hname, hbefore.trans hlinks⟩)
    (children.renderChars false ++ ('<' :: endTagTail name ++ later))
  subst hg
  obtain ⟨t', inner', ht', hlinks, hreads'⟩ :=
    ht.reads_children hspace htidy (tidyTag_iff.1 htag).1 later
  obtain ⟨u, hlook, hu⟩ := hend ht' hspace rfl
  refine ⟨u, ?_, ?_⟩
  · rw [Frame.links_closed hlink, hbefore, hlinks] at hu
    exact hu
  · rw [renderChars_node, closing_element hcontents, Content.holdsRawText, hraw]
    simp only [List.append_assoc]
    exact hreads.trans (hreads' u hlook)

/-- What is written for the children of `html` is read, from the place of the stage on. In front of
them stands the blank text `cs`. -/
theorem InHtml.reads_html (h : InHtml stage inner s) (htidy : f.tidyHtml stage)
    (hchars : ∀ c ∈ cs, tidyChar c ∧ isSpace c) (rest : List Char) :
    ∃ t, Ended (inner.links ++ f.links) t ∧
      Reads s (cs.flatMap escapeText ++
        (f.renderChars false ++ ('<' :: endTagTail "html" ++ rest))) t rest := by
  induction f generalizing stage inner s cs with
  | nil =>
    rw [links_nil, List.append_nil]
    refine h.reads_behind_text hchars (marks_endHtml (by decide)) (fun ht hlinks => ?_) rest
    obtain ⟨u, htaken, hu⟩ := ht.taken_end
    exact ⟨u, htaken, hlinks ▸ hu⟩
  | node i c children next _ ihn =>
    obtain ⟨later, hpart, hnext⟩ := tidyHtml_node htidy
    have hnone : ∀ c ∈ ([] : List Char), tidyChar c ∧ isSpace c := by simp
    cases hpart with
    | @blank _ ds _ hchars' =>
      obtain ⟨t, ht, hreads⟩ := ihn h hnext (List.forall_mem_append.2 ⟨hchars, hchars'⟩)
      refine ⟨t, ht, ?_⟩
      rw [List.flatMap_append, List.append_assoc] at hreads
      have hrender : (Forest.node i (.text ds) .nil next).renderChars false =
          ds.flatMap escapeText ++ next.renderChars false := renderChars_node false i _ .nil next
      rw [hrender, List.append_assoc]
      exact hreads
    | @comment _ words hwords =>
      obtain ⟨t, ⟨inner', ht, hlinks⟩, hreads⟩ :=
        h.reads_behind_text hchars (marks_comment hwords)
          (P := fun t => ∃ inner', InHtml stage inner' t ∧ inner'.links = inner.links)
          (fun ht hlinks => by
            obtain ⟨u, inner', htaken, hu, hlinks'⟩ := ht.taken_comment words
            exact ⟨u, htaken, inner', hu, hlinks'.trans hlinks⟩)
          (next.renderChars false ++ ('<' :: endTagTail "html" ++ rest))
      obtain ⟨u, hu, hreads'⟩ := ihn ht hnext hnone
      refine ⟨u, hlinks ▸ hu, ?_⟩
      rw [renderChars_node]
      simp only [List.append_assoc]
      exact hreads.trans hreads'
    | @head attributes _ htag hchildren =>
      obtain ⟨t, ⟨inner', ht, hlinks⟩, hreads⟩ := h.reads_part hchars htag (by decide)
        (fun ht => ht.opensPart_head rfl) hchildren
        (P := fun links t => ∃ inner', InHtml .head inner' t ∧ inner'.links = links)
        (fun ht _ hname => by
          obtain ⟨u, hlook, hu⟩ := ht.look_endHead hname
          exact ⟨u, hlook, _, hu, rfl⟩) i next ('<' :: endTagTail "html" ++ rest)
      obtain ⟨u, hu, hreads'⟩ := ihn ht hnext hnone
      refine ⟨u, ?_, hreads.trans hreads'⟩
      rw [links_part (by decide), ← List.append_assoc, ← hlinks]
      exact hu
    | @body _ attributes _ hstage htag hchildren =>
      obtain ⟨t, ht, hreads⟩ := h.reads_part hchars htag (by decide)
        (fun ht => ht.opensPart_body hstage rfl) hchildren (P := BehindBody .afterBody)
        (fun ht hspace hname => ht.look_endBody (by simp [OpenElement.is, Frame.element, *]))
        i next ('<' :: endTagTail "html" ++ rest)
      obtain ⟨u, hu, hreads'⟩ := ht.reads_html hnext rest
      refine ⟨u, ?_, hreads.trans hreads'⟩
      rw [links_part (by decide), ← List.append_assoc]
      exact hu
    | @frames _ attributes _ hstage htag hchildren =>
      obtain ⟨t, ⟨inner', ht, hlinks⟩, hreads⟩ := h.reads_part hchars htag (by decide)
        (fun ht => ht.opensPart_frames hstage rfl) hchildren
        (P := fun links t => ∃ inner', InHtml .frames inner' t ∧ inner'.links = links)
        (fun ht _ _ => by
          obtain ⟨u, hlook, hu⟩ := ht.look_endFrames
          exact ⟨u, hlook, _, hu, rfl⟩) i next ('<' :: endTagTail "html" ++ rest)
      obtain ⟨u, hu, hreads'⟩ := ihn ht hnext hnone
      refine ⟨u, ?_, hreads.trans hreads'⟩
      rw [links_part (by decide), ← List.append_assoc, ← hlinks]
      exact hu

/-! ## The page -/

/-- Nothing but comments and a document type has been read. -/
def Unread (s : Construction) : Prop :=
  ∃ prolog kept mode, (mode = .initial ∨ mode = .beforeHtml) ∧
    s = { prolog, tableInParagraph := kept, mode }

theorem Unread.of_default : Unread {} := ⟨[], true, .initial, .inl rfl, rfl⟩

/-- A node in front of `html` is read. -/
theorem Unread.reads_prolog {c : Content} (h : Unread s) (hnode : TidyProlog c children)
    (rest : List Char) : ∃ t, Unread t ∧ Reads s (c.opening false ++ rest) t rest := by
  obtain ⟨prolog, kept, mode, hmode, rfl⟩ := h
  cases hnode with
  | @comment words hwords =>
    refine ⟨{ prolog := .comment words :: prolog, tableInParagraph := kept, mode },
      ⟨_, kept, mode, hmode, rfl⟩, ?_⟩
    have hlook : look (.comment words) { prolog, tableInParagraph := kept, mode } =
        (.done, { prolog := .comment words :: prolog, tableInParagraph := kept, mode }) := by
      rcases hmode with rfl | rfl <;> rfl
    refine .token (fun _ => next_comment hwords rest) ?_ (Taken.once hlook).run_take
    rw [opening_comment, List.length_append, List.length_cons]
    omega
  | @doctype name hname =>
    obtain ⟨d, hnext⟩ := next_doctype hname rest
    have hfeed : ∃ t, Unread t ∧
        (feed (.doctype d)).run { prolog, tableInParagraph := kept, mode } = ((), t) := by
      rcases hmode with rfl | rfl
      · exact ⟨_, ⟨.doctype (d.name.getD "") :: prolog, d.keepsTableInParagraph, .beforeHtml,
          .inr rfl, rfl⟩, rfl⟩
      · exact ⟨_, ⟨prolog, kept, .beforeHtml, .inr rfl, rfl⟩, rfl⟩
    obtain ⟨t, ht, hrun⟩ := hfeed
    refine ⟨t, ht, .token hnext ?_ hrun⟩
    rw [opening_doctype, List.length_append, List.length_cons]
    omega

/-- The start tag of `html` is read. -/
theorem Unread.reads_start (h : Unread s) (htag : tidyTag .html "html" attributes)
    (rest : List Char) : ∃ t, InHtml .start .nil t ∧
      Reads s ((Content.element .html "html" attributes).opening false ++ rest) t rest := by
  obtain ⟨prolog, kept, mode, hmode, rfl⟩ := h
  let tag := startTag "html" attributes
  let t : Construction :=
    { prolog, tableInParagraph := kept, attributes := tag.attributes, stack := [rootElement],
      mode := .beforeHead }
  have hgrown : Grown [] none .nil t :=
    ⟨⟨rfl, rfl, List.Pairwise.nil, by simp, Nat.one_pos, rfl⟩, trivial, by simp, rfl, rfl, by simp,
      rfl⟩
  have hbegin : look (.startTag tag) { prolog, tableInParagraph := kept, mode := .beforeHtml } =
      (.done, t) := rfl
  have htaken : Taken (.startTag tag) { prolog, tableInParagraph := kept, mode } t := by
    rcases hmode with rfl | rfl
    · exact .twice rfl hbegin
    · exact .once hbegin
  have hnext : ∀ foreign, Lexing.data.next foreign
      ((Content.element .html "html" attributes).opening false ++ rest) =
        (some (.startTag tag), rest) := by
    intro foreign
    rw [next_opening htag rest, rereadTag_eq htag]
  refine ⟨t, ⟨hgrown, by decide, rfl, rfl, rfl, rfl, rfl⟩, .token hnext ?_ htaken.run_take⟩
  rw [opening_element, List.length_append, List.length_cons]
  omega

/-- What is written for comments at the end of the page is read. -/
theorem Ended.reads_end (h : Ended links s) (htidy : f.tidyEnd) :
    ∃ t, Ended links t ∧ Reads s (f.renderChars false) t [] := by
  induction f generalizing s with
  | nil => exact ⟨s, h, .refl _ _⟩
  | node i c children next _ ihn =>
    obtain ⟨words, rfl, rfl, hwords, hnext⟩ := tidyEnd_node htidy
    obtain ⟨mode, hmode, h⟩ := h
    obtain ⟨t, ht, hreads⟩ := h.reads_comment hwords (next.renderChars false)
    obtain ⟨u, hu, hreads'⟩ := ihn ⟨mode, hmode, ht⟩ hnext
    exact ⟨u, hu, by rw [renderChars_node]; exact hreads.trans hreads'⟩

/-- What is written for a tidy page is read as a page with its links. -/
theorem Unread.reads_page (h : Unread s) (htidy : f.tidyPage) :
    ∃ t, Ended f.links t ∧ Reads s (f.renderChars false) t [] := by
  induction f generalizing s with
  | nil => cases htidy
  | node i c children next _ ihn =>
    rcases tidyPage_node htidy with ⟨hnode, hnext⟩ | ⟨attributes, rfl, htag, hchildren, hnext⟩
    · obtain ⟨t, ht, hreads⟩ := h.reads_prolog hnode (next.renderChars false)
      obtain ⟨u, hu, hreads'⟩ := ihn ht hnext
      have hnode' : children = nil ∧ c.closing = [] ∧ ownLink c children = [] := by
        cases hnode <;> exact ⟨rfl, rfl, rfl⟩
      obtain ⟨rfl, hclosing, hown⟩ := hnode'
      refine ⟨u, ?_, ?_⟩
      · rw [links_node, hown]
        exact hu
      · rw [renderChars_node, hclosing]
        exact hreads.trans hreads'
    · obtain ⟨t, ht, hreads⟩ := h.reads_start htag
        (children.renderChars false ++ ('<' :: endTagTail "html" ++ next.renderChars false))
      have hnone : ∀ c ∈ ([] : List Char), tidyChar c ∧ isSpace c := by simp
      obtain ⟨u, hu, hreads'⟩ := ht.reads_html hchildren hnone (next.renderChars false)
      obtain ⟨v, hv, hreads''⟩ := hu.reads_end hnext
      have hrender := renderChars_node false i (.element .html "html" attributes) children next
      rw [closing_element (by decide), List.append_assoc] at hrender
      refine ⟨v, ?_, ?_⟩
      · have hlinks : next.links = [] := congrArg _ (flat_of_tidyEnd hnext).anchors
        rw [links_part (by decide), hlinks, List.append_nil]
        exact hv
      · rw [hrender]
        exact (hreads.trans hreads').trans hreads''

end ReleaseListing.Html
