import Mathlib.Data.List.Find
import ReleaseListing.Proofs.Html.Standing

/-!
# Trees of a tidy page

What is written for the trees in an element is read where they stand (`Inside.rereads`): the
element holds their links then, and in a link their text. The proof goes along the trees; text is
kept back until the mark behind it, since it joins text in front of it.
-/

namespace ReleaseListing.Html

open Construct Grown

variable {s t u : Construction} {piece : Piece} {cs ds rest mark source body : List Char}
  {frames : List Frame} {ground holds : Ground} {m m' : Memory} {inner inner' : Forest}
  {space : Space} {name : String} {attributes : List Attribute} {links later : List Anchor}

/-! ## Trees one after the other -/

/-- The frames are those of a place in a link. -/
def Linked (frames : List Frame) : Prop := ∃ f ∈ frames, f.name = "a"

/-- What the innermost element holds grows by links, and in a link by a text. -/
def Gains (frames : List Frame) (inner : Forest) (cs : List Char) (links : List Anchor)
    (inner' : Forest) : Prop :=
  (Linked frames → inner'.text = inner.text ++ cs) ∧ inner'.links = inner.links ++ links

theorem Extends.gains (h : Extends inner cs inner') : Gains frames inner cs [] inner' :=
  ⟨fun _ => h.1, h.2.trans (List.append_nil _).symm⟩

theorem Gains.trans {inner'' : Forest} (h : Gains frames inner cs links inner')
    (h' : Gains frames inner' ds later inner'') :
    Gains frames inner (cs ++ ds) (links ++ later) inner'' :=
  ⟨fun hlinked => by rw [h'.1 hlinked, h.1 hlinked, List.append_assoc],
    by rw [h'.2, h.2, List.append_assoc]⟩

/-- Up to the next mark `source` is read as the text `cs` and the links, which the innermost open
element holds then, behind `inner`. -/
def Rereads (ground : Ground) (frames : List Frame) (m : Memory) (inner : Forest)
    (s : Construction) (source cs : List Char) (links : List Anchor) : Prop :=
  ∀ ⦃mark : List Char⦄ ⦃piece : Piece⦄, Marks mark piece → ∀ rest, ∃ t inner',
    Inside ground frames m inner' t ∧ Gains frames inner cs links inner' ∧
      ∀ u, Taken piece t u → Reads s (source ++ (mark ++ rest)) u rest

/-- The mark of a node is taken where it stands, and what is written behind it is read as the text
`cs` and the links. -/
def ReadsNode (ground : Ground) (frames : List Frame) (m : Memory) (piece : Piece)
    (body cs : List Char) (links : List Anchor) : Prop :=
  ∀ ⦃inner : Forest⦄ ⦃s : Construction⦄, Inside ground frames m inner s → ∀ rest, ∃ t u inner',
    Taken piece s t ∧ Reads t (body ++ rest) u rest ∧ Inside ground frames m inner' u ∧
      Gains frames inner cs links inner'

theorem Inside.undropped_eq (h : Inside ground frames m inner s) : undropped s = s :=
  ReleaseListing.Html.undropped_eq h.drops

/-- A node behind text, and what follows it. -/
theorem Rereads.node (h : Rereads ground frames m inner s source cs links)
    (hmarks : Marks mark piece) {text : List Char} {own : List Anchor}
    (hnode : ReadsNode ground frames m piece body text own) {source' : List Char}
    (hnext : ∀ ⦃inner' t⦄, Inside ground frames m inner' t →
      Rereads ground frames m inner' t source' ds later) :
    Rereads ground frames m inner s (source ++ (mark ++ (body ++ source'))) (cs ++ (text ++ ds))
      (links ++ (own ++ later)) := by
  intro mark' piece' hmarks' rest
  obtain ⟨t, inner₁, ht, hgains₁, hread⟩ := h hmarks (body ++ (source' ++ (mark' ++ rest)))
  obtain ⟨t', u, inner₂, htaken, hbody, hu, hgains₂⟩ := hnode ht (source' ++ (mark' ++ rest))
  obtain ⟨v, inner₃, hv, hgains₃, hlast⟩ := hnext hu hmarks' rest
  refine ⟨v, inner₃, hv, hgains₁.trans (hgains₂.trans hgains₃), fun w hw => ?_⟩
  have hall := ((hread t' htaken).trans hbody).trans (hlast w hw)
  simpa only [List.append_assoc] using hall

/-! ## Marks -/

theorem marks_comment {words : String} (h : tidyComment words.toList) :
    Marks ((Content.comment words).opening false) (.comment words) :=
  ⟨⟨_, opening_comment false words⟩, _, rfl, fun _ => next_comment h⟩

theorem marks_start (h : tidyTag space name attributes) :
    Marks ((Content.element space name attributes).opening false)
      (.startTag (rereadTag name attributes)) :=
  ⟨⟨_, opening_element false space name attributes⟩, _, rfl, fun _ => next_opening h⟩

theorem marks_end (h : tidyName space name) :
    Marks ('<' :: endTagTail name) (.endTag { name := lowerName name.toList }) :=
  ⟨⟨_, rfl⟩, _, rfl, fun _ => next_closing h⟩

/-! ## Links -/

/-- The order of the attributes does not matter to the link of an element. -/
theorem link?_sorted (space : Space) (name : String)
    (h : (attributes.map (·.reread.name)).Nodup) :
    (Content.element space name (Attribute.sorted attributes)).link? =
      (Content.element space name attributes).link? := by
  have hfind : plainValue? "href" (Attribute.sorted attributes) =
      plainValue? "href" attributes := by
    have hperm := Attribute.perm_sorted attributes
    unfold plainValue?
    rw [List.find?_eq_find?_of_perm hperm]
    rintro a ⟨ha, hpa⟩ b ⟨hb, hpb⟩
    refine List.inj_on_of_nodup_map h (hperm.mem_iff.1 ha) (hperm.mem_iff.1 hb) ?_
    simp only [Bool.and_eq_true, beq_iff_eq] at hpa hpb
    simp only [Attribute.reread, Attribute.writtenName, hpa, hpb]
  simp only [Content.link?, hfind]

/-- The link of an element depends on its text only if it is one. -/
theorem ownLink_congr {children : Forest} (space : Space) (attributes : List Attribute)
    (h : name = "a" → inner.text = children.text) :
    Forest.ownLink (.element space name attributes) inner =
      Forest.ownLink (.element space name attributes) children := by
  unfold Forest.ownLink
  by_cases hname : name = "a"
  · rw [h hname]
  · simp [Content.link?, hname]

/-- An element that is closed with what stands in it. -/
theorem gains_closed {children : Forest} (htag : tidyTag space name attributes)
    (htext : name = "a" ∨ Linked frames → inner'.text = children.text)
    (hlinks : inner'.links = children.links) (inner : Forest) (s : Construction) :
    Gains frames inner children.text
      (Forest.ownLink (.element space name attributes) children ++ children.links)
      ((newFrame space inner (startTag name attributes) s).closed inner') := by
  let f := newFrame space inner (startTag name attributes) s
  have hown : Forest.ownLink f.content (f.holding inner') =
      Forest.ownLink (.element space name attributes) children := by
    have hlink : f.content.link? = (Content.element space name attributes).link? :=
      link?_sorted space name (tidyTag_iff.1 htag).2.2
    rw [← ownLink_congr space attributes fun hname => htext (.inl hname)]
    unfold Forest.ownLink
    rw [hlink, Frame.text_holding]
  constructor
  · intro hlinked
    rw [Frame.closed, Forest.text_append, Forest.text_single, Frame.text_holding,
      htext (.inr hlinked)]
    rfl
  · rw [Frame.closed, Forest.links_append, Forest.links_single, hown, Frame.links_holding, hlinks]
    rfl

/-! ## Nodes -/

/-- On each ground a comment is put where it stands. -/
theorem Ground.suits.inMode_comment {mode : Mode} (h : ground.suits mode) (words : String) :
    inMode mode (.comment words) = thenDone (putComment words) := by
  cases ground with
  | flow | foreign _ => rcases h with rfl | rfl | rfl <;> rfl
  | select => rcases h with rfl | rfl <;> rfl
  | template holds =>
    rcases h with rfl | rfl
    · rfl
    · cases holds <;> rfl
  | _ =>
    obtain rfl := h
    rfl

theorem Inside.look_comment (h : Inside ground frames m inner s) (words : String) :
    look (.comment words) s =
      (.done, Grown.grow frames (inner ++ Placed.commentTree words s) s) := by
  have hput := run_thenDone (h.run_putComment words)
  by_cases hspace : (current frames).space = .html
  · rw [h.look_eq hspace, h.suited.suits.inMode_comment]
    exact hput
  · rw [look_foreign_eq]
    · exact hput
    · rw [h.head?_stack]
      simpa [isForeign] using hspace

theorem readsNode_comment (words : String) :
    ReadsNode ground frames m (.comment words) [] [] [] := by
  intro inner s h rest
  have hleafy : (inner ++ Placed.commentTree words s).Leafy :=
    h.leafy.append (Forest.leafy_single fun _ => Content.noConfusion)
  refine ⟨_, _, _, .once (h.look_comment words), .refl _ _, h.grow hleafy, fun _ => ?_, ?_⟩
  · rw [Forest.text_append, Placed.commentTree, Forest.text_single]
    rfl
  · rw [Forest.links_append, Placed.commentTree, Forest.links_single]
    rfl

/-- Text in an element that holds nothing else. In a link it is read as it is. -/
theorem tidyText_of_isTidyText {lexing : Lexing} {linked : Bool}
    (hlexing : textLexing? name = some lexing) {children : Forest}
    (h : children.isTidyText lexing linked) :
    (∀ c ∈ children.text, tidyChar c) ∧ tidyText children.text lexing ∧
      children.renderChars (rawTextNames.contains name) = lexing.written children.text ∧
      children.links = [] ∧ (linked → lexing.reread children.text = children.text) := by
  have hnames := mem_textNames hlexing
  have hkinds : tidyText [] lexing ∧ lexing.reread [] = [] ∧
      ∀ cs, (Content.text cs).opening (rawTextNames.contains name) = lexing.written cs := by
    simp only [textNames, List.mem_cons, List.not_mem_nil, or_false] at hnames
    rcases hnames with rfl | rfl | rfl | rfl | rfl | rfl | rfl | rfl | rfl <;> cases hlexing <;>
      exact ⟨by decide, rfl, fun _ => rfl⟩
  obtain ⟨hnil, hreread, hwritten⟩ := hkinds
  unfold Forest.isTidyText at h
  split at h
  · refine ⟨by simp, hnil, ?_, rfl, fun _ => hreread⟩
    rw [Forest.text_nil, ← hwritten]
    cases rawTextNames.contains name <;> rfl
  · rename_i cs
    simp only [Bool.and_eq_true, Bool.or_eq_true, List.all_eq_true, beq_iff_eq] at h
    have htext : ∀ i, (Forest.node i (.text cs) .nil .nil).text = cs := fun i => List.append_nil cs
    rw [htext, ← hwritten]
    refine ⟨h.1.1, h.1.2, ?_, rfl, fun hlinked => h.2.resolve_left (by simp [hlinked])⟩
    simp [Forest.renderChars, Content.closing]
  · cases h

/-- The text of a text area starts with no line feed. -/
theorem head?_ne_of_textarea {lexing : Lexing} (hname : name = "textarea")
    (hlexing : textLexing? name = some lexing) (h : tidyText cs lexing) :
    (lexing.reread cs).head? ≠ some '\n' := by
  subst hname
  cases hlexing
  show cs.head? ≠ _
  simpa [tidyText] using h

theorem linked_of_outline (h : Linked frames) : (outline frames).any (·.name == "a") = true := by
  obtain ⟨f, hf, hname⟩ := h
  exact List.any_eq_true.2 ⟨_, List.mem_map_of_mem hf, beq_iff_eq.2 hname⟩

section

variable (htag : tidyTag space name attributes)
  (hstands : stands (outline frames) space name attributes ground)
include htag hstands

/-- An element is read whose start tag is looked at where it may stand. -/
theorem readsNode_of_look
    (h : ∀ ⦃inner s⦄, Inside ground frames m inner s →
      (s.mode = .inTemplate → space = .html ∧ name ∈ ground.headNames) → ∀ rest, ∃ t u inner',
        look (.startTag (rereadTag name attributes)) s = (.done, t) ∧
          Reads t (body ++ rest) u rest ∧ Inside ground frames m inner' u ∧
          Gains frames inner cs links inner') :
    ReadsNode ground frames m (.startTag (rereadTag name attributes)) body cs links := by
  intro inner s hs rest
  rcases hs.ready_or_switches htag hstands with hready | ⟨s', hagain, hmode, hs'⟩
  · obtain ⟨t, u, inner', hlook, hrest⟩ := h hs hready rest
    exact ⟨t, u, inner', .once hlook, hrest⟩
  · obtain ⟨t, u, inner', hlook, hrest⟩ := h hs' (fun hin => absurd hin hmode) rest
    exact ⟨t, u, inner', .twice hagain hlook, hrest⟩

theorem readsNode_void (hcontents : contentsOf space name = .nothing) :
    ReadsNode ground frames m (.startTag (rereadTag name attributes)) [] []
      (Forest.ownLink (.element space name attributes) .nil) := by
  obtain ⟨rfl, -⟩ := contentsOf_nothing hcontents
  refine readsNode_of_look htag hstands fun inner s h hready rest => ?_
  have hholds : HoldsVoid ground frames m inner (startTag name attributes) s :=
    h.holdsVoid_of_stands (standsOn_of_stands h.suited.fits hstands)
      (fun hin => (hready hin).2) hcontents
  obtain ⟨t, hlook, ht⟩ := hholds
  have hgains : Gains frames inner Forest.nil.text
      (Forest.ownLink (.element .html name attributes) .nil ++ Forest.nil.links)
      ((newFrame .html inner (startTag name attributes) s).closed .nil) :=
    gains_closed htag (fun _ => rfl) rfl inner s
  rw [Forest.links_nil, List.append_nil] at hgains
  exact ⟨t, t, _, rereadTag_eq htag ▸ hlook, .refl _ _, ht, hgains⟩

theorem readsNode_text {lexing : Lexing} (hcontents : contentsOf space name = .text lexing)
    {children : Forest} (htidy : children.isTidyText lexing ((outline frames).any (·.name == "a"))) :
    ReadsNode ground frames m (.startTag (rereadTag name attributes))
      (children.renderChars (rawTextNames.contains name) ++ '<' :: endTagTail name) children.text
      (Forest.ownLink (.element space name attributes) children ++ children.links) := by
  obtain ⟨rfl, hlexing⟩ := contentsOf_text hcontents
  obtain ⟨hchars, htext, hwritten, hlinks, hreread⟩ := tidyText_of_isTidyText hlexing htidy
  refine readsNode_of_look htag hstands fun inner s h hready rest => ?_
  have hholds : HoldsText ground frames m inner lexing (startTag name attributes) s :=
    h.holdsText_of_stands (standsOn_of_stands h.suited.fits hstands)
      (fun hin => (hready hin).2) hlexing
  obtain ⟨t, hlook, ht, hdrops⟩ := hholds
  obtain ⟨u, inner', hu, hextends, hread⟩ := ht.reads (s := t) hlexing (tidyTag_iff.1 htag).1 hchars
    htext (fun hd => head?_ne_of_textarea (hdrops hd) hlexing htext) rest
  refine ⟨t, u, _, rereadTag_eq htag ▸ hlook, ?_, hu, gains_closed htag ?_ ?_ inner s⟩
  · rw [hwritten, List.append_assoc]
    exact hread
  · have hname : name ≠ "a" := by
      rintro rfl
      cases hlexing
    refine fun hlinked => hextends.1.trans ?_
    exact hreread (linked_of_outline (hlinked.resolve_left hname))
  · rw [hlinks]
    exact hextends.2

/-- An element that is opened and closed is read with the trees in it. -/
theorem readsNode_holds {contents children : Forest}
    (hcontents : contents.text = children.text ∧ contents.links = children.links)
    (hheld : ∀ ⦃inner s⦄, Inside ground frames m inner s →
      (s.mode = .inTemplate → space = .html ∧ name ∈ ground.headNames) →
      HoldsOn holds ground frames m inner space (startTag name attributes)
        (rereadTag name attributes) s)
    (hlines : (around space name).isAny ["pre", "listing"] → contents.startsNoLine)
    (hchildren : ∀ ⦃f m' inner t⦄, f.space = space → f.name = name →
      Inside holds (f :: frames) m' inner (undropped t) →
      (t.dropsLineFeed = true → contents.startsNoLine) →
      Rereads holds (f :: frames) m' inner t (contents.renderChars false) contents.text
        contents.links) :
    ReadsNode ground frames m (.startTag (rereadTag name attributes))
      (contents.renderChars false ++ '<' :: endTagTail name) children.text
      (Forest.ownLink (.element space name attributes) children ++ children.links) := by
  refine readsNode_of_look htag hstands fun inner s h hready rest => ?_
  obtain ⟨t, m', hlook, ht, hdrops, hend⟩ := hheld h hready
  obtain ⟨t', inner', ht', hgains, hread⟩ := hchildren rfl rfl ht (fun hd => hlines (hdrops hd))
    (marks_end (tidyTag_iff.1 htag).1) rest
  obtain ⟨u, hclose, hu⟩ := hend inner' t' ht'
  refine ⟨t, u, _, hlook, ?_, hu, gains_closed htag ?_ ?_ inner s⟩
  · simpa only [List.append_assoc] using hread u (.once hclose)
  · intro hlinked
    refine (hgains.1 ?_).trans hcontents.1
    rcases hlinked with hname | ⟨f, hf, hname⟩
    · exact ⟨_, List.mem_cons_self, hname⟩
    · exact ⟨f, List.mem_cons_of_mem _ hf, hname⟩
  · exact hgains.2.trans hcontents.2

/-- An element that holds trees is read with them. -/
theorem readsNode_trees (hcontents : contentsOf space name = .trees) {children : Forest}
    (hlines : (around space name).isAny ["pre", "listing"] → children.startsNoLine)
    (hchildren : ∀ ⦃f m' inner t⦄, f.space = space → f.name = name →
      Inside (ground.inside (around space name)) (f :: frames) m' inner (undropped t) →
      (t.dropsLineFeed = true → children.startsNoLine) →
      Rereads (ground.inside (around space name)) (f :: frames) m' inner t
        (children.renderChars false) children.text children.links) :
    ReadsNode ground frames m (.startTag (rereadTag name attributes))
      (children.renderChars false ++ '<' :: endTagTail name) children.text
      (Forest.ownLink (.element space name attributes) children ++ children.links) := by
  refine readsNode_holds htag hstands ⟨rfl, rfl⟩ (fun inner s h hready => ?_) hlines hchildren
  by_cases hspace : space = .html
  · subst hspace
    have hholds : HoldsElement ground frames m inner (startTag name attributes) s :=
      h.holds_of_stands (standsOn_of_stands h.suited.fits hstands)
        (fun hin => (hready hin).2) hcontents
    exact (rereadTag_eq htag).symm ▸ hholds
  · exact h.holds_foreign_of_stands htag hspace hstands fun hin => hspace (hready hin).1

/-- A template is read with what it holds. -/
theorem readsNode_template (hcontents : contentsOf space name = .template)
    (hholds : holds ∈ templateGrounds) {contents children : Forest}
    (hsame : contents.text = children.text ∧ contents.links = children.links)
    (hchildren : ∀ ⦃f m' inner t⦄, f.space = space → f.name = name →
      Inside (.template holds) (f :: frames) m' inner (undropped t) →
      (t.dropsLineFeed = true → contents.startsNoLine) →
      Rereads (.template holds) (f :: frames) m' inner t (contents.renderChars false) contents.text
        contents.links) :
    ReadsNode ground frames m (.startTag (rereadTag name attributes))
      (contents.renderChars false ++ '<' :: endTagTail name) children.text
      (Forest.ownLink (.element space name attributes) children ++ children.links) := by
  obtain ⟨rfl, rfl⟩ := contentsOf_template hcontents
  refine readsNode_holds htag hstands hsame (fun inner s h hready => ?_)
    (fun hname => absurd hname (by decide)) hchildren
  have hheld : HoldsOn (.template holds) ground frames m inner .html
      (startTag "template" attributes) (startTag "template" attributes) s :=
    h.holds_template_of_stands (standsOn_of_stands h.suited.fits hstands) rfl hholds
  exact (rereadTag_eq htag).symm ▸ hheld

end

/-! ## All trees -/

theorem renderChars_node (raw : Bool) (i : Nat) (c : Content) (children next : Forest) :
    (Forest.node i c children next).renderChars raw =
      c.opening raw ++
        ((children.renderChars c.holdsRawText ++ c.closing) ++ next.renderChars raw) := by
  rw [Forest.renderChars, List.append_assoc, List.append_assoc, ← List.append_assoc _ c.closing]

/-- Nothing is written for the node in a template itself. -/
theorem renderChars_fragment (raw : Bool) (i : Nat) (f : Forest) :
    (Forest.node i .fragment f .nil).renderChars raw = f.renderChars false := by
  rw [renderChars_node]
  show [] ++ ((f.renderChars false ++ []) ++ []) = _
  simp

/-- An element that may hold something is closed by its end tag. -/
theorem closing_element (h : contentsOf space name ≠ .nothing) (attributes : List Attribute) :
    (Content.element space name attributes).closing = '<' :: endTagTail name := by
  have hnot : ¬ (space == .html && voidNames.contains name) = true := by
    intro hvoid
    rw [Bool.and_eq_true, beq_iff_eq] at hvoid
    refine h ?_
    unfold contentsOf
    rw [if_neg (by simp [hvoid.1]), if_pos hvoid.2]
  rw [Content.closing, if_neg hnot]
  rfl

theorem closing_void (h : contentsOf space name = .nothing) (attributes : List Attribute) :
    (Content.element space name attributes).closing = [] := by
  obtain ⟨rfl, hvoid⟩ := contentsOf_nothing h
  rw [Content.closing, if_pos (by simpa using hvoid)]

/-- Where an element that holds others may stand, text in it is escaped. -/
theorem StandsOn.not_mem_rawTextNames {outline : List OpenElement}
    (h : StandsOn outline name ground) (htrees : contentsOf .html name = .trees) :
    name ∉ rawTextNames := by
  intro hraw
  have hkinds : ∀ name ∈ rawTextNames, contentsOf .html name ≠ .trees ∨ name = "plaintext" := by
    decide
  obtain rfl := (hkinds _ hraw).resolve_left fun hne => hne htrees
  induction h with
  | head h => exact absurd (Ground.mem_headNames h) (by decide)
  | @part ground h => cases ground <;> exact absurd h (by simp [Ground.partNames])
  | flow h =>
    rcases h.anywhere_or_block (by decide) (by decide) with hname | ⟨hname, -⟩ <;>
      exact absurd hname (by decide)
  | option h _ => exact absurd h (by decide)
  | group h _ => exact absurd h (by decide)
  | template _ ih => exact ih

theorem holdsRawText_trees (hfits : ground.Fits (current frames))
    (hstands : stands (outline frames) space name attributes ground)
    (htrees : contentsOf space name = .trees) :
    (Content.element space name attributes).holdsRawText = false := by
  cases space with
  | html =>
    have hraw := (standsOn_of_stands hfits hstands).not_mem_rawTextNames htrees
    rwa [Content.holdsRawText, ← Bool.not_eq_true, List.contains_iff_mem]
  | svg => rfl
  | mathml => rfl

namespace Inside

variable (h : Inside ground frames m inner (undropped s)) (hchars : ∀ c ∈ cs, ground.holdsText c)
include h hchars

theorem rereads_text (hdrops : s.dropsLineFeed = true → cs.head? ≠ some '\n') :
    Rereads ground frames m inner s (cs.flatMap escapeText) cs [] := by
  intro mark piece hmarks rest
  obtain ⟨t, inner', ht, hextends, hread⟩ := h.reads_text hchars hdrops hmarks rest
  exact ⟨t, inner', ht, hextends.gains, hread⟩

/-- A node that is no text is read where it stands, behind the text `cs`. -/
theorem rereads_node (hdrops : s.dropsLineFeed = true → cs.head? ≠ some '\n') {c : Content}
    {children next : Forest} (hmarks : Marks (c.opening false) piece)
    (hown : Forest.ownText c = [])
    (hnode : ReadsNode ground frames m piece (children.renderChars c.holdsRawText ++ c.closing)
      children.text (Forest.ownLink c children ++ children.links))
    (hnext : ∀ ⦃inner' t⦄, Inside ground frames m inner' t →
      Rereads ground frames m inner' t (next.renderChars false) next.text next.links) (i : Nat) :
    Rereads ground frames m inner s
      (cs.flatMap escapeText ++ (Forest.node i c children next).renderChars false)
      (cs ++ (Forest.node i c children next).text) (Forest.node i c children next).links := by
  have hall := (h.rereads_text hchars hdrops).node hmarks hnode hnext
  rw [renderChars_node, Forest.text_node, Forest.links_node, hown]
  simpa only [List.nil_append, List.append_assoc] using hall

end Inside

/-- What is written for trees is read where they stand. In front of them stands the text `cs`. -/
theorem Inside.rereads (f : Forest) (cs : List Char) {ground : Ground} {frames : List Frame}
    {m : Memory} {inner : Forest} {s : Construction}
    (h : Inside ground frames m inner (undropped s)) (htidy : f.tidy ground (outline frames))
    (hchars : ∀ c ∈ cs, ground.holdsText c)
    (hkeeps : s.dropsLineFeed = true → cs.head? ≠ some '\n' ∧ f.startsNoLine) :
    Rereads ground frames m inner s (cs.flatMap escapeText ++ f.renderChars false)
      (cs ++ f.text) f.links := by
  match f with
  | .nil =>
    rw [Forest.renderChars, Forest.text_nil, List.append_nil, List.append_nil]
    exact h.rereads_text hchars fun hd => (hkeeps hd).1
  | .node i c children next =>
    have hdrops := fun hd => (hkeeps hd).1
    obtain ⟨hnode, hnext⟩ := Forest.tidy_node htidy
    have hlater : ∀ ⦃inner' t⦄, Inside ground frames m inner' t →
        Rereads ground frames m inner' t (next.renderChars false) next.text next.links := by
      intro inner' t ht
      exact rereads next [] (ht.undropped_eq.symm ▸ ht) hnext (by simp)
        fun hd => absurd (ht.drops.symm.trans hd) (by decide)
    cases hnode with
    | @text ds hchars' hplace =>
      -- The text joins the one in front of it.
      have hall : ∀ c ∈ cs ++ ds, ground.holdsText c := by
        refine List.forall_mem_append.2 ⟨hchars, fun c hc => ⟨hchars' c hc, ?_⟩⟩
        exact hplace.imp id fun hblank => hblank c hc
      have hkeeps' : s.dropsLineFeed = true →
          (cs ++ ds).head? ≠ some '\n' ∧ next.startsNoLine := by
        intro hd
        obtain ⟨hhead, hlines⟩ := hkeeps hd
        rw [Forest.startsNoLine, Bool.and_eq_true, bne_iff_ne] at hlines
        refine ⟨?_, hlines.2⟩
        cases cs with
        | nil => exact hlines.1
        | cons c cs => exact hhead
      have hread := rereads next (cs ++ ds) h hnext hall hkeeps'
      rw [List.flatMap_append, List.append_assoc, List.append_assoc] at hread
      have hrender : (Forest.node i (.text ds) .nil next).renderChars false =
          ds.flatMap escapeText ++ next.renderChars false := renderChars_node false i _ .nil next
      rw [hrender, Forest.text_node, Forest.links_node]
      exact hread
    | comment hwords =>
      exact h.rereads_node hchars hdrops (marks_comment hwords) rfl (readsNode_comment _) hlater i
    | void htag hstands hcontents =>
      refine h.rereads_node hchars hdrops (marks_start htag) rfl ?_ hlater i
      rw [closing_void hcontents]
      simpa [Forest.renderChars] using readsNode_void htag hstands hcontents
    | holdsText htag hstands hcontents hchildren =>
      refine h.rereads_node hchars hdrops (marks_start htag) rfl ?_ hlater i
      rw [closing_element (by simp [hcontents])]
      obtain ⟨rfl, -⟩ := contentsOf_text hcontents
      exact readsNode_text htag hstands hcontents hchildren
    | bare htag hstands hcontents =>
      refine h.rereads_node hchars hdrops (marks_start htag) rfl ?_ hlater i
      rw [closing_element (by simp [hcontents])]
      have hsame : Forest.nil.text = Forest.nil.text ∧ Forest.nil.links = Forest.nil.links :=
        ⟨rfl, rfl⟩
      have hflow : Ground.flow ∈ templateGrounds := by decide
      obtain ⟨rfl, rfl⟩ := contentsOf_template hcontents
      refine readsNode_template htag hstands hcontents hflow hsame
        fun f m' inner t _ _ ht hkeeps' => ?_
      exact ht.rereads_text (List.forall_mem_nil _) (by simp)
    | @template space name attributes j contents holds htag hstands hcontents hholds hchildren =>
      refine h.rereads_node hchars hdrops (marks_start htag) rfl ?_ hlater i
      rw [closing_element (by simp [hcontents])]
      obtain ⟨rfl, rfl⟩ := contentsOf_template hcontents
      have hsame : contents.text = (Forest.node j .fragment contents .nil).text ∧
          contents.links = (Forest.node j .fragment contents .nil).links :=
        ⟨(Forest.text_single j .fragment contents).symm,
          (Forest.links_single j .fragment contents).symm⟩
      rw [renderChars_fragment]
      refine readsNode_template htag hstands hcontents hholds hsame
        fun f m' inner t hspace hname ht hkeeps' => ?_
      have htidy' : contents.tidy (.template holds) (outline (f :: frames)) := by
        rw [outline, List.map_cons, hname, hspace]
        exact hchildren
      exact rereads contents [] ht htidy' (by simp) fun hd => ⟨by simp, hkeeps' hd⟩
    | @holds space name attributes _ htag hstands hcontents hchildren hlines =>
      refine h.rereads_node hchars hdrops (marks_start htag) rfl ?_ hlater i
      rw [closing_element (by simp [hcontents]), holdsRawText_trees h.suited.fits hstands hcontents]
      refine readsNode_trees htag hstands hcontents hlines
        fun f m' inner t hspace hname ht hkeeps' => ?_
      have htidy' : children.tidy (ground.inside (around space name)) (outline (f :: frames)) := by
        rw [outline, List.map_cons, hname, hspace]
        exact hchildren
      exact rereads children [] ht htidy' (by simp) fun hd => ⟨by simp, hkeeps' hd⟩
termination_by f

end ReleaseListing.Html
