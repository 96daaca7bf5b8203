import Mathlib.Data.List.SplitBy
import ReleaseListing.Proofs.Html.Construction
import ReleaseListing.Proofs.Html.Lexer

/-!
# Steps of reading

`Inside ground frames m inner s` is the state between two nodes of a tidy page, in which reading goes
on with text or a mark. `Reads s cs t rest` says that reading `cs` in the state `s` comes to reading
`rest` in the state `t`. Text in front of a mark is read first (`reads_text`).
-/

namespace ReleaseListing.Html

open Construct

variable {s t u : Construction} {piece : Piece} {cs rest : List Char} {frames : List Frame}
  {f g : Frame} {e : OpenElement} {ground ground' : Ground} {inner : Forest}

/-! ## Modes -/

/-- The mode in which a template is read that is made for the ground. -/
def Ground.templateMode : Ground → Mode
  | .table => .inTable
  | .columns => .inColumnGroup
  | .rows => .inTableBody
  | .cells => .inRow
  | _ => .inBody

/-- The modes in which the contents of an element are read. -/
def Ground.suits : Ground → Mode → Prop
  | .flow, m | .foreign _, m => m = .inBody ∨ m = .inCell ∨ m = .inCaption
  | .head, m => m = .inHead
  | .table, m => m = .inTable
  | .columns, m => m = .inColumnGroup
  | .rows, m => m = .inTableBody
  | .cells, m => m = .inRow
  | .select, m => m = .inSelect ∨ m = .inSelectInTable
  | .frames, m => m = .inFrameset
  | .template holds, m => m = .inTemplate ∨ m = holds.templateMode

/-- The modes of the open templates on the ground, `modes` being those around it. -/
def Ground.modes (ground : Ground) (mode : Mode) (modes : List Mode) : List Mode :=
  match ground with
  | .template _ => mode :: modes
  | _ => modes

/-- The elements whose contents lie on the ground. A template may hold what parts of a table do. -/
def Ground.Fits : Ground → OpenElement → Prop
  | .flow, e => e.space = .html ∨ e.isFormulaText ∨ e.isDrawingText
  | .table, e => e.isAny ["table", "template"]
  | .columns, e => e.isAny ["colgroup", "template"]
  | .rows, e => e.isAny ("template" :: rowGroupNames)
  | .cells, e => e.isAny ["tr", "template"]
  | .head, e | .select, e => e.space = .html
  | .frames, e => e.is "frameset"
  | .foreign space, e =>
    e.space = space ∧ space ≠ .html ∧ e.isFormulaText = false ∧ e.isDrawingText = false
  | .template holds, e => e.is "template" ∧ holds ∈ templateGrounds

/-- What an element may hold lies on a ground that fits it. -/
theorem Ground.fits_inside (ground : Ground) (e : OpenElement) : (ground.inside e).Fits e := by
  unfold inside
  split
  · rename_i hhtml
    have hspace : e.space = .html := beq_iff_eq.1 hhtml
    split
    · exact hspace
    split
    · simp_all [Fits, OpenElement.isAny]
    split
    · simp_all [Fits, OpenElement.isAny]
    split
    · simp_all [Fits, OpenElement.isAny]
    split
    · simp_all [Fits, OpenElement.isAny]
    split
    · simp_all [Fits, OpenElement.is]
    split
    · exact hspace
    · exact .inl hspace
  · rename_i hhtml
    split
    · rename_i htext
      exact .inr (by simpa using htext)
    · rename_i htext
      exact ⟨rfl, by simpa using hhtml, by simpa using htext⟩

/-- Elements that call for a mode. -/
def modeNames : List String :=
  ["select", "td", "th", "tr", "tbody", "thead", "tfoot", "caption", "colgroup", "table",
   "template", "head", "body", "frameset", "html"]

theorem modeOf_cons (s : Construction) (he : ¬ e.isAny modeNames) (outer : List OpenElement) :
    modeOf s (e :: outer) = modeOf s outer := by
  rw [modeOf]
  by_cases hspace : e.space = .html
  · have hname : e.name ∉ modeNames := by
      simpa [OpenElement.isAny, hspace] using he
    simp only [hspace, bne_self_eq_false, Bool.false_eq_true, if_false]
    split <;> first | rfl | (rename_i heq; exact absurd (heq ▸ by decide) hname)
  · simp [hspace]

/-- What the innermost element holds lies on the ground, and is read in the mode, `modes` being those
of the open templates. What may be selected from has no mode of its own. -/
structure Suited (ground : Ground) (frames : List Frame) (modes : List Mode) (mode : Mode) :
    Prop where
  fits : ground.Fits (current frames)
  suits : ground.suits mode
  modeOf_eq : ground = .select ∨ ∀ s, s.templateModes = modes →
    modeOf s (frames.map Frame.element ++ [rootElement]) = mode

/-! ## Between two nodes -/

/-- The open elements, whatever their numbers. -/
def outline (frames : List Frame) : List OpenElement := frames.map fun f => around f.space f.name

/-- What is kept of the elements around a place: the open form, and the modes of the open
templates. -/
structure Memory where
  form : Option Nat
  modes : List Mode

variable {m m' : Memory}

/-- The elements of the frames are open, the innermost one holds `inner`, and what it holds is read
on. -/
structure Inside (ground : Ground) (frames : List Frame) (m : Memory) (inner : Forest)
    (s : Construction) : Prop extends Grown frames m.form inner s where
  suited : Suited ground frames s.templateModes s.mode
  modes : s.templateModes = ground.modes s.mode m.modes
  lexing : s.lexing = .data
  tableText : s.tableText = []
  drops : s.dropsLineFeed = false

/-- What reading goes on with depends on. -/
def Construction.readingKey (s : Construction) :=
  (s.key, s.mode, s.templateModes, s.lexing, s.tableText, s.dropsLineFeed)

namespace Inside

theorem congr (h : Inside ground frames m inner s) (e : s.readingKey = t.readingKey) :
    Inside ground frames m inner t := by
  simp only [Construction.readingKey, Prod.mk.injEq] at e
  obtain ⟨hkey, hmode, hmodes, hlexing, htable, hdrops⟩ := e
  exact ⟨h.toGrown.congr hkey, hmodes ▸ hmode ▸ h.suited, hmodes ▸ hmode ▸ h.modes,
    hlexing ▸ h.lexing, htable ▸ h.tableText, hdrops ▸ h.drops⟩

/-- Inside of an element that is opened, what it holds is read on. -/
theorem opened (h : Inside ground frames m inner s) (m' : Memory) {space : Space} {tag : Tag}
    {mode : Mode} {modes : List Mode}
    (hsuited : Suited ground' (Grown.newFrame space inner tag s :: frames) modes mode)
    (hmodes : modes = ground'.modes mode m'.modes) {fs : List Formatting}
    (hfs : Formats ((Grown.newFrame space inner tag s).element :: frames.map Frame.element) fs)
    (hform : m'.form ≠ none →
      ∃ f ∈ Grown.newFrame space inner tag s :: frames, f.element.is "form") :
    Inside ground' (Grown.newFrame space inner tag s :: frames) m' .nil
      { Grown.opened frames space inner tag s with
        formatting := fs, form := m'.form, mode, templateModes := modes } where
  toGrown := (h.opened_grown hfs hform).congr rfl
  suited := hsuited
  modes := hmodes
  lexing := h.lexing
  tableText := h.tableText
  drops := h.drops

/-- Behind an element that is closed, what the one around it holds is read on. -/
theorem closed (h : Inside ground' (f :: frames) m' inner t) {mode : Mode} {modes : List Mode}
    (hsuited : Suited ground frames modes mode) (hmodes : modes = ground.modes mode m.modes)
    {fs : List Formatting} (hfs : Formats (frames.map Frame.element) fs)
    (hform : m.form ≠ none → ∃ f ∈ frames, f.element.is "form") :
    Inside ground frames m (f.closed inner)
      { t with
        stack := frames.map Frame.element ++ [rootElement]
        formatting := fs
        form := m.form
        mode
        templateModes := modes } where
  toGrown := (h.closed_grown hfs hform).congr rfl
  suited := hsuited
  modes := hmodes
  lexing := h.lexing
  tableText := h.tableText
  drops := h.drops

/-- More nodes in the innermost element change nothing else. -/
theorem grow (h : Inside ground frames m inner s) {inner' : Forest} (hleafy : inner'.Leafy) :
    Inside ground frames m inner' (Grown.grow frames inner' s) where
  toGrown := h.grow_grown hleafy
  suited := h.suited
  modes := h.modes
  lexing := h.lexing
  tableText := h.tableText
  drops := h.drops

end Inside

/-! ## Pieces -/

/-- A look at a piece, which may be used up then. -/
def look (piece : Piece) (s : Construction) : Progress × Construction :=
  (if isForeign s.stack.head? piece then inForeign piece else inMode s.mode piece).run s

/-- The piece is used up after so many looks at it, apart from the last. -/
inductive Takes (piece : Piece) : (looks : Nat) → Construction → Construction → Prop
  | done {s t : Construction} (h : look piece s = (.done, t)) : Takes piece 0 s t
  | again {looks : Nat} {s t u : Construction} (h : look piece s = (.again, t))
    (later : Takes piece looks t u) : Takes piece (looks + 1) s u

theorem run_takeUpTo_succ {progress : Progress} (h : look piece s = (progress, t)) (steps : Nat) :
    (takeUpTo piece (steps + 1)).run s =
      match progress with
      | .done => ((), t)
      | .again => (takeUpTo piece steps).run t := by
  conv_lhs => unfold takeUpTo
  refine run_bind_eq (a := s) (t := s) rfl ?_
  unfold look at h
  split at h <;> rename_i hforeign
  · rw [if_pos hforeign]
    exact run_bind_eq h (by cases progress <;> rfl)
  · rw [if_neg hforeign]
    exact run_bind_eq h (by cases progress <;> rfl)

namespace Takes

variable {looks : Nat}

theorem run_takeUpTo (h : Takes piece looks s t) (steps : Nat) :
    (takeUpTo piece (steps + looks + 1)).run s = ((), t) := by
  induction h with
  | done h => rw [run_takeUpTo_succ h]
  | again h later ih => rw [← Nat.add_assoc, run_takeUpTo_succ h, ih]

theorem run_take (h : Takes piece looks s t) (hlooks : looks < 100) :
    (take piece).run s = ((), t) := by
  have hsteps : 10 * (s.stack.length + 10) =
      (10 * s.stack.length + (99 - looks)) + looks + 1 := by omega
  unfold take
  refine run_bind_eq (a := s) (t := s) rfl ?_
  rw [hsteps]
  exact h.run_takeUpTo _

end Takes

/-- The piece is used up after few looks at it. -/
def Taken (piece : Piece) (s t : Construction) : Prop := ∃ looks < 50, Takes piece looks s t

namespace Taken

/-- A piece that is used up at once. -/
theorem once (h : look piece s = (.done, t)) : Taken piece s t := ⟨0, by decide, .done h⟩

/-- A piece that is looked at a second time and used up then. -/
theorem twice (h : look piece s = (.again, t)) (h' : look piece t = (.done, u)) :
    Taken piece s u := ⟨1, by decide, .again h (.done h')⟩

theorem run_take (h : Taken piece s t) : (take piece).run s = ((), t) := by
  obtain ⟨looks, hlooks, htakes⟩ := h
  exact htakes.run_take (by omega)

end Taken

theorem look_eq (h : isForeign s.stack.head? piece = false) :
    look piece s = (inMode s.mode piece).run s := by
  unfold look
  rw [if_neg (by simp [h])]

theorem look_foreign_eq (h : isForeign s.stack.head? piece = true) :
    look piece s = (inForeign piece).run s := by
  unfold look
  rw [if_pos h]

theorem isForeign_eq_false (he : e.space = .html) (piece : Piece) :
    isForeign (some e) piece = false := by
  cases piece <;> simp [isForeign, he]

/-- Grounds that lie in HTML elements. -/
def Ground.ofHtml : Ground → Prop
  | .flow | .foreign _ => False
  | _ => True

theorem Ground.Fits.space_eq (h : ground.Fits e) (hhtml : ground.ofHtml) : e.space = .html := by
  cases ground <;> simp_all [Fits, ofHtml, OpenElement.isAny, OpenElement.is]

/-- In an HTML element a piece is looked at as the mode asks for. -/
theorem Placed.look_eq (h : Placed frames inner s) (hspace : (current frames).space = .html)
    (piece : Piece) : look piece s = (inMode s.mode piece).run s := by
  refine ReleaseListing.Html.look_eq ?_
  rw [h.head?_stack]
  exact isForeign_eq_false hspace piece

/-! ## Tokens -/

/-- The state in front of what is no line feed. -/
def undropped (s : Construction) : Construction := { s with dropsLineFeed := false }

/-- The token that is taken as the piece, if the piece is a mark. -/
def Piece.token? : Piece → Option Token
  | .startTag tag => some (.startTag tag)
  | .endTag tag => some (.endTag tag)
  | .comment words => some (.comment words)
  | _ => none

theorem run_feed_mark {token : Token} (h : piece.token? = some token) :
    (feed token).run s = (take piece).run (undropped s) := by
  cases piece <;> cases h <;> rfl

/-- A run of text as a piece. -/
def pieceOf (run : List Char) : Piece :=
  match run with
  | [] => .blank []
  | c :: _ => if c == '\x00' then .nul else if isSpace c then .blank run else .text run

theorem run_feed_text (h : s.dropsLineFeed = true → cs.head? ≠ some '\n') :
    (feed (.text cs)).run s = ((piecesOf cs).forM take).run (undropped s) := by
  unfold feed
  refine run_bind_eq (a := s) (t := s) rfl ?_
  refine run_bind_eq (t := undropped s) rfl ?_
  dsimp only
  split
  · rename_i hdrops
    exact absurd rfl (h hdrops)
  · rfl

theorem read_succ {token : Token}
    (hnext : ∀ foreign, s.lexing.next foreign cs = (some token, rest)) (hcs : cs ≠ []) (n : Nat) :
    s.read (n + 1) cs = ((feed token).run s).2.read n rest := by
  rw [Construction.read]
  · simp only [hnext]
  · exact hcs

/-! ## Runs of steps -/

/-- Reading `cs` in the state `s` comes to reading `rest` in the state `t`. -/
def Reads (s : Construction) (cs : List Char) (t : Construction) (rest : List Char) : Prop :=
  ∀ n, cs.length ≤ n → ∃ m, rest.length ≤ m ∧ s.read n cs = t.read m rest

namespace Reads

theorem refl (s : Construction) (cs : List Char) : Reads s cs s cs := fun n h => ⟨n, h, rfl⟩

theorem trans {ds : List Char} (h : Reads s cs t ds) (h' : Reads t ds u rest) :
    Reads s cs u rest := by
  intro n hn
  obtain ⟨m, hm, heq⟩ := h n hn
  obtain ⟨k, hk, heq'⟩ := h' m hm
  exact ⟨k, hk, heq.trans heq'⟩

/-- One token is read. -/
theorem token {token : Token}
    (hnext : ∀ foreign, s.lexing.next foreign cs = (some token, rest))
    (hlength : rest.length < cs.length) (hfeed : (feed token).run s = ((), t)) : Reads s cs t rest := by
  intro n hn
  obtain ⟨n, rfl⟩ := Nat.exists_eq_add_one_of_ne_zero (Nat.ne_of_gt (Nat.zero_lt_of_lt
    (Nat.lt_of_lt_of_le hlength hn)))
  refine ⟨n, by omega, ?_⟩
  have hcs : cs ≠ [] := List.length_pos_iff.1 (Nat.zero_lt_of_lt hlength)
  rw [read_succ hnext hcs, hfeed]

end Reads

/-- A line feed that may be dropped is of no account if none comes next. -/
theorem reads_of_undropped {token : Token}
    (hnext : ∀ foreign, s.lexing.next foreign cs = (some token, rest)) (hcs : cs ≠ [])
    (hfeed : (feed token).run s = (feed token).run (undropped s)) {ds : List Char}
    (h : Reads (undropped s) cs u ds) : Reads s cs u ds := by
  intro n hn
  obtain ⟨m, hm, heq⟩ := h n hn
  refine ⟨m, hm, heq ▸ ?_⟩
  obtain ⟨n, rfl⟩ := Nat.exists_eq_add_one_of_ne_zero (Nat.ne_of_gt (Nat.lt_of_lt_of_le
    (List.length_pos_iff.2 hcs) hn))
  rw [read_succ hnext hcs, hfeed]
  exact (read_succ (s := undropped s) hnext hcs n).symm

/-! ## Text -/

/-- States in which text is taken: `I done s` says that `done` is what has been taken of it. -/
structure TakesText (lexing : Lexing) (p : Char → Prop) (I : List Char → Construction → Prop) :
    Prop where
  lexing_eq : ∀ {done s}, I done s → s.lexing = lexing
  drops : ∀ {done s}, I done s → s.dropsLineFeed = false
  take : ∀ {done run s}, I done s → run ≠ [] → (∀ c ∈ run, p c) →
    ∃ t, (take (pieceOf run)).run s = ((), t) ∧ I (done ++ run) t

namespace TakesText

variable {lexing : Lexing} {p : Char → Prop} {I : List Char → Construction → Prop}
  {done source : List Char}

theorem run_pieces (h : TakesText lexing p I) (hs : I done s) (runs : List (List Char))
    (hruns : ∀ run ∈ runs, run ≠ [] ∧ ∀ c ∈ run, p c) :
    ∃ t, ((runs.map pieceOf).forM Construct.take).run s = ((), t) ∧
      I (done ++ runs.flatten) t := by
  induction runs generalizing done s with
  | nil => exact ⟨s, rfl, by simpa using hs⟩
  | cons run runs ih =>
    obtain ⟨⟨hne, hrun⟩, hruns⟩ := List.forall_mem_cons.1 hruns
    obtain ⟨t, ht, hI⟩ := h.take hs hne hrun
    obtain ⟨u, hu, hI'⟩ := ih hI hruns
    refine ⟨u, run_bind_eq ht hu, ?_⟩
    rwa [List.flatten_cons, ← List.append_assoc]

theorem run_feed (h : TakesText lexing p I) (hs : I done s) (hcs : ∀ c ∈ cs, p c) :
    ∃ t, (feed (.text cs)).run s = ((), t) ∧ I (done ++ cs) t := by
  have hundropped : undropped s = s := by
    rw [undropped, ← h.drops hs]
  rw [run_feed_text fun hdrops => absurd (hdrops.symm.trans (h.drops hs)) (by decide), hundropped]
  let together (a b : Char) : Bool := isSpace a == isSpace b && a != '\x00' && b != '\x00'
  obtain ⟨t, ht, hI⟩ := h.run_pieces hs (cs.splitBy together) fun run hrun =>
    ⟨fun hnil => List.nil_notMem_splitBy together cs (hnil ▸ hrun), fun c hc => by
      have hmem := List.mem_flatten_of_mem hrun hc
      rw [List.flatten_splitBy] at hmem
      exact hcs c hmem⟩
  rw [List.flatten_splitBy] at hI
  exact ⟨t, ht, hI⟩

/-- Text that is spelled is read. -/
theorem reads (h : TakesText lexing p I) (hs : I done s) (hspells : Spells lexing rest source cs)
    (hcs : ∀ c ∈ cs, p c) : ∃ t, I (done ++ cs) t ∧ Reads s source t rest := by
  induction hspells generalizing done s with
  | nil => exact ⟨s, by simpa using hs, .refl s rest⟩
  | run hnext hrun hlength _ ih =>
    obtain ⟨hhead, htail⟩ := List.forall_mem_append.1 hcs
    obtain ⟨t, ht, hI⟩ := h.run_feed hs hhead
    obtain ⟨u, hI', hreads⟩ := ih hI htail
    rw [← h.lexing_eq hs] at hnext
    exact ⟨u, List.append_assoc done _ _ ▸ hI',
      (Reads.token hnext hlength ht).trans hreads⟩

end TakesText

end ReleaseListing.Html
