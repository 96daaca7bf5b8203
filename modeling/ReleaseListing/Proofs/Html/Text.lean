import ReleaseListing.Proofs.Html.Step

/-!
# Text between the nodes of a page

Text in front of a mark lands at the end of what the innermost open element holds
(`Inside.reads_text`). Between the parts of a table it waits for the mark (`Pending`).
-/

namespace ReleaseListing.Html

open Construct Grown

variable {s t u : Construction} {piece : Piece} {cs rest run done mark : List Char}
  {frames : List Frame} {form : Option Nat} {ground : Ground} {m : Memory} {e : OpenElement}
  {inner inner' : Forest}

/-! ## Where formatting applies -/

/-- Nothing has to be opened again, as every entry belongs to an open element. -/
theorem Placed.run_reopenFormatting (h : Placed frames inner s)
    (hfs : Formats (frames.map Frame.element) s.formatting) :
    reopenFormatting.run s = ((), s) := by
  have hclosed : ∀ p : Formatting → Bool, p .marker = false →
      (∀ e tag, .element e tag ∈ s.formatting → p (.element e tag) = false) →
      s.formatting.takeWhile p = [] := by
    intro p hmarker helement
    cases hfs : s.formatting with
    | nil => rfl
    | cons d fs =>
      refine List.takeWhile_cons_of_neg (Bool.not_eq_true _ ▸ ?_)
      cases d with
      | marker => exact hmarker
      | element e tag => exact helement e tag (by simp [hfs])
  unfold reopenFormatting
  refine run_bind_eq (a := s) (t := s) rfl ?_
  rw [hclosed]
  · rfl
  · rfl
  · intro e tag hmem
    have hopen : s.stack.any (·.id == e.id) = true := by
      rw [h.stack, List.any_eq_true]
      exact ⟨e, List.mem_append_left _ (hfs.mem hmem), beq_self_eq_true _⟩
    simp [hopen]

theorem Grown.run_reopenFormatting (h : Grown frames form inner s) :
    reopenFormatting.run s = ((), s) := h.toPlaced.run_reopenFormatting h.formatting

/-! ## Text that is put at once -/

/-- The text and the links of what has grown by a text. -/
def Extends (inner : Forest) (cs : List Char) (inner' : Forest) : Prop :=
  inner'.text = inner.text ++ cs ∧ inner'.links = inner.links

theorem Grown.extends_appendText (h : Grown frames form inner' s)
    (hinner : Extends inner done inner') (run : List Char) :
    Extends inner (done ++ run) (inner'.appendText s.nextId run) := by
  obtain ⟨-, htext, hlinks⟩ := h.leafy.appendText s.nextId run
  exact ⟨by rw [htext, hinner.1, List.append_assoc], hlinks.trans hinner.2⟩

/-- A run of text that is not empty is blank or is not, unless it starts with NUL. -/
theorem pieceOf_cases (hrun : run ≠ []) (hnul : ∀ c ∈ run, tidyChar c) :
    pieceOf run = .blank run ∨ pieceOf run = .text run ∧ ¬ ∀ c ∈ run, isSpace c := by
  cases run with
  | nil => exact absurd rfl hrun
  | cons c run =>
    have hc : (c == '\x00') = false := by
      rw [beq_eq_false_iff_ne]
      rintro rfl
      exact absurd (hnul _ List.mem_cons_self) (by decide)
    unfold pieceOf
    simp only [hc, Bool.false_eq_true, if_false]
    by_cases hspace : isSpace c
    · exact .inl (if_pos hspace)
    · exact .inr ⟨if_neg hspace, fun h => hspace (h c List.mem_cons_self)⟩

/-- The text is put in the innermost open element; a frameset may not be allowed any more. -/
def Puts (frames : List Frame) (inner : Forest) (run : List Char) (s : Construction)
    (r : Progress × Construction) : Prop :=
  ∃ allowed, r = (.done, { grow frames (inner.appendText s.nextId run) s with
    framesetAllowed := allowed })

theorem Placed.puts_putText (h : Placed frames inner s) (run : List Char) :
    Puts frames inner run s ((thenDone (putText run)).run s) :=
  ⟨s.framesetAllowed, run_thenDone (h.run_putText run)⟩

theorem Placed.puts_inBody (h : Placed frames inner s)
    (hfs : Formats (frames.map Frame.element) s.formatting)
    (hpiece : piece = .blank run ∨ piece = .text run) :
    Puts frames inner run s ((inBody piece).run s) := by
  have hbody : (bodyText run).run s = ((), grow frames (inner.appendText s.nextId run) s) :=
    run_bind_eq (h.run_reopenFormatting hfs) (h.run_putText run)
  rcases hpiece with rfl | rfl
  · exact ⟨s.framesetAllowed, run_thenDone hbody⟩
  · exact ⟨false, run_thenDone (run_bind_eq hbody rfl)⟩

/-- Text stays in an element that is no part of a table. -/
theorem Grown.puts_textInTable (h : Grown frames form inner s)
    (hcurrent : (current frames).isAny fosteringNames = false)
    (hpiece : piece = .blank run ∨ piece = .text run) :
    Puts frames inner run s ((textInTable piece).run s) := by
  have hfosters : Placed frames inner { s with fostering := true } :=
    { h.toPlaced with fostering := Bool.and_eq_false_iff.2 (.inr hcurrent) }
  obtain ⟨allowed, hrun⟩ := hfosters.puts_inBody h.formatting hpiece
  have hneg : (currentIs (·.isAny fosteringNames)).run s = (false, s) := by
    have hany : s.stack.head?.any (·.isAny fosteringNames) = false := by
      rw [h.head?_stack]
      exact hcurrent
    exact congrArg (·, s) hany
  refine ⟨allowed, run_bind_eq hneg ?_⟩
  refine run_bind_eq (t := { s with fostering := true }) rfl (run_bind_eq hrun ?_)
  show (Progress.done, { grow frames (inner.appendText s.nextId run) s with
    framesetAllowed := allowed, fostering := false }) = _
  rw [← h.fosters]
  rfl

/-! ### On each ground -/

/-- Parts of tables, in which text has no place. -/
def Ground.ofTable (ground : Ground) : Prop := ground ∈ [.table, .rows, .cells]

theorem Ground.Fits.isForeign_text (h : Ground.flow.Fits e)
    (hpiece : piece = .blank run ∨ piece = .text run) : isForeign (some e) piece = false := by
  rcases hpiece with rfl | rfl <;> rcases h with h | h | h <;> simp [isForeign, h]

/-- Among text, text is read as in the body. -/
theorem Ground.suits.inMode_text {mode : Mode} (h : Ground.flow.suits mode)
    (hpiece : piece = .blank run ∨ piece = .text run) : inMode mode piece = inBody piece := by
  rcases hpiece with rfl | rfl <;> rcases h with rfl | rfl | rfl <;> rfl

/-- In a table, text is read in the same way in all modes. -/
theorem inMode_textInTable {mode : Mode} (h : mode ∈ [Mode.inTable, .inTableBody, .inRow])
    (hpiece : piece = .blank run ∨ piece = .text run) : inMode mode piece = textInTable piece := by
  simp only [List.mem_cons, List.not_mem_nil, or_false] at h
  rcases hpiece with rfl | rfl <;> rcases h with rfl | rfl | rfl <;> rfl

/-- Text that is not blank is put in elements that may hold it, and blank text anywhere but between
the parts of a table. -/
theorem Inside.puts_text (h : Inside ground frames m inner s)
    (hpart : ground.ofTable → (current frames).isAny fosteringNames = false)
    (hpiece : piece = .blank run ∨ piece = .text run ∧ ground.holdsWords) :
    Puts frames inner run s (look piece s) := by
  have htext : piece = .blank run ∨ piece = .text run := hpiece.imp_right (·.1)
  have hblank : ground.holdsWords = false → piece = .blank run := fun hground =>
    hpiece.resolve_right fun hwords => absurd (hground.symm.trans hwords.2) (by decide)
  have hput := h.puts_putText run
  have hbody := h.puts_inBody h.formatting htext
  have hfits := h.suited.fits
  have hsuits := h.suited.suits
  have hlook : ground.ofHtml → look piece s = (inMode s.mode piece).run s :=
    fun hhtml => h.look_eq (hfits.space_eq hhtml) piece
  cases ground with
  | flow =>
    rw [look_eq (h.head?_stack ▸ hfits.isForeign_text htext), hsuits.inMode_text htext]
    exact hbody
  | head =>
    rw [hlook trivial, hsuits, hblank rfl]
    exact hput
  | columns =>
    rw [hlook trivial, hsuits, hblank rfl]
    exact hput
  | frames =>
    rw [hlook trivial, hsuits, hblank rfl]
    exact hput
  | table | rows | cells =>
    rw [hlook trivial, hsuits, inMode_textInTable (by decide) htext]
    exact h.puts_textInTable (hpart (by simp [Ground.ofTable])) htext
  | select =>
    rw [hlook trivial]
    rcases hsuits with hmode | hmode <;> rw [hmode] <;> rcases htext with rfl | rfl <;> exact hput
  | foreign space =>
    obtain ⟨hspace, hne, hformula, hdrawing⟩ := hfits
    have hforeign : isForeign s.stack.head? piece = true := by
      rw [h.head?_stack]
      rcases htext with rfl | rfl <;> simp [isForeign, hspace, hne, hformula, hdrawing]
    rw [look_foreign_eq hforeign]
    rcases htext with rfl | rfl
    · exact hput
    · exact ⟨false, run_thenDone (run_bind_eq (h.run_putText run) rfl)⟩
  | template holds =>
    have htemplate : (current frames).isAny fosteringNames = false := by
      have hname : (current frames).name = "template" :=
        beq_iff_eq.1 (Bool.and_eq_true_iff.1 hfits.1).2
      simp [OpenElement.isAny, hname, fosteringNames]
    have htable := h.puts_textInTable htemplate htext
    rw [hlook trivial]
    rcases hsuits with hmode | hmode
    · rw [hmode]
      rcases htext with rfl | rfl <;> exact hbody
    · rw [hmode]
      cases holds with
      | columns =>
        rw [hblank rfl]
        exact hput
      | table | rows | cells =>
        rw [inMode_textInTable (by decide) htext]
        exact htable
      | _ => exact hbody

/-- Whether text may stand on the ground. -/
def Ground.holdsText (ground : Ground) (c : Char) : Prop :=
  tidyChar c ∧ (ground.holdsWords ∨ isSpace c)

theorem Ground.piece_of_holdsText (hrun : run ≠ []) (hchars : ∀ c ∈ run, ground.holdsText c) :
    pieceOf run = .blank run ∨ pieceOf run = .text run ∧ ground.holdsWords := by
  refine (pieceOf_cases hrun fun c hc => (hchars c hc).1).imp_right fun ⟨hpiece, hnot⟩ => ?_
  refine ⟨hpiece, ?_⟩
  by_contra hwords
  exact hnot fun c hc => (hchars c hc).2.resolve_left hwords

/-- Text is put at once, unless it stands between the parts of a table. -/
theorem Inside.take_text (h : Inside ground frames m inner s)
    (hpart : ground.ofTable → (current frames).isAny fosteringNames = false) (hrun : run ≠ [])
    (hchars : ∀ c ∈ run, ground.holdsText c) :
    ∃ t, (take (pieceOf run)).run s = ((), t) ∧
      Inside ground frames m (inner.appendText s.nextId run) t := by
  obtain ⟨allowed, hlook⟩ := h.puts_text hpart (Ground.piece_of_holdsText hrun hchars)
  exact ⟨_, (Taken.once hlook).run_take,
    (h.grow (h.leafy.appendText s.nextId run).1).congr rfl⟩

/-! ## Blank text between the parts of a table -/

/-- Blank text waits for the next mark. -/
structure Pending (ground : Ground) (frames : List Frame) (m : Memory) (inner : Forest)
    (done : List Char) (s : Construction) : Prop extends Grown frames m.form inner s where
  ofTable : ground.ofTable
  mode : s.mode = .inTableText
  suited : Suited ground frames s.templateModes s.interrupted
  modes : s.templateModes = ground.modes s.interrupted m.modes
  blanks : ∃ runs : List (List Char), s.tableText = runs.map .blank ∧ runs.reverse.flatten = done
  lexing : s.lexing = .data
  drops : s.dropsLineFeed = false

theorem Ground.ofTable.ofHtml (h : ground.ofTable) : ground.ofHtml := by
  cases ground <;> simp_all [ofTable, Ground.ofHtml]

theorem Ground.ofTable.holdsWords (h : ground.ofTable) : ground.holdsWords = false := by
  cases ground <;> simp_all [ofTable, Ground.holdsWords]

theorem Inside.take_blank (h : Inside ground frames m inner s) (htable : ground.ofTable)
    (hpart : (current frames).isAny fosteringNames = true) (run : List Char) :
    ∃ t, (take (.blank run)).run s = ((), t) ∧ Pending ground frames m inner run t := by
  let waiting : Construction := { s with interrupted := s.mode, mode := .inTableText }
  have hspace := h.suited.fits.space_eq htable.ofHtml
  have hcurrent : (currentIs (·.isAny fosteringNames)).run s = (true, s) := by
    have hany : s.stack.head?.any (·.isAny fosteringNames) = true := by
      rw [h.head?_stack]
      exact hpart
    exact congrArg (·, s) hany
  have hmode : s.mode ∈ [Mode.inTable, .inTableBody, .inRow] := by
    have hsuits := h.suited.suits
    cases ground <;> simp [Ground.ofTable] at htable <;> rw [hsuits] <;> decide
  have hagain : look (.blank run) s = (.again, waiting) := by
    rw [h.look_eq hspace, inMode_textInTable hmode (.inl rfl)]
    exact run_bind_eq hcurrent rfl
  have hwaiting : Placed frames inner waiting := { h.toPlaced with }
  have hdone : look (.blank run) waiting = (.done, { waiting with tableText := [.blank run] }) := by
    rw [hwaiting.look_eq hspace,
      show ([.blank run] : List Piece) = .blank run :: s.tableText by rw [h.tableText]]
    rfl
  exact ⟨_, (Taken.twice hagain hdone).run_take, h.toGrown.congr rfl, htable, rfl, h.suited,
    h.modes, ⟨[run], rfl, by simp⟩, h.lexing, h.drops⟩

theorem Pending.look_eq (h : Pending ground frames m inner done s) (piece : Piece) :
    look piece s = (inTableText piece).run s := by
  rw [h.toPlaced.look_eq (h.suited.fits.space_eq h.ofTable.ofHtml), h.mode]
  rfl

theorem Pending.take_blank (h : Pending ground frames m inner done s) (run : List Char) :
    ∃ t, (take (.blank run)).run s = ((), t) ∧ Pending ground frames m inner (done ++ run) t := by
  obtain ⟨runs, htable, rfl⟩ := h.blanks
  exact ⟨{ s with tableText := .blank run :: s.tableText },
    (Taken.once (h.look_eq (.blank run))).run_take, h.toGrown.congr rfl, h.ofTable, h.mode,
    h.suited, h.modes, ⟨run :: runs, congrArg (.blank run :: ·) htable, by simp⟩, h.lexing,
    h.drops⟩

theorem Grown.run_putTexts (h : Grown frames form inner s) (runs : List (List Char)) :
    ∃ t inner', ((runs.map Piece.blank).forM fun
        | .blank cs => putText cs
        | _ => pure ()).run s = ((), t) ∧ Grown frames form inner' t ∧
      Extends inner runs.flatten inner' ∧
        t = { s with nextId := t.nextId, children := t.children } := by
  induction runs generalizing inner s with
  | nil => exact ⟨s, inner, rfl, h, ⟨by simp, rfl⟩, rfl⟩
  | cons run runs ih =>
    obtain ⟨hleafy, htext, hlinks⟩ := h.leafy.appendText s.nextId run
    obtain ⟨t, inner', hrun, ht, hextends, heq⟩ := ih (h.grow_grown hleafy)
    refine ⟨t, inner', run_bind_eq (h.run_putText run) hrun, ht, ⟨?_, ?_⟩, heq⟩
    · rw [hextends.1, htext, List.flatten_cons, List.append_assoc]
    · rw [hextends.2, hlinks]

/-- The blank text is put in front of the mark. -/
theorem Pending.run_inTableText (h : Pending ground frames m inner done s) :
    ∃ t inner', Inside ground frames m inner' t ∧ Extends inner done inner' ∧
      ∀ piece token, piece.token? = some token → (inTableText piece).run s = (.again, t) := by
  obtain ⟨runs, htable, rfl⟩ := h.blanks
  obtain ⟨t, inner', hrun, ht, hextends, heq⟩ := h.run_putTexts runs.reverse
  refine ⟨{ t with tableText := [], mode := t.interrupted }, inner',
    ⟨ht.congr rfl, ?_, ?_, ?_, rfl, ?_⟩, hextends, ?_⟩
  · rw [heq]
    exact h.suited
  · rw [heq]
    exact h.modes
  · rw [heq]
    exact h.lexing
  · rw [heq]
    exact h.drops
  · intro piece token hpiece
    have hblank : ∀ (p : Piece → Bool), (∀ run, p (.blank run) = false) →
        ¬ (runs.map Piece.blank).reverse.any p = true := by
      intro p hp
      simp [hp]
    rw [List.map_reverse] at hrun
    have hmark : (inTableText piece).run s = (do
        (runs.map Piece.blank).reverse.forM fun
          | .blank cs => putText cs
          | _ => pure ()
        modify fun s => { s with tableText := [], mode := s.interrupted }
        return Progress.again : Construct Progress).run s := by
      cases piece <;> cases hpiece
      all_goals
        unfold inTableText
        refine run_bind_eq (a := s) (t := s) rfl ?_
        simp only [htable]
        exact congrArg (fun action : Construct Progress => action.run s)
          (if_neg (hblank _ fun _ => rfl))
    rw [hmark]
    exact run_bind_eq hrun rfl

/-! ## Text in front of a mark -/

/-- What is written for the piece: a mark that is read in one go. -/
structure Marks (mark : List Char) (piece : Piece) : Prop where
  start : ∃ tail, mark = '<' :: tail
  token : ∃ token, piece.token? = some token ∧
    ∀ foreign rest, Lexing.data.next foreign (mark ++ rest) = (some token, rest)

/-- In the state `s` a mark is taken as in the state `t`. -/
def Awaits (s t : Construction) : Prop :=
  ∀ piece token u, piece.token? = some token → Taken piece t u → (take piece).run s = ((), u)

theorem Awaits.refl (s : Construction) : Awaits s s := fun _ _ _ _ htaken => htaken.run_take

/-- In front of a mark waiting text may as well have been put. -/
theorem Pending.exists_awaits (h : Pending ground frames m inner done s) :
    ∃ t inner', Inside ground frames m inner' t ∧ Extends inner done inner' ∧ Awaits s t := by
  obtain ⟨t, inner', ht, hextends, hagain⟩ := h.run_inTableText
  refine ⟨t, inner', ht, hextends, fun piece token u hpiece ⟨looks, hlooks, htakes⟩ => ?_⟩
  have hlook := (h.look_eq piece).trans (hagain piece token hpiece)
  exact (Takes.again hlook htakes).run_take (by omega)

theorem Extends.refl (inner : Forest) : Extends inner [] inner := ⟨(List.append_nil _).symm, rfl⟩

theorem Extends.trans {inner'' : Forest} {cs ds : List Char} (h : Extends inner cs inner')
    (h' : Extends inner' ds inner'') : Extends inner (cs ++ ds) inner'' :=
  ⟨by rw [h'.1, h.1, List.append_assoc], h'.2.trans h.2⟩

/-- The text `done` has been taken: it has been put, or its end waits. -/
inductive Taking (ground : Ground) (frames : List Frame) (m : Memory) (inner : Forest) :
    (done : List Char) → Construction → Prop
  | put {done : List Char} {inner' : Forest} {s : Construction}
    (h : Inside ground frames m inner' s) (hextends : Extends inner done inner') :
    Taking ground frames m inner done s
  | pending {done waiting : List Char} {inner' : Forest} {s : Construction}
    (h : Pending ground frames m inner' waiting s) (hextends : Extends inner done inner') :
    Taking ground frames m inner (done ++ waiting) s

namespace Taking

theorem exists_awaits (h : Taking ground frames m inner done s) :
    ∃ t inner', Inside ground frames m inner' t ∧ Extends inner done inner' ∧ Awaits s t := by
  cases h with
  | put h hextends => exact ⟨s, _, h, hextends, .refl s⟩
  | pending h hextends =>
    obtain ⟨t, inner', ht, hextends', hawaits⟩ := h.exists_awaits
    exact ⟨t, inner', ht, hextends.trans hextends', hawaits⟩

theorem lexing_eq (h : Taking ground frames m inner done s) : s.lexing = .data := by
  cases h with
  | put h _ => exact h.lexing
  | pending h _ => exact h.lexing

theorem drops (h : Taking ground frames m inner done s) : s.dropsLineFeed = false := by
  cases h with
  | put h _ => exact h.drops
  | pending h _ => exact h.drops

/-- Text that may stand in the innermost element is put there at once, or waits. -/
theorem take (h : Taking ground frames m inner done s) (hrun : run ≠ [])
    (hchars : ∀ c ∈ run, ground.holdsText c) :
    ∃ t, (take (pieceOf run)).run s = ((), t) ∧ Taking ground frames m inner (done ++ run) t := by
  have hblank : ground.ofTable → pieceOf run = .blank run := fun htable =>
    (Ground.piece_of_holdsText hrun hchars).resolve_right fun hwords =>
      absurd (htable.holdsWords.symm.trans hwords.2) (by decide)
  cases h with
  | put h hextends =>
    by_cases hpart : ground.ofTable ∧ (current frames).isAny fosteringNames = true
    · obtain ⟨t, ht, hpending⟩ := h.take_blank hpart.1 hpart.2 run
      rw [hblank hpart.1]
      exact ⟨t, ht, .pending hpending hextends⟩
    · have hnot : ground.ofTable → (current frames).isAny fosteringNames = false :=
        fun htable => Bool.not_eq_true _ ▸ fun hany => hpart ⟨htable, hany⟩
      obtain ⟨t, ht, hinside⟩ := h.take_text hnot hrun hchars
      exact ⟨t, ht, .put hinside (h.extends_appendText hextends run)⟩
  | pending h hextends =>
    obtain ⟨t, ht, hpending⟩ := h.take_blank run
    rw [hblank h.ofTable, List.append_assoc]
    exact ⟨t, ht, .pending hpending hextends⟩

theorem takesText : TakesText .data ground.holdsText (Taking ground frames m inner) where
  lexing_eq := lexing_eq
  drops := drops
  take := take

end Taking

theorem undropped_eq (h : s.dropsLineFeed = false) : undropped s = s := by
  rw [undropped, ← h]

/-- A line feed that may be dropped is of no account if the text does not start with it. -/
theorem Spells.reads_of_undropped {lexing : Lexing} {source later : List Char} {token : Token}
    (hspells : Spells lexing rest source cs) (hlexing : s.lexing = lexing)
    (hdrops : s.dropsLineFeed = true → cs.head? ≠ some '\n')
    (hpiece : piece.token? = some token)
    (hnext : ∀ foreign, lexing.next foreign rest = (some token, later))
    (hrest : rest ≠ []) {ds : List Char} (h : Reads (undropped s) source u ds) :
    Reads s source u ds := by
  cases hspells with
  | nil =>
    refine ReleaseListing.Html.reads_of_undropped (hlexing ▸ hnext) hrest ?_ h
    rw [run_feed_mark hpiece, run_feed_mark hpiece]
    rfl
  | run hnext hrun hlength _ =>
    refine ReleaseListing.Html.reads_of_undropped (hlexing ▸ hnext)
      (List.length_pos_iff.1 (Nat.zero_lt_of_lt hlength)) ?_ h
    rw [run_feed_text, run_feed_text]
    · rfl
    · exact fun hdrops => absurd hdrops (by simp [undropped])
    · intro hd
      rw [← List.head?_append_of_ne_nil _ hrun]
      exact hdrops hd

/-- Text is read up to a mark, and what waits is put before the mark is taken. -/
theorem Inside.reads_text (h : Inside ground frames m inner (undropped s))
    (hchars : ∀ c ∈ cs, ground.holdsText c)
    (hdrops : s.dropsLineFeed = true → cs.head? ≠ some '\n') (hmarks : Marks mark piece)
    (rest : List Char) :
    ∃ t inner', Inside ground frames m inner' t ∧ Extends inner cs inner' ∧
      ∀ u, Taken piece t u → Reads s (cs.flatMap escapeText ++ (mark ++ rest)) u rest := by
  obtain ⟨⟨tail, rfl⟩, token, hpiece, hnext⟩ := hmarks
  have hspells : Spells .data (('<' :: tail) ++ rest)
      (cs.flatMap escapeText ++ (('<' :: tail) ++ rest)) cs :=
    spells_flatMap (by trivial : Lexing.data.resolves)
      (ne_nul_of_tidyChar fun c hc => (hchars c hc).1) _
  obtain ⟨t₀, htaking, hreads⟩ :=
    Taking.takesText.reads (Taking.put h (.refl inner)) hspells hchars
  obtain ⟨t, inner', ht, hextends, hawaits⟩ := htaking.exists_awaits
  refine ⟨t, inner', ht, hextends, fun u hu => ?_⟩
  refine hspells.reads_of_undropped (s := s) h.lexing hdrops hpiece (hnext · rest)
    (by simp) (hreads.trans ?_)
  refine .token (htaking.lexing_eq ▸ (hnext · rest)) (length_lt_cons_append ..) ?_
  rw [run_feed_mark hpiece, undropped_eq htaking.drops]
  exact hawaits piece token u hpiece hu

end ReleaseListing.Html
