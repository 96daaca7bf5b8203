import ReleaseListing.Proofs.Html.Reference
import ReleaseListing.Proofs.Html.Tidy

/-!
# Reading what is written

Each mark of a tidy page is read in one go, whatever follows: a start tag (`next_opening`), an end
tag (`next_closing`), a comment (`next_comment`), a document type (`next_doctype`). Text is read run
by run, each reference by itself (`next_written`).
-/

namespace ReleaseListing.Html

variable {space : Space} {name : String} {attributes found : List Attribute} {a : Attribute}
  {rest cs words : List Char} {steps : Nat} {foreign : Bool}

/-- A run of characters that satisfy `p` ends at the first one that does not. -/
theorem span_append {p : Char → Bool} {run : List Char} {c : Char} (hrun : ∀ d ∈ run, p d)
    (hc : p c = false) (rest : List Char) :
    (run ++ c :: rest).takeWhile p = run ∧ (run ++ c :: rest).dropWhile p = c :: rest := by
  constructor
  · rw [List.takeWhile_append_of_pos hrun, List.takeWhile_cons_of_neg (by simp [hc]),
      List.append_nil]
  · rw [List.dropWhile_append_of_pos hrun, List.dropWhile_cons_of_neg (by simp [hc])]

/-! ## Attributes -/

namespace Attribute

theorem perm_insert (a : Attribute) (as : List Attribute) : (insert a as).Perm (a :: as) := by
  induction as with
  | nil => exact .refl _
  | cons b as ih =>
    unfold insert
    split
    · exact .refl _
    · exact (ih.cons b).trans (.swap a b as)

/-- Attributes are written in an order of their own, each once. -/
theorem perm_sorted (as : List Attribute) : (sorted as).Perm as := by
  induction as with
  | nil => exact .refl _
  | cons a as ih => exact (perm_insert a _).trans (ih.cons a)

theorem tidy_iff : a.tidy space = true ↔
    a.reread.adopted space = a ∧ (∀ c ∈ a.value.toList, tidyChar c) ∧
      ∃ c cs, a.writtenName = c :: cs ∧ endsTagName c = false ∧
        ∀ d ∈ cs, (!(endsTagName d || d == '=')) = true := by
  unfold tidy
  cases a.writtenName <;> simp [and_assoc]

theorem render_eq (a : Attribute) : a.render =
    ' ' :: (a.writtenName ++ '=' :: '"' :: (a.value.toList.flatMap escape ++ ['"'])) := by
  unfold render writtenName
  cases a.space <;> simp [AttributeSpace.mark]

end Attribute

theorem ne_nul_of_tidyChar (h : ∀ c ∈ cs, tidyChar c) : '\x00' ∉ cs := by
  intro hmem
  exact absurd (h _ hmem) (by decide)

theorem isSpace_eq_false {c : Char} (h : endsTagName c = false) : isSpace c = false := by
  unfold endsTagName at h
  simp only [Bool.or_eq_false_iff] at h
  exact h.1.1

theorem readValue?_quoted (value : String) (h : '\x00' ∉ value.toList) (rest : List Char) :
    readValue? ('"' :: (value.toList.flatMap Attribute.escape ++ '"' :: rest)) =
      some (value, rest) := by
  obtain ⟨htake, hdrop⟩ :=
    span_append (quote_not_mem_escape value.toList) (c := '"') (by decide) rest
  unfold readValue?
  rw [List.dropWhile_cons_of_neg (by decide)]
  simp only [hdrop, htake, attributeValue_escape value h]

theorem addAttribute_eq {name value : String} (hnew : ∀ b ∈ found, b.name ≠ name) :
    addAttribute name value found = { name, value } :: found := by
  have hfound : ¬ found.any (·.name == name) = true := by
    simpa using hnew
  unfold addAttribute
  rw [if_neg hfound]

/-- An attribute that is written is read, and then what follows it. -/
theorem readAttributes?_cons (ha : a.tidy space) (hnew : ∀ b ∈ found, b.name ≠ a.reread.name)
    (steps : Nat) (rest : List Char) :
    readAttributes? (steps + 1) found (a.render ++ rest) =
      readAttributes? steps (a.reread :: found) rest := by
  obtain ⟨-, hvalue, c, cs, hname, hc, hcs⟩ := Attribute.tidy_iff.1 ha
  have hrender : (a.render ++ rest).dropWhile isSpace =
      c :: (cs ++ '=' :: ('"' :: (a.value.toList.flatMap Attribute.escape ++ '"' :: rest))) := by
    rw [Attribute.render_eq, hname, List.cons_append, List.dropWhile_cons_of_pos (by decide),
      List.cons_append, List.cons_append,
      List.dropWhile_cons_of_neg (by simp [isSpace_eq_false hc])]
    simp
  obtain ⟨htake, hdrop⟩ := span_append hcs (c := '=') (by decide)
    ('"' :: (a.value.toList.flatMap Attribute.escape ++ '"' :: rest))
  have hne : ∀ d, endsTagName d = true → c ≠ d := by
    rintro d hd rfl
    exact absurd (hd.symm.trans hc) (by decide)
  rw [readAttributes?, hrender]
  split
  · rename_i heq
    cases heq
  · rename_i heq
    exact absurd (List.cons.inj heq).1 (hne _ (by decide))
  · rename_i heq
    exact absurd (List.cons.inj heq).1 (hne _ (by decide))
  · rename_i heq
    exact absurd (List.cons.inj heq).1 (hne _ (by decide))
  · rename_i d tail _ _ _ heq
    obtain ⟨rfl, rfl⟩ := List.cons.inj heq
    simp only [htake, hdrop, ← hname]
    rw [List.dropWhile_cons_of_neg (by decide)]
    simp only [readValue?_quoted a.value (ne_nul_of_tidyChar hvalue)]
    rw [show lowerName a.writtenName = a.reread.name from rfl, addAttribute_eq hnew]
    rfl

/-- All attributes that are written are read, up to the end of the tag. -/
theorem readAttributes?_flatMap (found : List Attribute) (h : ∀ a ∈ attributes, a.tidy space)
    (hnames : (found.map (·.name) ++ attributes.map (·.reread.name)).Nodup)
    (hsteps : attributes.length < steps) (rest : List Char) :
    readAttributes? steps found (attributes.flatMap Attribute.render ++ '>' :: rest) =
      some (found.reverse ++ attributes.map (·.reread), false, rest) := by
  induction attributes generalizing found steps with
  | nil =>
    obtain ⟨steps, rfl⟩ := Nat.exists_eq_succ_of_ne_zero (Nat.ne_of_gt hsteps)
    simp [readAttributes?, isSpace]
  | cons a attributes ih =>
    obtain ⟨steps, rfl⟩ := Nat.exists_eq_succ_of_ne_zero (Nat.ne_of_gt (Nat.zero_lt_of_lt hsteps))
    obtain ⟨ha, hattributes⟩ := List.forall_mem_cons.1 h
    have hnew : ∀ b ∈ found, b.name ≠ a.reread.name := by
      intro b hb heq
      exact (List.nodup_append.1 hnames).2.2 _ (List.mem_map_of_mem hb) _ (by simp) heq
    rw [List.flatMap_cons, List.append_assoc, readAttributes?_cons ha hnew, ih _ hattributes]
    · simp
    · refine (List.Perm.nodup_iff ?_).1 hnames
      simp only [List.map_cons, List.cons_append]
      exact List.perm_middle
    · exact Nat.lt_of_succ_lt_succ hsteps

theorem length_le_flatMap_render (attributes : List Attribute) :
    attributes.length ≤ (attributes.flatMap Attribute.render).length := by
  induction attributes with
  | nil => exact Nat.le_refl _
  | cons a attributes ih =>
    rw [List.flatMap_cons, List.length_append, List.length_cons]
    have hpos : 0 < a.render.length := by simp [Attribute.render]
    omega

/-! ## Tags -/

theorem tidyName_iff : tidyName space name = true ↔
    space.spelled (lowerName name.toList) = name ∧
      ∃ c cs, name.toList = c :: cs ∧ c.isAlpha ∧ ∀ d ∈ cs, d ≠ '\x00' ∧ endsTagName d = false := by
  unfold tidyName
  cases name.toList <;> simp

/-- What ends the name of a tag is no letter. -/
theorem endsTagName_eq_false {c : Char} (h : c.isAlpha) : endsTagName c = false := by
  unfold endsTagName isSpace
  simp only [Bool.or_eq_false_iff, beq_eq_false_iff_ne]
  refine ⟨⟨⟨⟨⟨⟨?_, ?_⟩, ?_⟩, ?_⟩, ?_⟩, ?_⟩, ?_⟩ <;> rintro rfl <;> exact absurd h (by decide)

theorem forall_endsTagName (h : tidyName space name) :
    ∀ c ∈ name.toList, (!endsTagName c) = true := by
  obtain ⟨-, c, cs, hname, hc, hcs⟩ := tidyName_iff.1 h
  rw [hname]
  intro d hd
  rcases List.mem_cons.1 hd with rfl | hd
  · rw [endsTagName_eq_false hc]
    rfl
  · rw [(hcs d hd).2]
    rfl

/-- The name of an HTML element is in lower case. -/
theorem lowerName_eq (h : tidyName .html name) : lowerName name.toList = name := by
  obtain ⟨hspelled, -⟩ := tidyName_iff.1 h
  exact hspelled

/-- The start tag of an element, with its attributes in the order in which they are written. -/
def startTag (name : String) (attributes : List Attribute) : Tag where
  name
  attributes := Attribute.sorted attributes

theorem tidyTag_iff : tidyTag space name attributes = true ↔
    tidyName space name ∧ (∀ a ∈ attributes, a.tidy space) ∧
      (attributes.map (·.reread.name)).Nodup := by
  simp [tidyTag, and_assoc]

/-- An attribute that is read is, as the element has it, the one that has been written. -/
theorem map_adopted (h : tidyTag space name attributes) :
    (rereadTag name attributes).attributes.map (·.adopted space) = Attribute.sorted attributes := by
  obtain ⟨-, hattributes, -⟩ := tidyTag_iff.1 h
  have hsorted : ∀ a ∈ Attribute.sorted attributes, a.reread.adopted space = a := fun a ha =>
    (Attribute.tidy_iff.1 (hattributes a ((Attribute.perm_sorted _).mem_iff.1 ha))).1
  show ((Attribute.sorted attributes).map (·.reread)).map (·.adopted space) = _
  rw [List.map_map]
  exact (List.map_congr_left hsorted).trans (List.map_id _)

/-- The start tag of an HTML element is read as it stands. -/
theorem rereadTag_eq (h : tidyTag .html name attributes) :
    rereadTag name attributes = startTag name attributes := by
  have hadopted := map_adopted h
  have hid : (rereadTag name attributes).attributes.map (·.adopted .html) =
      (rereadTag name attributes).attributes := List.map_id _
  rw [hid] at hadopted
  unfold rereadTag at hadopted ⊢
  rw [lowerName_eq (tidyTag_iff.1 h).1]
  exact congrArg (Tag.mk name · false) hadopted

/-- A tag that is written is read. -/
theorem readTag?_written (h : tidyTag space name attributes) (rest : List Char) :
    readTag? (name.toList ++ ((Attribute.sorted attributes).flatMap Attribute.render ++
      '>' :: rest)) = some (rereadTag name attributes, rest) := by
  obtain ⟨hname, hattributes, hnodup⟩ := tidyTag_iff.1 h
  have hperm := Attribute.perm_sorted attributes
  have hsorted : ∀ a ∈ Attribute.sorted attributes, a.tidy space :=
    fun a ha => hattributes a (hperm.mem_iff.1 ha)
  obtain ⟨c, tail, htail, hc⟩ : ∃ c tail, (Attribute.sorted attributes).flatMap Attribute.render ++
      '>' :: rest = c :: tail ∧ endsTagName c = true := by
    cases Attribute.sorted attributes with
    | nil => exact ⟨'>', rest, rfl, by decide⟩
    | cons a as =>
      exact ⟨' ', _, by rw [List.flatMap_cons, Attribute.render_eq]; rfl, by decide⟩
  obtain ⟨htake, hdrop⟩ := span_append (forall_endsTagName hname) (c := c) (by rw [hc]; rfl) tail
  rw [← htail] at htake hdrop
  have hlength := length_le_flatMap_render (Attribute.sorted attributes)
  have hread := readAttributes?_flatMap [] hsorted
    (by simpa using (hperm.map (·.reread.name)).nodup_iff.2 hnodup)
    (Nat.lt_succ_of_le (hlength.trans (List.length_append ▸ Nat.le_add_right _ ('>' :: rest).length)))
    rest
  unfold readTag?
  simp only [htake, hdrop, hread]
  rfl

theorem next_data_markup (cs : List Char) :
    Lexing.data.next foreign ('<' :: cs) = readMarkup foreign cs := by
  simp [Lexing.next, textOr]

theorem opening_element (raw : Bool) (space : Space) (name : String) (attributes : List Attribute) :
    (Content.element space name attributes).opening raw =
      '<' :: (name.toList ++ ((Attribute.sorted attributes).flatMap Attribute.render ++ ['>'])) := by
  rw [← List.append_assoc]
  rfl

theorem opening_comment (raw : Bool) (words : String) :
    (Content.comment words).opening raw =
      '<' :: '!' :: '-' :: '-' :: (words.toList ++ ['-', '-', '>']) := rfl

theorem opening_doctype (raw : Bool) (name : String) :
    (Content.doctype name).opening raw =
      '<' :: '!' :: ("DOCTYPE".toList ++ (' ' :: (name.toList ++ ['>']))) := rfl

/-- The start tag of an element is read. -/
theorem next_opening (h : tidyTag space name attributes) (rest : List Char) :
    Lexing.data.next foreign ((Content.element space name attributes).opening false ++ rest) =
      (some (.startTag (rereadTag name attributes)), rest) := by
  obtain ⟨-, c, cs, hname, hc, -⟩ := tidyName_iff.1 (tidyTag_iff.1 h).1
  have hread := readTag?_written h rest
  rw [opening_element, List.cons_append, next_data_markup]
  simp only [List.append_assoc, List.cons_append, List.nil_append]
  rw [hname] at hread ⊢
  unfold readMarkup tagToken
  split
  · rename_i heq
    exact absurd hc ((List.cons.inj heq).1 ▸ by decide)
  · rename_i heq
    exact absurd hc ((List.cons.inj heq).1 ▸ by decide)
  · rename_i heq
    exact absurd hc ((List.cons.inj heq).1 ▸ by decide)
  · rename_i heq
    obtain ⟨rfl, -⟩ := List.cons.inj heq
    rw [if_pos hc, hread]
  · rename_i heq
    cases heq

/-- The tag that is read where an element ends. -/
theorem readTag?_endTagTail (h : tidyName space name) (rest : List Char) :
    readTag? (name.toList ++ '>' :: rest) = some ({ name := lowerName name.toList }, rest) := by
  have htag : tidyTag space name [] := tidyTag_iff.2 ⟨h, by simp, by simp⟩
  exact readTag?_written htag rest

/-- The end tag of an element is read. -/
theorem next_closing (h : tidyName space name) (rest : List Char) :
    Lexing.data.next foreign ('<' :: endTagTail name ++ rest) =
      (some (.endTag { name := lowerName name.toList }), rest) := by
  obtain ⟨-, c, cs, hname, hc, -⟩ := tidyName_iff.1 h
  have hread := readTag?_endTagTail h rest
  rw [List.cons_append, next_data_markup]
  unfold endTagTail
  rw [List.cons_append, List.cons_append, List.append_assoc]
  show readMarkup foreign ('/' :: (name.toList ++ '>' :: rest)) = _
  rw [hname] at hread ⊢
  unfold readMarkup tagToken
  simp only [List.cons_append]
  split
  · rename_i heq
    cases heq
  · rename_i heq
    exact absurd hc ((List.cons.inj heq).1 ▸ by decide)
  · rename_i heq
    obtain ⟨rfl, -⟩ := List.cons.inj heq
    rw [if_pos hc]
    rw [List.cons_append] at hread
    rw [hread]

/-! ## Comments and document types -/

theorem tidyComment_iff : tidyComment words = true ↔
    (∀ c ∈ words, tidyChar c) ∧ ">".toList.isPrefixOf words = false ∧
      "->".toList.isPrefixOf words = false ∧ Text.occursIn "-->".toList words = false ∧
      Text.occursIn "--!>".toList words = false := by
  simp [tidyComment, and_assoc]

theorem splitComment_written (hdash : Text.occursIn "-->".toList words = false)
    (hbang : Text.occursIn "--!>".toList words = false) (done rest : List Char) :
    splitComment done (words ++ '-' :: '-' :: '>' :: rest) = (done.reverse ++ words, rest) := by
  induction words generalizing done with
  | nil => simp [splitComment]
  | cons c words ih =>
    simp only [Text.occursIn, Bool.or_eq_false_iff] at hdash hbang
    have hstep : splitComment done (c :: (words ++ '-' :: '-' :: '>' :: rest)) =
        splitComment (c :: done) (words ++ '-' :: '-' :: '>' :: rest) := by
      have hlong : 3 ≤ (words ++ '-' :: '-' :: '>' :: rest).length := by
        rw [List.length_append, List.length_cons, List.length_cons, List.length_cons]
        omega
      rw [splitComment]
      · rintro tail rfl htail
        rcases words with _ | ⟨x, _ | ⟨y, words⟩⟩ <;> simp_all
      · rintro tail rfl htail
        rcases words with _ | ⟨x, _ | ⟨y, _ | ⟨z, words⟩⟩⟩ <;> simp_all
      · rintro rfl htail
        simp [htail] at hlong
      · rintro rfl htail
        simp [htail] at hlong
      · rintro rfl htail
        simp [htail] at hlong
    rw [List.cons_append, hstep, ih hdash.2 hbang.2]
    simp

/-- A comment is read. -/
theorem next_comment {words : String} (h : tidyComment words.toList) (rest : List Char) :
    Lexing.data.next foreign ((Content.comment words).opening false ++ rest) =
      (some (.comment words), rest) := by
  obtain ⟨hchars, hgt, hdashgt, hdash, hbang⟩ := tidyComment_iff.1 h
  have hsplit := splitComment_written hdash hbang [] rest
  have hcomment : readComment (words.toList ++ '-' :: '-' :: '>' :: rest) =
      (commentToken words.toList, rest) := by
    unfold readComment
    split
    · rename_i heq
      cases hwords : words.toList <;> simp_all
    · rename_i heq
      rcases hwords : words.toList with _ | ⟨c, _ | ⟨d, cs⟩⟩ <;> simp_all
    · rw [hsplit]
      rfl
  rw [opening_comment, List.cons_append, next_data_markup]
  simp [readMarkup, readDeclaration, Text.dropStart?, hcomment, commentToken,
    withoutNul_eq (ne_nul_of_tidyChar hchars)]

theorem readDoctype_written {name : List Char} (h : tidyDoctype name) (rest : List Char) :
    ∃ d, readDoctype (' ' :: (name ++ '>' :: rest)) = (some (.doctype d), rest) := by
  have hin : ∀ c ∈ name, (!(isSpace c || c == '>')) = true := by
    simpa [tidyDoctype] using h
  obtain ⟨htake, hdrop⟩ := span_append hin (c := '>') (by decide) rest
  have hspace : (' ' :: (name ++ '>' :: rest)).dropWhile isSpace = name ++ '>' :: rest := by
    rw [List.dropWhile_cons_of_pos (by decide)]
    cases name with
    | nil => exact List.dropWhile_cons_of_neg (by decide)
    | cons c name => exact List.dropWhile_cons_of_neg (by have := hin c (by simp); simp_all)
  have hend : ∀ d : Doctype, endDoctype d ('>' :: rest) = (some (.doctype { d with
      broken := d.broken }), rest) := by
    intro d
    simp [endDoctype]
  have hgt : ('>' :: rest).dropWhile isSpace = '>' :: rest :=
    List.dropWhile_cons_of_neg (by decide)
  unfold readDoctype
  simp only [hspace, htake, hdrop, hgt]
  split
  · exact ⟨_, hend _⟩
  · split
    · rename_i heq
      have hchars := congrArg String.toList heq
      simp [Text.asciiLower] at hchars
    · rename_i heq
      have hchars := congrArg String.toList heq
      simp [Text.asciiLower] at hchars
    · exact ⟨_, hend _⟩

/-- A document type is read. -/
theorem next_doctype {name : String} (h : tidyDoctype name.toList) (rest : List Char) :
    ∃ d, ∀ foreign, Lexing.data.next foreign ((Content.doctype name).opening false ++ rest) =
      (some (.doctype d), rest) := by
  obtain ⟨d, hd⟩ := readDoctype_written h rest
  refine ⟨d, fun foreign => ?_⟩
  rw [opening_doctype, List.cons_append, next_data_markup, ← hd]
  simp [readMarkup, readDeclaration, Text.dropStart?, startsWithWord, Text.asciiLower]

/-! ## Text -/

/-- Tokens that spell the text `cs` are read off a source, down to `rest`. -/
inductive Spells (lexing : Lexing) (rest : List Char) : (source cs : List Char) → Prop
  | nil : Spells lexing rest rest []
  | run {source later run cs : List Char}
    (hnext : ∀ foreign, lexing.next foreign source = (some (.text run), later))
    (hrun : run ≠ []) (hlength : later.length < source.length)
    (hlater : Spells lexing rest later cs) : Spells lexing rest source (run ++ cs)

/-- What is written for a character of text: itself, or a reference. -/
theorem escapeText_cases (c : Char) :
    (escapeText c = [c] ∧ c ≠ '&' ∧ c ≠ '<') ∨
      ∃ name, escapeText c = '&' :: name ∧ (name, [c]) ∈ writtenEntities := by
  unfold escapeText
  split
  · exact .inr ⟨"amp;".toList, by decide, by decide⟩
  · exact .inr ⟨"nbsp;".toList, by decide, by decide⟩
  · exact .inr ⟨"lt;".toList, by decide, by decide⟩
  · exact .inr ⟨"gt;".toList, by decide, by decide⟩
  · rename_i hamp _ hlt _
    exact .inl ⟨rfl, hamp, hlt⟩

/-- Where text is read with its references. -/
def Lexing.resolves : Lexing → Prop
  | .data | .escapable _ => True
  | _ => False

variable {lexing : Lexing}

theorem next_reference (h : lexing.resolves) (cs : List Char) :
    lexing.next foreign ('&' :: cs) = readReference cs := by
  cases lexing <;> first | exact h.elim | simp [Lexing.next, textOr, withoutNul]

theorem next_run (h : lexing.resolves) {run : List Char} (hrun : run ≠ [])
    (hplain : ∀ c ∈ run, (c != '<' && c != '&') = true) (hnul : '\x00' ∉ run) {c : Char}
    (hc : (c != '<' && c != '&') = false) (rest : List Char) :
    lexing.next foreign (run ++ c :: rest) = (some (.text run), c :: rest) := by
  obtain ⟨htake, hdrop⟩ := span_append hplain hc rest
  cases lexing <;> first | exact h.elim | simp [Lexing.next, textOr, htake, hdrop, hrun,
    withoutNul_eq hnul]

/-- A run in front of what is no text is read at once. -/
theorem Spells.cons_run (h : lexing.resolves) {run : List Char}
    (hplain : ∀ c ∈ run, (c != '<' && c != '&') = true) (hnul : '\x00' ∉ run) {c : Char}
    (hc : (c != '<' && c != '&') = false) {tail : List Char}
    (hlater : Spells lexing rest (c :: tail) cs) :
    Spells lexing rest (run ++ c :: tail) (run ++ cs) := by
  by_cases hrun : run = []
  · rwa [hrun]
  · refine .run (fun _ => next_run h hrun hplain hnul hc tail) hrun ?_ hlater
    rw [List.length_append]
    exact Nat.lt_add_of_pos_left (List.length_pos_iff.2 hrun)

theorem length_lt_cons_append (c : Char) (run rest : List Char) :
    rest.length < (c :: run ++ rest).length := by
  rw [List.length_append, List.length_cons]
  omega

/-- Text that is written with references is read back in front of a mark; `run` is what has been
written of it without any. -/
theorem spells_append_flatMap (h : lexing.resolves) (run : List Char)
    (hplain : ∀ c ∈ run, (c != '<' && c != '&') = true) (hrun : '\x00' ∉ run)
    (hcs : '\x00' ∉ cs) (rest : List Char) :
    Spells lexing ('<' :: rest) (run ++ (cs.flatMap escapeText ++ '<' :: rest)) (run ++ cs) := by
  induction cs generalizing run with
  | nil => exact .cons_run h hplain hrun (by decide) .nil
  | cons c cs ih =>
    obtain ⟨hc, hcs⟩ : '\x00' ≠ c ∧ '\x00' ∉ cs := by simpa using hcs
    rw [List.flatMap_cons]
    rcases escapeText_cases c with ⟨heq, hamp, hlt⟩ | ⟨name, heq, hmem⟩
    · rw [heq, List.append_assoc, List.singleton_append, List.append_cons run c cs,
        List.append_cons run c]
      refine ih (run ++ [c]) ?_ ?_ hcs
      · simpa [or_imp, forall_and, hamp, hlt] using hplain
      · simp [hrun, hc]
    · rw [heq, List.append_assoc, List.cons_append]
      refine .cons_run h hplain hrun (by decide) ?_
      have hnext : ∀ foreign, lexing.next foreign
          ('&' :: (name ++ (cs.flatMap escapeText ++ '<' :: rest))) =
            (some (.text [c]), cs.flatMap escapeText ++ '<' :: rest) := by
        intro foreign
        rw [next_reference h, readReference_written hmem]
      exact .run hnext (by simp) (length_lt_cons_append ..) (ih [] (by simp) (by simp) hcs)

theorem spells_flatMap (h : lexing.resolves) (hcs : '\x00' ∉ cs) (rest : List Char) :
    Spells lexing ('<' :: rest) (cs.flatMap escapeText ++ '<' :: rest) cs :=
  spells_append_flatMap h [] (by simp) (by simp) hcs rest

/-! ## Text that is written as it stands -/

/-- A text that holds what satisfies `p` splits in front of the first such character. -/
theorem exists_split {p : Char → Bool} (h : ∃ c ∈ cs, p c = true) :
    ∃ run c later, cs = run ++ c :: later ∧ (∀ d ∈ run, (!p d) = true) ∧ (!p c) = false := by
  obtain ⟨c, hmem, hc⟩ := h
  obtain ⟨c, run, later, hrun, hc, hcs, -⟩ := List.exists_of_eraseP hmem hc
  exact ⟨run, c, later, hcs, by simpa using hrun, by simpa using hc⟩

/-- Whether something closes an element is told by what stands in front of the next character that
ends a name. -/
theorem closes_append {tail : List Char} (h : ∃ c ∈ tail, endsTagName c = true)
    (rest : List Char) : closes name ('/' :: (tail ++ rest)) = closes name ('/' :: tail) := by
  obtain ⟨run, c, later, rfl, hrun, hc⟩ := exists_split h
  rw [List.append_assoc, List.cons_append]
  unfold closes
  simp only [span_append hrun hc]
  simp

theorem mem_endTagTail (name : String) : ∃ c ∈ endTagTail name, endsTagName c = true :=
  ⟨'/', List.mem_cons_self, by decide⟩

/-- What follows a whole end tag does not tell whether anything in front of it closes an element. -/
theorem closes_append_endTag (other : String) (cs rest : List Char) :
    closes name (cs ++ '<' :: (endTagTail other ++ rest)) =
      closes name (cs ++ '<' :: endTagTail other) := by
  by_cases hslash : ∃ tail, cs = '/' :: tail
  · obtain ⟨tail, rfl⟩ := hslash
    have hend : ∃ c ∈ tail ++ '<' :: endTagTail other, endsTagName c = true := by
      obtain ⟨c, hc, hend⟩ := mem_endTagTail other
      exact ⟨c, by simp [hc], hend⟩
    simpa using closes_append hend rest
  · cases cs with
    | nil => rfl
    | cons c cs =>
      have hc : c ≠ '/' := fun h => hslash ⟨cs, by rw [h]⟩
      simp [closes, hc]

/-- The end tag of an element that holds nothing but text is read. -/
theorem endTagOrText_endTagTail (h : tidyName .html name) (rest : List Char) :
    endTagOrText name (endTagTail name ++ rest) = (some (.endTag { name }), rest) := by
  have hcloses : closes name (endTagTail name ++ rest) = true := by
    obtain ⟨htake, hdrop⟩ := span_append (forall_endsTagName h) (c := '>') (by decide) rest
    show closes name ('/' :: (name.toList ++ ['>'] ++ rest)) = true
    rw [List.append_assoc, List.singleton_append]
    unfold closes
    simp only [htake, hdrop, lowerName_eq h]
    simp
  unfold endTagOrText
  rw [if_pos hcloses]
  show tagToken .endTag (name.toList ++ ['>'] ++ rest) = _
  rw [List.append_assoc, List.singleton_append, tagToken, readTag?_endTagTail h, lowerName_eq h]

theorem next_raw_run {run : List Char} (hrun : run ≠ []) (hplain : ∀ c ∈ run, (c != '<') = true)
    (hnul : '\x00' ∉ run) (last : String) (rest : List Char) :
    (Lexing.raw last).next foreign (run ++ '<' :: rest) = (some (.text run), '<' :: rest) := by
  obtain ⟨htake, hdrop⟩ := span_append hplain (c := '<') (by decide) rest
  simp [Lexing.next, textOr, htake, hdrop, hrun, withoutNul_eq hnul]

theorem next_raw_markup (last : String) (rest : List Char) :
    (Lexing.raw last).next foreign ('<' :: rest) = endTagOrText last rest := by
  simp [Lexing.next, textOr, withoutNul]

/-- Raw text is read back in front of its end tag; `run` is what has been written of it without a
mark. -/
theorem spells_append_raw (run : List Char) (hplain : ∀ c ∈ run, (c != '<') = true)
    (hrun : '\x00' ∉ run) (hcs : '\x00' ∉ cs) (h : staysOpen name cs) (rest : List Char) :
    Spells (.raw name) ('<' :: (endTagTail name ++ rest))
      (run ++ (cs ++ '<' :: (endTagTail name ++ rest))) (run ++ cs) := by
  have hrunThen : ∀ {run cs tail : List Char}, (∀ c ∈ run, (c != '<') = true) → '\x00' ∉ run →
      Spells (.raw name) ('<' :: (endTagTail name ++ rest)) ('<' :: tail) cs →
      Spells (.raw name) ('<' :: (endTagTail name ++ rest)) (run ++ '<' :: tail) (run ++ cs) := by
    intro run cs tail hplain hnul hlater
    by_cases hrun : run = []
    · rwa [hrun]
    · refine .run (fun _ => next_raw_run hrun hplain hnul name tail) hrun ?_ hlater
      rw [List.length_append]
      exact Nat.lt_add_of_pos_left (List.length_pos_iff.2 hrun)
  induction cs generalizing run with
  | nil => exact hrunThen hplain hrun .nil
  | cons c cs ih =>
    obtain ⟨hc, htail⟩ : '\x00' ≠ c ∧ '\x00' ∉ cs := by simpa using hcs
    simp only [staysOpen, Bool.and_eq_true, Bool.not_eq_true'] at h
    obtain ⟨hopen, hstays⟩ := h
    by_cases hlt : c = '<'
    · subst hlt
      refine hrunThen hplain hrun ?_
      have hcloses : closes name (cs ++ '<' :: (endTagTail name ++ rest)) = false := by
        rw [closes_append_endTag]
        simpa using hopen
      have hnext : ∀ foreign, (Lexing.raw name).next foreign
          ('<' :: (cs ++ '<' :: (endTagTail name ++ rest))) =
            (some (.text ['<']), cs ++ '<' :: (endTagTail name ++ rest)) := by
        intro foreign
        rw [next_raw_markup, endTagOrText, if_neg (by simp [hcloses])]
      exact .run hnext (by simp) (by simp) (ih [] (by simp) (by simp) htail hstays)
    · rw [List.cons_append, List.append_cons run c cs, List.append_cons run c]
      refine ih (run ++ [c]) ?_ ?_ htail hstays
      · simpa [or_imp, forall_and, hlt] using hplain
      · simp [hrun, hc]

/-! ## Scripts -/

theorem isPrefixOf_append_endTag (cs rest : List Char) :
    "!--".toList.isPrefixOf (cs ++ '<' :: rest) = "!--".toList.isPrefixOf cs := by
  rcases cs with _ | ⟨a, _ | ⟨b, _ | ⟨c, cs⟩⟩⟩ <;> simp [List.isPrefixOf]

/-- What follows the end tag of a script does not change the state in front of it. -/
theorem step_append_endTag (c : Char) (cs rest : List Char) (state : ScriptState) :
    state.step c (cs ++ '<' :: (endTagTail "script" ++ rest)) =
      state.step c (cs ++ '<' :: endTagTail "script") := by
  cases state with
  | bare => simp only [ScriptState.step, isPrefixOf_append_endTag]
  | commented dashes =>
    have hcloses : closes "script" ('/' :: (cs ++ '<' :: (endTagTail "script" ++ rest))) =
        closes "script" ('/' :: (cs ++ '<' :: endTagTail "script")) :=
      closes_append_endTag "script" ('/' :: cs) rest
    simp only [ScriptState.step, hcloses]
  | nested dashes => simp only [ScriptState.step, closes_append_endTag]

/-- Whether a script ends at the `<` in front of `cs`. -/
def ScriptState.endsAt (c : Char) (cs : List Char) : ScriptState → Bool
  | .nested _ => false
  | _ => c == '<' && closes "script" cs

theorem scriptLength_cons (n : Nat) (state : ScriptState) (c : Char) (cs : List Char) :
    scriptLength n state (c :: cs) =
      if state.endsAt c cs then n else scriptLength (n + 1) (state.step c cs) cs := by
  cases state <;> simp [scriptLength, ScriptState.endsAt]

theorem le_scriptLength (n : Nat) (state : ScriptState) (cs : List Char) :
    n ≤ scriptLength n state cs := by
  induction cs generalizing n state with
  | nil => exact Nat.le_refl n
  | cons c cs ih =>
    rw [scriptLength_cons]
    split
    · exact Nat.le_refl n
    · exact (Nat.le_succ n).trans (ih _ _)

theorem endsAt_append_endTag (c : Char) (cs rest : List Char) (state : ScriptState) :
    state.endsAt c (cs ++ '<' :: (endTagTail "script" ++ rest)) =
      state.endsAt c (cs ++ '<' :: endTagTail "script") := by
  cases state <;> simp only [ScriptState.endsAt, closes_append_endTag]

/-- A script that ends at its end tag ends there whatever follows. -/
theorem scriptLength_append_endTag (cs : List Char) {n : Nat} {state : ScriptState}
    (h : scriptLength n state (cs ++ '<' :: endTagTail "script") = n + cs.length)
    (rest : List Char) :
    scriptLength n state (cs ++ '<' :: (endTagTail "script" ++ rest)) = n + cs.length := by
  induction cs generalizing n state with
  | nil =>
    rw [List.nil_append, scriptLength_cons] at h ⊢
    have hends : state.endsAt '<' (endTagTail "script" ++ rest) =
        state.endsAt '<' (endTagTail "script") := by
      cases state <;> simp [ScriptState.endsAt, endTagTail, closes, endsTagName, isSpace]
    split at h
    · rename_i heq
      rw [if_pos (hends.trans heq)]
      rfl
    · exact absurd h (Nat.ne_of_gt (le_scriptLength _ _ _))
  | cons c cs ih =>
    rw [List.cons_append, scriptLength_cons] at h ⊢
    rw [endsAt_append_endTag, step_append_endTag]
    split at h
    · rw [List.length_cons] at h
      omega
    · rename_i hends
      rw [List.length_cons, ← Nat.add_assoc, Nat.add_right_comm] at h ⊢
      rw [if_neg hends, ih h]

theorem next_script (h : scriptLength 0 .bare (cs ++ '<' :: endTagTail "script") = cs.length)
    (hcs : cs ≠ []) (hnul : '\x00' ∉ cs) (rest : List Char) :
    Lexing.script.next foreign (cs ++ '<' :: (endTagTail "script" ++ rest)) =
      (some (.text cs), '<' :: (endTagTail "script" ++ rest)) := by
  have hlength := scriptLength_append_endTag cs (n := 0) (by simpa using h) rest
  rw [Nat.zero_add] at hlength
  simp [Lexing.next, textOr, hlength, hcs, withoutNul_eq hnul]

/-! ## Elements that hold nothing but text -/

/-- Why the text of an element that holds nothing else is read in the given way. -/
inductive TextKind (name : String) : Lexing → Prop
  | escapable (h : name ∈ ["title", "textarea"]) : TextKind name (.escapable name)
  | raw (h : name ∈ ["style", "noframes", "xmp", "iframe", "noembed", "noscript"]) :
    TextKind name (.raw name)
  | script (h : name = "script") : TextKind name .script

theorem textLexing?_cases (h : textLexing? name = some lexing) : TextKind name lexing := by
  unfold textLexing? at h
  split at h
  · rename_i hname
    exact Option.some.inj h ▸ .escapable (List.contains_iff_mem.1 hname)
  · split at h
    · rename_i hname
      exact Option.some.inj h ▸ .raw (List.contains_iff_mem.1 hname)
    · split at h
      · rename_i hname
        exact Option.some.inj h ▸ .script (beq_iff_eq.1 hname)
      · cases h

/-- What is written for text is read as it is written, too. -/
theorem tidyChar_escape (h : ∀ c ∈ cs, tidyChar c) : ∀ c ∈ cs.flatMap escapeText, tidyChar c := by
  intro c hmem
  obtain ⟨d, hd, hin⟩ := List.mem_flatMap.1 hmem
  have hentities : (["&amp;", "&nbsp;", "&lt;", "&gt;"].all (·.toList.all tidyChar)) = true := by
    decide
  simp only [List.all_cons, Bool.and_eq_true, List.all_eq_true] at hentities
  obtain ⟨hamp, hnbsp, hlt, hgt, -⟩ := hentities
  unfold escapeText at hin
  split at hin
  · exact hamp c hin
  · exact hnbsp c hin
  · exact hlt c hin
  · exact hgt c hin
  · exact List.mem_singleton.1 hin ▸ h d hd

theorem tidyChar_written (h : ∀ c ∈ cs, tidyChar c) (lexing : Lexing) :
    ∀ c ∈ lexing.written cs, tidyChar c := by
  unfold Lexing.written
  split
  · exact tidyChar_escape h
  · exact tidyChar_escape h
  · split
    · exact tidyChar_escape h
    · exact h
  · exact h

theorem tidyChar_reread (h : ∀ c ∈ cs, tidyChar c) (lexing : Lexing) :
    ∀ c ∈ lexing.reread cs, tidyChar c := by
  unfold Lexing.reread
  split
  · exact tidyChar_written h _
  · exact h

/-- The text of an element is read back in front of its end tag. -/
theorem spells_tidyText (hlexing : textLexing? name = some lexing)
    (hchars : ∀ c ∈ cs, tidyChar c) (h : tidyText cs lexing) (rest : List Char) :
    Spells lexing ('<' :: (endTagTail name ++ rest))
      (lexing.written cs ++ '<' :: (endTagTail name ++ rest)) (lexing.reread cs) := by
  have hnul := ne_nul_of_tidyChar hchars
  cases textLexing?_cases hlexing with
  | escapable _ => exact spells_flatMap (by trivial : (Lexing.escapable name).resolves) hnul _
  | raw _ =>
    exact spells_append_raw [] (by simp) (by simp) (ne_nul_of_tidyChar (tidyChar_written hchars _))
      h rest
  | script hname =>
    subst hname
    by_cases hcs : cs = []
    · rw [hcs]
      exact .nil
    · have hspells := Spells.run (fun _ => next_script (beq_iff_eq.1 h) hcs hnul rest) hcs (by
          rw [List.length_append]
          exact Nat.lt_add_of_pos_left (List.length_pos_iff.2 hcs)) .nil
      rwa [List.append_nil] at hspells

/-- Its end tag is read then. -/
theorem next_endTag (hlexing : textLexing? name = some lexing) (h : tidyName .html name)
    (rest : List Char) (foreign : Bool) :
    lexing.next foreign ('<' :: (endTagTail name ++ rest)) = (some (.endTag { name }), rest) := by
  rw [← endTagOrText_endTagTail h rest]
  cases textLexing?_cases hlexing with
  | escapable _ => simp [Lexing.next, textOr, withoutNul]
  | raw _ => exact next_raw_markup name _
  | script hname =>
    subst hname
    have hlength := scriptLength_append_endTag [] (n := 0) (by decide : scriptLength 0 .bare _ = 0)
      rest
    simp only [List.nil_append, List.length_nil, Nat.add_zero] at hlength
    simp [Lexing.next, textOr, hlength, withoutNul]

end ReleaseListing.Html
