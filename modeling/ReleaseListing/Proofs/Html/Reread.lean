import ReleaseListing.Proofs.Html.Skeleton

/-!
# Reading a page that has been written

The text of a tidy page is read as it stands (`sourceText_render`), and the page that is read has
the links of the one that was written (`Forest.links_ofSource_render`).
-/

namespace ReleaseListing.Html

open Construct Forest

variable {cs : List Char} {space : Space} {name : String} {attributes : List Attribute}
  {a : Attribute} {f children next : Forest} {c : Content} {stage : Stage}

/-! ## The text of a page -/

/-- A text without line ends of another kind is read as it stands. -/
theorem unified_eq (done : List Char) (h : '\r' ∉ cs) :
    sourceText.unified done cs = done.reverse ++ cs := by
  fun_induction sourceText.unified done cs with
  | case1 done => simp
  | case2 done cs _ => simp at h
  | case3 done cs _ _ => simp at h
  | case4 done c cs _ _ ih =>
    rw [ih fun hmem => h (List.mem_cons_of_mem c hmem)]
    simp

theorem sourceText_ofList (h : '\r' ∉ cs) (hstart : cs.head? = some '<') :
    sourceText (String.ofList cs) = cs := by
  unfold sourceText
  rw [String.toList_ofList]
  split
  · cases hstart
  · exact unified_eq [] h

/-! ## Line ends in what is written -/

theorem return_not_mem_chars (h : ∀ c ∈ cs, tidyChar c) : '\r' ∉ cs :=
  fun hmem => absurd (h _ hmem) (by decide)

theorem return_not_mem_opening_text (h : ∀ c ∈ cs, tidyChar c) (raw : Bool) :
    '\r' ∉ (Content.text cs).opening raw := by
  cases raw
  · exact return_not_mem_chars (tidyChar_escape h)
  · exact return_not_mem_chars h

theorem return_not_mem_attribute (h : a.tidy space) : '\r' ∉ a.render := by
  obtain ⟨-, hvalue, c, cs, hname, hc, hcs⟩ := Attribute.tidy_iff.1 h
  have hname' : '\r' ∉ a.writtenName := by
    rw [hname]
    intro hmem
    rcases List.mem_cons.1 hmem with rfl | hmem
    · exact absurd hc (by decide)
    · exact absurd (hcs _ hmem) (by decide)
  have hvalue' : '\r' ∉ a.value.toList.flatMap Attribute.escape := by
    intro hmem
    obtain ⟨c, hc, hin⟩ := List.mem_flatMap.1 hmem
    unfold Attribute.escape at hin
    split at hin
    · exact absurd hin (by decide)
    · exact absurd hin (by decide)
    · exact absurd hin (by decide)
    · rw [← List.mem_singleton.1 hin] at hc
      exact return_not_mem_chars hvalue hc
  rw [Attribute.render_eq]
  simp [hname', hvalue']

theorem return_not_mem_name (h : tidyName space name) : '\r' ∉ name.toList :=
  fun hmem => absurd (forall_endsTagName h _ hmem) (by decide)

theorem return_not_mem_opening (h : tidyTag space name attributes) (raw : Bool) :
    '\r' ∉ (Content.element space name attributes).opening raw := by
  obtain ⟨hname, hattributes, -⟩ := tidyTag_iff.1 h
  have hsorted : '\r' ∉ (Attribute.sorted attributes).flatMap Attribute.render := by
    intro hmem
    obtain ⟨a, ha, hin⟩ := List.mem_flatMap.1 hmem
    exact return_not_mem_attribute (hattributes a ((Attribute.perm_sorted _).mem_iff.1 ha)) hin
  rw [opening_element]
  simp [return_not_mem_name hname, hsorted]

theorem return_not_mem_closing (h : tidyTag space name attributes) :
    '\r' ∉ (Content.element space name attributes).closing := by
  by_cases hcontents : contentsOf space name = .nothing
  · simp [closing_void hcontents]
  · rw [closing_element hcontents]
    simp [endTagTail, return_not_mem_name (tidyTag_iff.1 h).1]

theorem return_not_mem_node {raw : Bool} (hopening : '\r' ∉ c.opening raw)
    (hchildren : '\r' ∉ children.renderChars c.holdsRawText) (hclosing : '\r' ∉ c.closing)
    (hnext : '\r' ∉ next.renderChars raw) (i : Nat) :
    '\r' ∉ (node i c children next).renderChars raw := by
  rw [renderChars_node]
  simp only [List.mem_append, not_or]
  exact ⟨hopening, ⟨hchildren, hclosing⟩, hnext⟩

theorem return_not_mem_element {raw : Bool} (htag : tidyTag space name attributes)
    (hchildren : ∀ raw, '\r' ∉ children.renderChars raw) (hnext : '\r' ∉ next.renderChars raw)
    (i : Nat) : '\r' ∉ (node i (.element space name attributes) children next).renderChars raw :=
  return_not_mem_node (return_not_mem_opening htag raw) (hchildren _) (return_not_mem_closing htag)
    hnext i

theorem return_not_mem_text {raw : Bool} (h : ∀ c ∈ cs, tidyChar c)
    (hnext : '\r' ∉ next.renderChars raw) (i : Nat) :
    '\r' ∉ (node i (.text cs) .nil next).renderChars raw :=
  return_not_mem_node (return_not_mem_opening_text h raw) (by simp [renderChars])
    (by simp [Content.closing]) hnext i

theorem return_not_mem_comment {raw : Bool} {words : String} (h : tidyComment words.toList)
    (hnext : '\r' ∉ next.renderChars raw) (i : Nat) :
    '\r' ∉ (node i (.comment words) .nil next).renderChars raw := by
  refine return_not_mem_node ?_ (by simp [renderChars]) (by simp [Content.closing]) hnext i
  rw [opening_comment]
  simp [return_not_mem_chars (tidyComment_iff.1 h).1]

theorem return_not_mem_isTidyText {lexing : Lexing} {linked : Bool}
    (h : f.isTidyText lexing linked) (raw : Bool) : '\r' ∉ f.renderChars raw := by
  unfold isTidyText at h
  split at h
  · simp [renderChars]
  · simp only [Bool.and_eq_true, List.all_eq_true] at h
    exact return_not_mem_text h.1.1 (by simp [renderChars]) _
  · cases h

theorem return_not_mem_trees (f : Forest) {ground : Ground} {outline : List OpenElement}
    (h : f.tidy ground outline) (raw : Bool) : '\r' ∉ f.renderChars raw := by
  match f with
  | .nil => simp [renderChars]
  | .node i c children next =>
    obtain ⟨hnode, hnext⟩ := tidy_node h
    have hnext' := return_not_mem_trees next hnext raw
    cases hnode with
    | text hchars _ => exact return_not_mem_text hchars hnext' i
    | comment hwords => exact return_not_mem_comment hwords hnext' i
    | void htag _ _ => exact return_not_mem_element htag (by simp [renderChars]) hnext' i
    | holdsText htag _ _ hchildren =>
      exact return_not_mem_element htag (return_not_mem_isTidyText hchildren) hnext' i
    | bare htag _ _ => exact return_not_mem_element htag (by simp [renderChars]) hnext' i
    | @template _ _ _ j contents _ htag _ _ _ hchildren =>
      have hcontents := return_not_mem_trees contents hchildren false
      refine return_not_mem_element htag (fun raw => ?_) hnext' i
      rw [renderChars_fragment]
      exact hcontents
    | holds htag _ _ hchildren _ =>
      exact return_not_mem_element htag (return_not_mem_trees children hchildren) hnext' i
termination_by f

theorem return_not_mem_html (h : f.tidyHtml stage) (raw : Bool) : '\r' ∉ f.renderChars raw := by
  induction f generalizing stage with
  | nil => simp [renderChars]
  | node i c children next _ ihn =>
    obtain ⟨later, hpart, hnext⟩ := tidyHtml_node h
    cases hpart with
    | blank _ hchars => exact return_not_mem_text (fun c hc => (hchars c hc).1) (ihn hnext) i
    | comment hwords => exact return_not_mem_comment hwords (ihn hnext) i
    | head htag hchildren =>
      exact return_not_mem_element htag (return_not_mem_trees _ hchildren) (ihn hnext) i
    | body _ htag hchildren =>
      exact return_not_mem_element htag (return_not_mem_trees _ hchildren) (ihn hnext) i
    | frames _ htag hchildren =>
      exact return_not_mem_element htag (return_not_mem_trees _ hchildren) (ihn hnext) i

theorem return_not_mem_end (h : f.tidyEnd) : '\r' ∉ f.renderChars false := by
  induction f with
  | nil => simp [renderChars]
  | node i c children next _ ihn =>
    obtain ⟨words, rfl, rfl, hwords, hnext⟩ := tidyEnd_node h
    exact return_not_mem_comment hwords (ihn hnext) i

/-- No line end of another kind is written for a tidy page. -/
theorem return_not_mem_page (h : f.tidyPage) : '\r' ∉ f.renderChars false := by
  induction f with
  | nil => cases h
  | node i c children next _ ihn =>
    rcases tidyPage_node h with ⟨hnode, hnext⟩ | ⟨attributes, rfl, htag, hchildren, hnext⟩
    · cases hnode with
      | comment hwords => exact return_not_mem_comment hwords (ihn hnext) i
      | @doctype name hname =>
        have hname' : '\r' ∉ name.toList := fun hmem =>
          absurd (List.all_eq_true.1 hname _ hmem) (by decide)
        refine return_not_mem_node ?_ (by simp [renderChars]) (by simp [Content.closing])
          (ihn hnext) i
        rw [opening_doctype]
        simp [hname']
    · exact return_not_mem_element htag (return_not_mem_html hchildren) (return_not_mem_end hnext) i

/-- The text of a tidy page is read as it stands. -/
theorem sourceText_render (h : f.tidyPage) : sourceText f.render = f.renderChars false := by
  refine sourceText_ofList (return_not_mem_page h) ?_
  cases f with
  | nil => cases h
  | node i c children next =>
    have hopening : (c.opening false).head? = some '<' := by
      rcases tidyPage_node h with ⟨hnode, -⟩ | ⟨attributes, rfl, -⟩
      · cases hnode <;> rfl
      · rfl
    rw [renderChars_node, List.head?_append, hopening]
    rfl

/-! ## The page that is read -/

/-- Numbers given out anew change neither text nor links. -/
theorem links_renumber (f : Forest) (n : Nat) :
    (f.renumber n).1.text = f.text ∧ (f.renumber n).1.links = f.links := by
  induction f generalizing n with
  | nil => exact ⟨rfl, rfl⟩
  | node i c children next ihc ihn =>
    obtain ⟨htext, hlinks⟩ := ihc (n + 1)
    obtain ⟨htext', hlinks'⟩ := ihn (children.renumber (n + 1)).2
    rw [renumber, text_node, text_node, links_node, links_node, htext, htext', hlinks, hlinks']
    simp [ownLink, htext]

theorem links_forest (s : Construction) : s.forest.links = s.children.links := by
  have hflat : ∀ nodes, (ofOutside nodes).links = [] :=
    fun nodes => congrArg _ (flat_ofOutside nodes).anchors
  rw [Construction.forest, links_append, hflat, links_part (by decide), hflat, List.append_nil,
    List.nil_append]

theorem read_nil (s : Construction) (n : Nat) : s.read n [] = s := by
  cases n <;> rfl

/-- What is read of the text of a tidy page has the links of the page. -/
theorem links_ofSource_render (h : f.tidyPage) : (Forest.ofSource f.render).links = f.links := by
  obtain ⟨t, ht, hreads⟩ := Unread.of_default.reads_page h
  obtain ⟨m, -, hread⟩ := hreads _ (Nat.le_refl _)
  obtain ⟨mode, hmode, ht⟩ := ht
  have hfinish : (take .finish).run t = ((), t) := by
    refine (Taken.once ((ht.look_eq _).trans ?_)).run_take
    simp only [List.mem_cons, List.not_mem_nil, or_false] at hmode
    rcases hmode with rfl | rfl <;> rfl
  have hpage : Construction.ofSource f.render = t := by
    rw [read_nil] at hread
    unfold Construction.ofSource
    simp only [sourceText_render h, hread, hfinish]
  rw [Forest.ofSource, (links_renumber _ 1).2, links_forest, hpage, ht.links_eq]

end ReleaseListing.Html
