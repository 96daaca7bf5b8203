import ReleaseListing.Proofs.Html.Foreign
import ReleaseListing.Proofs.Html.Tables
import ReleaseListing.Proofs.Html.Templates

/-!
# Elements where they stand

`StandsOn` says why an HTML element may stand on a ground. There it is put, or its text is read, or
it is opened and closed, according to what it holds; so is an element of another vocabulary. A
template that is not known to be made for anything has to be told first (`Inside.ready_or_switches`).
-/

namespace ReleaseListing.Html

open Construct Grown

variable {s t : Construction} {frames : List Frame} {ground holds : Ground} {m : Memory}
  {inner : Forest} {space : Space} {tag : Tag} {name : String} {attributes : List Attribute}
  {lexing : Lexing} {e : OpenElement} {outline : List OpenElement} {names names' : List String}

/-! ## HTML elements -/

/-- Why an HTML element may stand on the ground. -/
inductive StandsOn (outline : List OpenElement) (name : String) : Ground → Prop
  | head {ground : Ground} (h : name ∈ ground.headNames) : StandsOn outline name ground
  | part {ground : Ground} (h : name ∈ ground.partNames) : StandsOn outline name ground
  | flow (h : StandsInFlow outline name) : StandsOn outline name .flow
  | option (h : name = "option") (hoption : isIn ["option"] outline = false) :
    StandsOn outline name .select
  | group (h : name ∈ ["optgroup", "hr"]) (hin : isIn ["optgroup", "option"] outline = false) :
    StandsOn outline name .select
  | template {holds : Ground} (h : StandsOn outline name holds) :
    StandsOn outline name (.template holds)

theorem standsOn_of_stands (hfits : ground.Fits e)
    (h : stands outline .html name attributes ground) : StandsOn outline name ground := by
  induction ground generalizing e with
  | flow => exact .flow (standsInFlow_cases h)
  | head =>
    refine Or.elim ?_ .head .part
    simpa [stands, Ground.headNames, Ground.partNames] using h
  | table | columns | rows | cells | frames =>
    refine Or.elim ?_ .part .head
    simpa [stands, Ground.headNames, Ground.partNames, or_assoc] using h
  | select =>
    have hname : (name = "script" ∨ name = "option" ∧ isIn ["option"] outline = false) ∨
        name ∈ ["optgroup", "hr"] ∧ isIn ["optgroup", "option"] outline = false := by
      simpa [stands, standsInSelect] using h
    rcases hname with (hname | ⟨hname, hin⟩) | ⟨hname, hin⟩
    · exact .head (List.mem_singleton.2 hname)
    · exact .option hname hin
    · exact .group hname hin
  | foreign current =>
    obtain ⟨-, hne, -⟩ := hfits
    simp [stands, standsInForeign, isRoot, hne.symm] at h
  | template holds ih => exact .template (ih hfits.of_template h)

namespace StandsOn

/-- Where a template may stand, it is read as an element of the head. -/
theorem of_template (h : StandsOn outline name ground) (hname : name = "template") :
    name ∈ ground.headNames ∧ ground ≠ .select := by
  subst hname
  induction h with
  | @head ground h =>
    refine ⟨h, ?_⟩
    rintro rfl
    exact absurd h (by decide)
  | @part ground h => cases ground <;> exact absurd h (by simp [Ground.partNames])
  | flow _ => decide
  | option h _ => exact absurd h (by decide)
  | group h _ => exact absurd h (by decide)
  | template _ ih => exact ⟨ih.1, Ground.noConfusion⟩

/-- What is none of the head says what a template is made for. -/
theorem calls (h : StandsOn outline name holds) (hholds : holds ∈ templateGrounds)
    (hhead : name ∉ holds.headNames) : holds.Calls name := by
  cases h with
  | head h => exact absurd h hhead
  | part h => exact .inl h
  | flow h =>
    refine .inr ⟨rfl, fun hpart => ?_, hhead⟩
    have hparts : ∀ name ∈ tablePartNames, name ∈ peculiarNames ∧ name ∉ holderNames ∧
        name ∉ headNames ++ leafNames ∧ name ∉ nonParagraphNames := by decide
    obtain ⟨hpeculiar, hholder, hfree, hblock⟩ := hparts _ hpart
    rcases h.anywhere_or_block hpeculiar hholder with hname | ⟨hname, -⟩
    · exact hfree hname
    · exact hblock hname
  | option _ _ => exact absurd hholds (by decide)
  | group _ _ => exact absurd hholds (by decide)
  | template _ => exact absurd hholds (by simp [templateGrounds])

end StandsOn

theorem isIn_mono (h : isIn names outline = false) (hsub : names' ⊆ names) :
    isIn names' outline = false := by
  unfold isIn at h ⊢
  cases hhead : outline.head? with
  | none => rfl
  | some e =>
    rw [hhead] at h
    exact Bool.eq_false_iff.2 fun hany => absurd (isAny_mono hany hsub) (by simpa using h)

/-- What a template holds that is made for something is made alike. -/
theorem Ground.inside_template (hholds : holds ∈ templateGrounds) (e : OpenElement) :
    (Ground.template holds).inside e = holds.inside e := by
  have hselect : (holds == .select) = false :=
    beq_eq_false_iff_ne.2 (Ground.of_templateGrounds hholds).2.1
  unfold inside
  rw [hselect]
  rfl

namespace Inside

section

variable (h : Inside ground frames m inner s)
  (hstands : StandsOn (Html.outline frames) tag.name ground)
  (hready : s.mode = .inTemplate → tag.name ∈ ground.headNames)
include h hstands hready

/-- An element that holds nothing is put where it may stand. -/
theorem holdsVoid_of_stands (hvoid : contentsOf .html tag.name = .nothing) :
    HoldsVoid ground frames m inner tag s := by
  by_cases hhead : tag.name ∈ ground.headNames
  · exact h.holdsVoid_head hhead hvoid
  have hmode : s.mode ≠ .inTemplate := mt hready hhead
  -- The induction is on the templates around the place: what one holds is read as what it is made
  -- for, and carried over to the template.
  clear hready
  induction hstands generalizing m with
  | head h' => exact absurd h' hhead
  | @part ground hname =>
    have hnot : ∀ names : List String, (∀ name ∈ names, contentsOf .html name ≠ .nothing) →
        tag.name ∉ names := fun names hsub hmem => hsub _ hmem hvoid
    cases ground <;> simp only [Ground.partNames, List.not_mem_nil] at hname
    case columns => exact h.holdsVoid_columns (List.mem_singleton.1 hname)
    case frames =>
      refine h.holdsVoid_frames ((List.mem_pair.1 hname).resolve_left fun heq => ?_)
      exact absurd hvoid (heq ▸ by decide)
    all_goals exact absurd hname (hnot _ (by decide))
  | flow hflow => exact h.holdsVoid_flow hflow hvoid
  | option hname _ => exact absurd hvoid (hname ▸ by decide)
  | group hname hin =>
    have hkinds : ∀ name ∈ ["optgroup", "hr"], contentsOf .html name = .nothing → name = "hr" := by
      decide
    exact h.holdsVoid_selected (hkinds _ hname hvoid) (isIn_mono hin (by simp))
      (isIn_mono hin (by simp))
  | template _ ih => exact (ih (h.of_template hmode) hhead).carried (h.carries_template hmode)

/-- The text of an element is read where the element may stand. -/
theorem holdsText_of_stands (hlexing : textLexing? tag.name = some lexing) :
    HoldsText ground frames m inner lexing tag s := by
  by_cases hhead : tag.name ∈ ground.headNames
  · exact h.holdsText_head hhead hlexing
  have hmode : s.mode ≠ .inTemplate := mt hready hhead
  clear hready
  have htext : textLexing? tag.name ≠ none := hlexing ▸ Option.some_ne_none _
  induction hstands generalizing m with
  | head h' => exact absurd h' hhead
  | @part ground hname =>
    have hnot : ∀ names : List String, (∀ name ∈ names, textLexing? name = none) →
        tag.name ∉ names := fun names hsub hmem => htext (hsub _ hmem)
    cases ground <;> simp only [Ground.partNames, List.not_mem_nil] at hname
    case head => exact h.holdsText_noscript (List.mem_singleton.1 hname) hlexing
    all_goals exact absurd hname (hnot _ (by decide))
  | flow hflow => exact h.holdsText_flow hflow hlexing
  | option hname _ => exact absurd (hname ▸ by decide) htext
  | group hname _ =>
    have hkinds : ∀ name ∈ ["optgroup", "hr"], textLexing? name = none := by decide
    exact absurd (hkinds _ hname) htext
  | template _ ih => exact (ih (h.of_template hmode) hhead).carried (h.carries_template hmode)

/-- An element that holds others is held where it may stand. -/
theorem holds_of_stands (htrees : contentsOf .html tag.name = .trees) :
    HoldsElement ground frames m inner tag s := by
  have hhead : tag.name ∉ ground.headNames := by
    have hkinds : ∀ name ∈ headNames, contentsOf .html name ≠ .trees := by decide
    exact fun hmem => hkinds _ (Ground.mem_headNames hmem) htrees
  have hmode : s.mode ≠ .inTemplate := mt hready hhead
  clear hready
  induction hstands generalizing m with
  | head h' => exact absurd h' hhead
  | @part ground hname =>
    cases ground <;> simp only [Ground.partNames, List.not_mem_nil] at hname
    case head | columns => exact absurd (List.mem_singleton.1 hname ▸ htrees) (by decide)
    case table =>
      have hkinds : ∀ name ∈ ["caption", "colgroup", "tbody", "tfoot", "thead"],
          name = "caption" ∨ name = "colgroup" ∨ name ∈ rowGroupNames := by decide
      rcases hkinds _ hname with hcaption | hcolumns | hgroup
      · exact h.holds_caption hcaption
      · exact h.holds_columns hcolumns
      · exact h.holds_rowGroup hgroup
    case rows => exact h.holds_row (List.mem_singleton.1 hname)
    case cells => exact h.holds_cell hname
    case frames =>
      refine h.holds_frameset ((List.mem_pair.1 hname).resolve_right fun heq => ?_)
      exact absurd htrees (heq ▸ by decide)
  | flow hflow =>
    by_cases htable : tag.name = "table"
    · have hblock := hflow.anywhere_or_block (htable ▸ by decide) (htable ▸ by decide)
      exact h.holds_table htable (hblock.resolve_left (htable ▸ by decide)).2
    · exact h.holds_flow hflow htrees htable
  | option hname hoption =>
    exact h.holds_selected (by simp [hname]) hoption
      fun hgroup => absurd (hname ▸ hgroup) (by decide)
  | group hname hin =>
    have hkinds : ∀ name ∈ ["optgroup", "hr"], contentsOf .html name = .trees →
        name = "optgroup" := by decide
    exact h.holds_selected (by simp [hkinds _ hname htrees]) (isIn_mono hin (by simp))
      fun _ => isIn_mono hin (by simp)
  | @template holds _ ih =>
    have hheld := (ih (h.of_template hmode) hhead).carried (h.carries_template hmode)
    rwa [HoldsElement, Ground.inside_template h.suited.fits.2]

end

/-- A template is held where it may stand, whatever it is made for. -/
theorem holds_template_of_stands (h : Inside ground frames m inner s)
    (hstands : StandsOn (Html.outline frames) tag.name ground) (hname : tag.name = "template")
    (hholds : holds ∈ templateGrounds) :
    HoldsOn (.template holds) ground frames m inner .html tag tag s := by
  obtain ⟨hhead, hground⟩ := hstands.of_template hname
  exact h.holds_template hground hname hhead hholds

end Inside

/-! ## Elements of other vocabularies -/

/-- The outermost element of a drawing or a formula is written as it is read. -/
theorem rereadTag_of_isRoot (htag : tidyTag space name attributes) (hroot : isRoot space name) :
    (rereadTag name attributes).name = name := by
  obtain ⟨-, -, hlower, -⟩ := spelled_of_isRoot hroot
  exact String.ext ((toList_lowerName (tidyTag_iff.1 htag).1).symm.trans hlower)

theorem isRoot_of_stands (hspace : space ≠ .html) (hholds : holds ∈ templateGrounds)
    (h : stands outline space name attributes holds) : holds = .flow ∧ isRoot space name := by
  have hhtml : (space == .html) = false := beq_eq_false_iff_ne.2 hspace
  simp only [templateGrounds, List.mem_cons, List.not_mem_nil, or_false] at hholds
  rcases hholds with rfl | rfl | rfl | rfl | rfl
  · exact ⟨rfl, by simpa [stands, hhtml] using h⟩
  all_goals simp [stands, hhtml] at h

/-- An element of another vocabulary is held where it may stand. -/
theorem Inside.holds_foreign_of_stands (h : Inside ground frames m inner s)
    (htag : tidyTag space name attributes) (hspace : space ≠ .html)
    (hstands : stands (Html.outline frames) space name attributes ground)
    (hmode : s.mode ≠ .inTemplate) :
    HoldsOn (ground.inside (around space name)) ground frames m inner space
      (startTag name attributes) (rereadTag name attributes) s := by
  have hhtml : (space == .html) = false := beq_eq_false_iff_ne.2 hspace
  have hadopted := adoptedTag_rereadTag htag
  have hname : (adoptedTag space (rereadTag name attributes)).name = name := by rw [hadopted]; rfl
  have hlower := toList_lowerName (tidyTag_iff.1 htag).1
  induction ground generalizing m with
  | flow =>
    have hroot : isRoot space name := by simpa [stands, hhtml] using hstands
    have hheld := h.holds_rootInFlow (rereadTag name attributes)
      ((rereadTag_of_isRoot htag hroot).symm ▸ hroot) rfl
    rwa [hadopted] at hheld
  | foreign current =>
    cases frames with
    | nil =>
      obtain ⟨hcurrent, hne, -⟩ := h.suited.fits
      exact absurd hcurrent.symm hne
    | cons g frames =>
      have hheld := h.holds_alike space (rereadTag name attributes) rfl
        (hname.symm ▸ hlower) ?_
      · rwa [hadopted] at hheld
      · unfold stands standsInForeign at hstands
        dsimp only at hstands
        split at hstands <;> rename_i hforeign
        · rw [if_pos hforeign]
          simpa using hstands
        · rw [if_neg hforeign, rereadTag_of_isRoot htag hstands]
          exact hstands
  | template holds ih =>
    have hheld := (ih (h.of_template hmode) hstands).carried (h.carries_template hmode)
    rwa [Ground.inside_template h.suited.fits.2]
  | _ => simp [stands, hhtml] at hstands

/-! ## In templates -/

/-- A start tag is looked at where its element may stand, or again when it has said what the
template is made for. -/
theorem Inside.ready_or_switches (h : Inside ground frames m inner s)
    (htag : tidyTag space name attributes)
    (hstands : stands (Html.outline frames) space name attributes ground) :
    (s.mode = .inTemplate → space = .html ∧ name ∈ ground.headNames) ∨
      ∃ t, look (.startTag (rereadTag name attributes)) s = (.again, t) ∧ t.mode ≠ .inTemplate ∧
        Inside ground frames m inner t := by
  by_cases hready : s.mode = .inTemplate → space = .html ∧ name ∈ ground.headNames
  · exact .inl hready
  obtain ⟨hmode, hnot⟩ := Classical.not_imp.1 hready
  obtain ⟨holds, rfl⟩ : ∃ holds, ground = .template holds := by
    have hsuits := h.suited.suits
    rw [hmode] at hsuits
    cases ground <;> simp [Ground.suits] at hsuits
    exact ⟨_, rfl⟩
  have hholds := h.suited.fits.2
  have hcalls : holds.Calls (rereadTag name attributes).name := by
    by_cases hspace : space = .html
    · subst hspace
      rw [rereadTag_eq htag]
      exact (standsOn_of_stands h.suited.fits.of_template hstands).calls hholds
        fun hhead => hnot ⟨rfl, hhead⟩
    · obtain ⟨rfl, hroot⟩ := isRoot_of_stands hspace hholds hstands
      rw [rereadTag_of_isRoot htag hroot]
      rcases isRoot_iff.1 hroot with ⟨-, rfl⟩ | ⟨-, rfl⟩ <;> exact .inr (by decide)
  obtain ⟨t, hlook, ht, hinside⟩ := h.switches hmode hcalls
  refine .inr ⟨t, hlook, ?_, hinside⟩
  rw [ht]
  cases holds <;> exact Mode.noConfusion

end ReleaseListing.Html
