import ReleaseListing.Proofs.Html.Tidy

/-!
# Tidy pages that lose rows

A page that is tidy stays so when trees are removed from it, as long as `html` stays
(`Forest.tidyPage_without`): where an element may stand depends on the elements around it alone.
-/

namespace ReleaseListing.Html.Forest

variable {ground : Ground} {outline : List OpenElement} {gone : List Nat}
  {f children next : Forest} {c : Content} {lexing : Lexing} {linked : Bool} {stage later : Stage}
  {i root : Nat}

/-! ## Trees -/

theorem TidyNode.tidy (h : TidyNode ground outline c children) (hnext : next.tidy ground outline) :
    (node i c children next).tidy ground outline := by
  cases h with
  | text hchars hplace =>
    simp only [Forest.tidy, isNil, List.all_eq_true.2 hchars, hnext, Bool.true_and, Bool.and_true,
      Bool.or_eq_true, List.all_eq_true]
    exact hplace
  | comment hwords => simp [Forest.tidy, isNil, hwords, hnext]
  | void htag hstands hcontents => simp [Forest.tidy, isNil, htag, hstands, hcontents, hnext]
  | holdsText htag hstands hcontents hchildren =>
    simp [Forest.tidy, htag, hstands, hcontents, hchildren, hnext]
  | bare htag hstands hcontents =>
    simp [Forest.tidy, tidyContents, htag, hstands, hcontents, hnext]
  | @template space name attributes j contents holds htag hstands hcontents hholds hchildren =>
    have hany : (node j .fragment contents nil).tidyContents (around space name :: outline) :=
      List.any_eq_true.2 ⟨holds, hholds, hchildren⟩
    simp only [Forest.tidy, htag, hstands, hcontents, hany, hnext, Bool.and_self]
  | @holds space name attributes _ htag hstands hcontents hchildren hlines =>
    have hlines' : (!(around space name).isAny ["pre", "listing"] || children.startsNoLine) =
        true := by
      rw [Bool.or_eq_true, Bool.not_eq_true', ← Bool.not_eq_true]
      exact Decidable.or_iff_not_imp_left.2 fun h => hlines (not_not.1 h)
    simp only [Forest.tidy, htag, hstands, hcontents, hchildren, hlines', hnext, Bool.and_self]

theorem isTidyText_without (h : f.isTidyText lexing linked) :
    (f.without gone).isTidyText lexing linked := by
  unfold isTidyText at h
  split at h
  · rfl
  · unfold without
    split
    · rfl
    · exact h
  · cases h

theorem startsNoLine_without (h : f.startsNoLine) : (f.without gone).startsNoLine := by
  induction f with
  | nil => rfl
  | node i c children next _ ihn =>
    have hnode : next.startsNoLine ∧ ∀ children' next', next'.startsNoLine →
        (node i c children' next').startsNoLine := by
      cases c with
      | text cs =>
        rw [startsNoLine, Bool.and_eq_true] at h
        refine ⟨h.2, fun children' next' h' => ?_⟩
        rw [startsNoLine, h.1, h', Bool.and_self]
      | _ => exact ⟨h, fun _ _ h' => h'⟩
    unfold without
    split
    · exact ihn hnode.1
    · exact hnode.2 _ _ (ihn hnode.1)

/-- Trees stay where they are read back when others are removed. -/
theorem tidy_without (f : Forest) {ground : Ground} {outline : List OpenElement}
    (h : f.tidy ground outline) : (f.without gone).tidy ground outline := by
  match f with
  | nil => rfl
  | node i c children next =>
    obtain ⟨hnode, hnext⟩ := tidy_node h
    have hnext' := tidy_without next hnext
    unfold without
    split
    · exact hnext'
    · have hnode' : TidyNode ground outline c (children.without gone) := by
        cases hnode with
        | text hchars hplace => exact .text hchars hplace
        | comment hwords => exact .comment hwords
        | void htag hstands hcontents => exact .void htag hstands hcontents
        | holdsText htag hstands hcontents hchildren =>
          exact .holdsText htag hstands hcontents (isTidyText_without hchildren)
        | bare htag hstands hcontents => exact .bare htag hstands hcontents
        | @template _ _ _ j contents _ htag hstands hcontents hholds hchildren =>
          have hcontents' := tidy_without contents hchildren
          unfold without
          split
          · exact .bare htag hstands hcontents
          · exact .template htag hstands hcontents hholds hcontents'
        | holds htag hstands hcontents hchildren hlines =>
          exact .holds htag hstands hcontents (tidy_without children hchildren)
            fun hname => startsNoLine_without (hlines hname)
      exact hnode'.tidy hnext'
termination_by f

/-! ## The page -/

theorem TidyPart.tidyHtml (h : TidyPart stage c children later) (hnext : next.tidyHtml later) :
    (node i c children next).tidyHtml stage := by
  have hinside : Ground.flow.inside (around .html "head") = .head ∧
      Ground.flow.inside (around .html "body") = .flow ∧
      Ground.flow.inside (around .html "frameset") = .frames := by decide
  cases h with
  | blank hstage hchars =>
    simp [Forest.tidyHtml, isNil, hstage, hnext]
    exact ⟨fun c hc => (hchars c hc).2, fun c hc => (hchars c hc).1⟩
  | comment hwords => simp [Forest.tidyHtml, isNil, hwords, hnext]
  | head htag hchildren => simp [Forest.tidyHtml, htag, hinside, hchildren, hnext]
  | body hstage htag hchildren =>
    simp [Forest.tidyHtml, htag, hinside, hchildren, hnext]
    simpa using hstage
  | frames hstage htag hchildren =>
    simp [Forest.tidyHtml, htag, hinside, hchildren, hnext]
    simpa using hstage

/-- The later a place in `html` is, the less may stand there. -/
def Stage.rank : Stage → Nat
  | .start => 0
  | .head => 1
  | .frames => 2
  | .body => 3

/-- What may stand behind a part of the page may stand in its place. -/
theorem tidyHtml_earlier (h : f.tidyHtml later) (hrank : stage.rank ≤ later.rank) :
    f.tidyHtml stage := by
  induction f generalizing stage later with
  | nil => rfl
  | node i c children next _ ihn =>
    obtain ⟨after, hpart, hnext⟩ := tidyHtml_node h
    have hearly : later ∈ [Stage.start, .head] → stage ∈ [Stage.start, .head] := by
      cases stage <;> cases later <;> simp_all [Stage.rank]
    cases hpart with
    | blank hlater hchars =>
      refine (TidyPart.blank ?_ hchars).tidyHtml (ihn hnext hrank)
      rintro rfl
      cases later <;> simp_all [Stage.rank]
    | comment hwords => exact (TidyPart.comment hwords).tidyHtml (ihn hnext hrank)
    | head _ _ =>
      obtain rfl : stage = .start := by cases stage <;> simp_all [Stage.rank]
      exact h
    | body hlater htag hchildren =>
      exact (TidyPart.body (hearly hlater) htag hchildren).tidyHtml hnext
    | frames hlater htag hchildren =>
      exact (TidyPart.frames (hearly hlater) htag hchildren).tidyHtml hnext

theorem TidyPart.rank_le (h : TidyPart stage c children later) : stage.rank ≤ later.rank := by
  cases h with
  | body hstage _ _ => cases stage <;> simp_all [Stage.rank]
  | frames hstage _ _ => cases stage <;> simp_all [Stage.rank]
  | _ => simp [Stage.rank]

theorem tidyHtml_without (h : f.tidyHtml stage) : (f.without gone).tidyHtml stage := by
  induction f generalizing stage with
  | nil => rfl
  | node i c children next _ ihn =>
    obtain ⟨later, hpart, hnext⟩ := tidyHtml_node h
    unfold without
    split
    · exact tidyHtml_earlier (ihn hnext) hpart.rank_le
    · have hpart' : TidyPart stage c (children.without gone) later := by
        cases hpart with
        | blank hstage hchars => exact .blank hstage hchars
        | comment hwords => exact .comment hwords
        | head htag hchildren => exact .head htag (tidy_without _ hchildren)
        | body hstage htag hchildren => exact .body hstage htag (tidy_without _ hchildren)
        | frames hstage htag hchildren => exact .frames hstage htag (tidy_without _ hchildren)
      exact hpart'.tidyHtml (ihn hnext)

theorem tidyEnd_without (h : f.tidyEnd) : (f.without gone).tidyEnd := by
  induction f with
  | nil => rfl
  | node i c children next _ ihn =>
    obtain ⟨words, rfl, rfl, hwords, hnext⟩ := tidyEnd_node h
    unfold without
    split
    · exact ihn hnext
    · simp [tidyEnd, without, isNil, hwords, ihn hnext]

/-- A page stays tidy as long as `html` is not removed. -/
theorem tidyPage_without (h : f.tidyPage) (hr : Rooted root f) (hroot : root ∉ gone) :
    (f.without gone).tidyPage := by
  induction f with
  | nil => cases h
  | node i c children next _ ihn =>
    unfold without
    rcases tidyPage_node h with ⟨hnode, hnext⟩ | ⟨attributes, rfl, htag, hchildren, hnext⟩
    · have hnode' : c.isElement = false ∧ ∀ next' : Forest, next'.tidyPage →
          (node i c (children.without gone) next').tidyPage := by
        cases hnode with
        | comment hwords => exact ⟨rfl, fun _ h' => by simp [tidyPage, without, isNil, hwords, h']⟩
        | doctype hname => exact ⟨rfl, fun _ h' => by simp [tidyPage, without, isNil, hname, h']⟩
      obtain ⟨hc, hkeeps⟩ := hnode'
      have hr' : Rooted root next := by
        rcases hr with ⟨-, hc', -⟩ | ⟨-, -, hr'⟩
        · exact absurd (hc.symm.trans hc') (by decide)
        · exact hr'
      split
      · exact ihn hnext hr'
      · exact hkeeps _ (ihn hnext hr')
    · rcases hr with ⟨rfl, -, -⟩ | ⟨hc, -, -⟩
      · rw [if_neg hroot]
        simp [tidyPage, htag, tidyHtml_without hchildren, tidyEnd_without hnext]
      · cases hc

end ReleaseListing.Html.Forest
