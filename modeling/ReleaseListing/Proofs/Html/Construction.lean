import ReleaseListing.Proofs.Html.Growth
import ReleaseListing.Proofs.Html.Tidy

/-!
# The state in which a page is read

`Grown frames form inner s` says which elements are open in the state `s` and what the innermost one
holds so far. It is kept by what puts nodes: text (`run_putText`), elements that hold nothing
(`run_putVoid`), elements that stay open (`run_openElement`).
-/

namespace ReleaseListing.Html

/-! ## Running actions -/

namespace Construct

variable {α β : Type} {s t : Construction} {a : α}

theorem run_bind_eq {x : Construct α} {k : α → Construct β} {r : β × Construction}
    (hx : x.run s = (a, t)) (hk : (k a).run t = r) : (x >>= k).run s = r := by
  rw [StateT.run_bind, hx]
  exact hk

theorem run_discard {x : Construct α} (hx : x.run s = (a, t)) : (discard x).run s = ((), t) := by
  show (((), (x s).2) : Unit × Construction) = ((), t)
  rw [show x s = (a, t) from hx]

theorem run_thenDone {x : Construct Unit} (hx : x.run s = ((), t)) :
    (thenDone x).run s = (.done, t) := run_bind_eq hx rfl

/-- An action under a condition that does not hold. -/
theorem run_if_neg {p : Construct Bool} {x : Construct Unit} (hp : p.run s = (false, s)) :
    (do if ← p then x).run s = ((), s) := run_bind_eq hp rfl

/-- An action under a condition that holds. -/
theorem run_if_pos {p : Construct Bool} {x : Construct Unit} (hp : p.run s = (true, s))
    (hx : x.run s = ((), t)) : (do if ← p then x).run s = ((), t) := run_bind_eq hp hx

end Construct

/-! ## Formatting elements -/

/-- Elements that are opened again. -/
def reopenedNames : List String := "a" :: "nobr" :: formattingNames

/-- The formatting entries belong to open elements, in the order in which these are open: each
element in which nothing is opened again has a marker, each one that is opened again may have an
entry. -/
def Formats : List OpenElement → List Formatting → Prop
  | [], fs => fs = []
  | e :: es, fs =>
    if e.isAny markedNames then ∃ later, fs = .marker :: later ∧ Formats es later
    else Formats es fs ∨
      ∃ tag later, fs = .element e tag :: later ∧ e.isAny reopenedNames ∧ tag.name = e.name ∧
        Formats es later

theorem isAny_marked_of_reopened {e : OpenElement} (h : e.isAny reopenedNames) :
    ¬ e.isAny markedNames := by
  have hnames : ∀ name ∈ reopenedNames, name ∉ markedNames := by decide
  simp only [OpenElement.isAny, Bool.and_eq_true, List.contains_iff_mem] at h ⊢
  exact fun hmarked => hnames _ h.2 hmarked.2

namespace Formats

variable {e : OpenElement} {es : List OpenElement} {fs : List Formatting} {tag : Tag}

theorem nil_iff : Formats [] fs ↔ fs = [] := Iff.rfl

/-- An element in which nothing is opened again has the latest marker. -/
theorem marked_iff (he : e.isAny markedNames) :
    Formats (e :: es) fs ↔ ∃ later, fs = .marker :: later ∧ Formats es later :=
  iff_of_eq (if_pos he)

/-- Another element may have the latest entry. -/
theorem unmarked_iff (he : ¬ e.isAny markedNames) :
    Formats (e :: es) fs ↔ Formats es fs ∨
      ∃ tag later, fs = .element e tag :: later ∧ e.isAny reopenedNames ∧ tag.name = e.name ∧
        Formats es later :=
  iff_of_eq (if_neg he)

/-- The entries are those of open elements. -/
theorem mem (h : Formats es fs) (hmem : .element e tag ∈ fs) : e ∈ es := by
  induction es generalizing fs with
  | nil =>
    rw [nil_iff.1 h] at hmem
    cases hmem
  | cons d es ih =>
    by_cases hmarked : d.isAny markedNames
    · obtain ⟨later, rfl, hlater⟩ := (marked_iff hmarked).1 h
      exact List.mem_cons_of_mem d (ih hlater (by simpa using hmem))
    · rcases (unmarked_iff hmarked).1 h with h | ⟨tag', later, rfl, -, -, hlater⟩
      · exact List.mem_cons_of_mem d (ih h hmem)
      · rcases List.mem_cons.1 hmem with heq | hin
        · exact (Formatting.element.inj heq).1 ▸ List.mem_cons_self
        · exact List.mem_cons_of_mem d (ih hlater hin)

/-- The recent entries are those of elements around which nothing has been marked. -/
theorem mem_recent (h : Formats es fs) {entry : OpenElement × Tag}
    (hmem : entry ∈ Construct.recentFormatting fs) :
    entry.1 ∈ es.takeWhile (!·.isAny markedNames) := by
  induction es generalizing fs with
  | nil =>
    rw [nil_iff.1 h] at hmem
    cases hmem
  | cons d es ih =>
    by_cases hmarked : d.isAny markedNames
    · obtain ⟨later, rfl, -⟩ := (marked_iff hmarked).1 h
      cases hmem
    · rw [List.takeWhile_cons_of_pos (by simpa using hmarked)]
      rcases (unmarked_iff hmarked).1 h with h | ⟨tag, later, rfl, -, -, hlater⟩
      · exact List.mem_cons_of_mem d (ih h hmem)
      · rcases List.mem_cons.1 hmem with rfl | hin
        · exact List.mem_cons_self
        · exact List.mem_cons_of_mem d (ih hlater hin)

/-- An element may lose its entry. -/
theorem eraseP (h : Formats es fs) (id : Nat) : Formats es (fs.eraseP (·.isOf id)) := by
  induction es generalizing fs with
  | nil =>
    rw [nil_iff.1 h]
    exact nil_iff.2 rfl
  | cons d es ih =>
    by_cases hmarked : d.isAny markedNames
    · obtain ⟨later, rfl, hlater⟩ := (marked_iff hmarked).1 h
      exact (marked_iff hmarked).2 ⟨_, rfl, ih hlater⟩
    · rw [unmarked_iff hmarked] at h ⊢
      rcases h with h | ⟨tag, later, rfl, hnames, hname, hlater⟩
      · exact .inl (ih h)
      · by_cases hid : (Formatting.element d tag).isOf id
        · rw [List.eraseP_cons_of_pos hid]
          exact .inl hlater
        · rw [List.eraseP_cons_of_neg hid]
          exact .inr ⟨tag, _, rfl, hnames, hname, ih hlater⟩

theorem cons (h : Formats es fs) (he : ¬ e.isAny markedNames) : Formats (e :: es) fs :=
  (unmarked_iff he).2 (.inl h)

theorem of_cons (h : Formats (e :: es) fs) (he : ¬ e.isAny markedNames)
    (hname : ¬ e.isAny reopenedNames) : Formats es fs := by
  rcases (unmarked_iff he).1 h with h | ⟨-, -, -, hreopened, -⟩
  · exact h
  · exact absurd hreopened hname

/-- An element that is opened again may have the latest entry. -/
theorem of_reopened (h : Formats (e :: es) fs) (he : e.isAny reopenedNames) :
    Formats es fs ∨
      ∃ tag later, fs = .element e tag :: later ∧ tag.name = e.name ∧ Formats es later :=
  ((unmarked_iff (isAny_marked_of_reopened he)).1 h).imp_right
    fun ⟨tag, later, hfs, _, hname, hlater⟩ => ⟨tag, later, hfs, hname, hlater⟩

theorem cons_element (h : Formats es fs) (he : e.isAny reopenedNames) (hname : tag.name = e.name) :
    Formats (e :: es) (.element e tag :: fs) :=
  (unmarked_iff (isAny_marked_of_reopened he)).2 (.inr ⟨tag, fs, rfl, he, hname, h⟩)

end Formats

/-! ## Open elements and the tree -/

/-- The element that everything stands in, as it is open. -/
def rootElement : OpenElement := { id := 0, name := "html" }

/-- The innermost open element. -/
def current (frames : List Frame) : OpenElement := (frames.head?.map Frame.element).getD rootElement

/-- The elements of the frames are open, in a tree in which the innermost one holds `inner`, and
what is put next is put there. -/
structure Placed (frames : List Frame) (inner : Forest) (s : Construction) : Prop where
  stack : s.stack = frames.map Frame.element ++ [rootElement]
  children : s.children = plug frames inner
  apart : Apart frames
  ids : ∀ f ∈ frames, 0 < f.id ∧ f.id + 2 ≤ s.nextId
  pos : 0 < s.nextId
  fostering : (s.fostering && (current frames).isAny fosteringNames) = false

/-- Besides, only open elements have formatting entries, and only an open form is known. -/
structure Grown (frames : List Frame) (form : Option Nat) (inner : Forest) (s : Construction) :
    Prop extends Placed frames inner s where
  leafy : inner.Leafy
  before : ∀ f ∈ frames, f.before.Leafy
  formatting : Formats (frames.map Frame.element) s.formatting
  form_eq : s.form = form
  form_open : form ≠ none → ∃ f ∈ frames, f.element.is "form"
  fosters : s.fostering = false

/-- What the tree and the open elements depend on. -/
def Construction.key (s : Construction) :=
  (s.stack, s.children, s.nextId, s.formatting, s.form, s.fostering)

namespace Grown

variable {frames : List Frame} {form : Option Nat} {inner : Forest} {s t : Construction}

theorem congr (h : Grown frames form inner s) (e : s.key = t.key) : Grown frames form inner t := by
  simp only [Construction.key, Prod.mk.injEq] at e
  obtain ⟨hstack, hchildren, hnext, hformatting, hform, hfostering⟩ := e
  exact ⟨⟨hstack ▸ h.stack, hchildren ▸ h.children, h.apart, hnext ▸ h.ids, hnext ▸ h.pos,
    hfostering ▸ h.fostering⟩, h.leafy, h.before, hformatting ▸ h.formatting,
    hform ▸ h.form_eq, h.form_open, hfostering ▸ h.fosters⟩

/-- The state with `inner` as what the innermost open element holds. -/
def grow (frames : List Frame) (inner : Forest) (s : Construction) : Construction :=
  { s with nextId := s.nextId + 2, children := plug frames inner }

/-- The frame of an element that is opened. -/
def newFrame (space : Space) (inner : Forest) (tag : Tag) (s : Construction) : Frame where
  id := s.nextId
  space
  name := tag.name
  attributes := tag.attributes
  before := inner

/-- The state in which an element has been opened. -/
def opened (frames : List Frame) (space : Space) (inner : Forest) (tag : Tag) (s : Construction) :
    Construction :=
  { grow frames ((newFrame space inner tag s).closed .nil) s with
    stack := (newFrame space inner tag s).element :: s.stack }

end Grown

/-! ### Places and nodes -/

namespace Placed

open Construct Grown

variable {frames : List Frame} {inner : Forest} {s : Construction} {tag : Tag} {cs : List Char}

theorem fresh (h : Placed frames inner s) : Placed frames inner { s with nextId := s.nextId + 2 } :=
  { h with
    ids := fun f hf => ⟨(h.ids f hf).1, Nat.le_add_right_of_le (h.ids f hf).2⟩
    pos := Nat.lt_add_right 2 h.pos }

theorem head?_stack (h : Placed frames inner s) : s.stack.head? = some (current frames) := by
  rw [h.stack]
  cases frames <;> rfl

theorem run_place (h : Placed frames inner s) :
    place.run s = (.lastIn (current frames).contentsId, s) := by
  have hplaceIn : (placeIn (current frames)).run s =
      (.lastIn (current frames).contentsId, s) := by
    unfold placeIn
    exact run_bind_eq (a := s) (t := s) rfl (by rw [if_neg (by simp [h.fostering])]; rfl)
  unfold place
  refine run_bind_eq (a := some (current frames)) (t := s) ?_ hplaceIn
  rw [← h.head?_stack]
  rfl

theorem update_children (h : Placed frames inner s) (u : Forest → Forest) :
    (if (current frames).contentsId == 0 then u s.children
      else (s.children.update? (current frames).contentsId fun c children => (c, u children)).getD
        s.children) = plug frames (u inner) := by
  rw [h.children]
  cases frames with
  | nil => rfl
  | cons f frames =>
    have hid : f.element.contentsId ≠ 0 := by
      have hpos : 0 < f.id := (h.ids f (by simp)).1
      unfold OpenElement.contentsId
      split
      · exact Nat.succ_ne_zero f.id
      · exact Nat.ne_of_gt hpos
    show (if f.element.contentsId == 0 then _
      else ((plug (f :: frames) inner).update? f.element.contentsId _).getD _) = _
    rw [update?_plug h.apart, if_neg (by simpa using hid)]
    rfl

theorem run_putText (h : Placed frames inner s) (cs : List Char) :
    (putText cs).run s = ((), grow frames (inner.appendText s.nextId cs) s) := by
  unfold putText
  refine run_bind_eq (a := s.nextId) rfl ?_
  refine run_bind_eq h.fresh.run_place ?_
  have hupdate := h.fresh.update_children fun children => children.appendText s.nextId cs
  unfold grow
  rw [← hupdate]
  rfl

theorem run_putElement (h : Placed frames inner s) (space : Space) (tag : Tag) :
    (putElement space tag).run s = ((newFrame space inner tag s).element,
      grow frames ((newFrame space inner tag s).closed .nil) s) := by
  unfold putElement
  refine run_bind_eq (a := s.nextId) rfl ?_
  refine run_bind_eq h.fresh.run_place ?_
  have hupdate := h.fresh.update_children fun children =>
    children ++ elementTree s.nextId space tag
  have hclosed : (newFrame space inner tag s).closed .nil =
      inner ++ elementTree s.nextId space tag := rfl
  unfold grow
  rw [hclosed, ← hupdate]
  rfl

theorem run_putVoid (h : Placed frames inner s) (tag : Tag) :
    (putVoid tag).run s = ((), grow frames ((newFrame .html inner tag s).closed .nil) s) :=
  run_discard (h.run_putElement .html tag)

theorem run_openElement (h : Placed frames inner s) (tag : Tag) :
    (openElement tag).run s =
      ((newFrame .html inner tag s).element, opened frames .html inner tag s) :=
  run_bind_eq (h.run_putElement .html tag) rfl

/-- The tree of a comment. -/
def commentTree (words : String) (s : Construction) : Forest :=
  .single s.nextId (.comment words) .nil

theorem run_putComment (h : Placed frames inner s) (words : String) :
    (putComment words).run s = ((), grow frames (inner ++ commentTree words s) s) := by
  unfold putComment
  refine run_bind_eq (a := s.nextId) rfl ?_
  refine run_bind_eq h.fresh.run_place ?_
  have hupdate := h.fresh.update_children fun children => children ++ commentTree words s
  unfold grow
  rw [← hupdate]
  rfl

end Placed

namespace Grown

variable {frames : List Frame} {f : Frame} {form : Option Nat} {inner : Forest}
  {s : Construction} {space : Space} {tag : Tag}

theorem grow_grown (h : Grown frames form inner s) {inner' : Forest} (hleafy : inner'.Leafy) :
    Grown frames form inner' (grow frames inner' s) :=
  { h with
    children := rfl
    ids := h.fresh.ids
    pos := h.fresh.pos
    leafy := hleafy }

theorem closed_leafy (hinner : f.before.Leafy) (children : Forest) : (f.closed children).Leafy :=
  hinner.append (Forest.leafy_single (fun _ => Content.noConfusion))

/-- An element that is opened is the innermost one, and holds nothing. -/
theorem opened_grown (h : Grown frames form inner s) {fs : List Formatting}
    (hfs : Formats ((newFrame space inner tag s).element :: frames.map Frame.element) fs)
    {form' : Option Nat}
    (hform : form' ≠ none → ∃ f ∈ newFrame space inner tag s :: frames, f.element.is "form") :
    Grown (newFrame space inner tag s :: frames) form' .nil
      { opened frames space inner tag s with formatting := fs, form := form' } where
  stack := congrArg ((newFrame space inner tag s).element :: ·) h.stack
  children := rfl
  apart := List.pairwise_cons.2 ⟨fun f hf => (h.ids f hf).2, h.apart⟩
  ids := List.forall_mem_cons.2 ⟨⟨h.pos, Nat.le_refl _⟩,
    fun f hf => ⟨(h.ids f hf).1, Nat.le_add_right_of_le (h.ids f hf).2⟩⟩
  pos := Nat.lt_add_right 2 h.pos
  fostering := Bool.and_eq_false_iff.2 (.inl h.fosters)
  leafy := trivial
  before := List.forall_mem_cons.2 ⟨h.leafy, h.before⟩
  formatting := hfs
  form_eq := rfl
  form_open := hform
  fosters := h.fosters

/-- When the innermost element is closed, it is the last that the one around it holds. -/
theorem closed_grown (h : Grown (f :: frames) form inner s) {fs : List Formatting}
    (hfs : Formats (frames.map Frame.element) fs) {form' : Option Nat}
    (hform : form' ≠ none → ∃ f ∈ frames, f.element.is "form") :
    Grown frames form' (f.closed inner)
      { s with
        stack := frames.map Frame.element ++ [rootElement], formatting := fs, form := form' } where
  stack := rfl
  children := h.children
  apart := (List.pairwise_cons.1 h.apart).2
  ids := (List.forall_mem_cons.1 h.ids).2
  pos := h.pos
  fostering := Bool.and_eq_false_iff.2 (.inl h.fosters)
  leafy := closed_leafy (h.before f List.mem_cons_self) _
  before := (List.forall_mem_cons.1 h.before).2
  formatting := hfs
  form_eq := rfl
  form_open := hform
  fosters := h.fosters

end Grown

end ReleaseListing.Html
