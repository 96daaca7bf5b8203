import Mathlib.Data.List.Basic
import ReleaseListing.Text.Blank

/-!
# The label form of a text

* `tokenized_iff`: the tokens of a text are its maximal runs of characters that are not blank;
* `eq_spaced_iff`: the tokens with one space between neighbours are the one text with these tokens
  in which blanks are single spaces between other characters (`Normal`);
* `tokens_append`: behind a gap the tokens start anew.

So the label of a text is its normal form, and tells the tokens and nothing else
(`label_normal_form`).
-/

namespace ReleaseListing.Text

variable {c : Char} {cs ds front gap run rest : List Char} {ts us : List (List Char)}

/-- A text of blanks only. -/
def AllBlank (cs : List Char) : Prop := ∀ c ∈ cs, isBlank c = true

instance (cs : List Char) : Decidable (AllBlank cs) := decidable_of_iff _ List.all_eq_true

/-- A run of characters that are not blank. -/
structure IsToken (run : List Char) : Prop where
  ne_nil : run ≠ []
  solid : ∀ c ∈ run, isBlank c = false

/-- The text ends, or goes on with a blank. -/
def Breaks (cs : List Char) : Prop := ∀ c ∈ cs.head?, isBlank c = true

/-- The maximal runs of a text: a run starts behind blanks or at the start of the text, and goes on
as far as there is no blank. -/
inductive Tokenized : List Char → List (List Char) → Prop
  | blank {gap : List Char} (h : AllBlank gap) : Tokenized gap []
  | token {gap run rest : List Char} {ts : List (List Char)} (hgap : AllBlank gap)
      (hrun : IsToken run) (hrest : Breaks rest) (h : Tokenized rest ts) :
      Tokenized (gap ++ (run ++ rest)) (run :: ts)

/-- No blank at the start or the end; blanks are single spaces, each between two other
characters. -/
structure Normal (cs : List Char) : Prop where
  start : ∀ c ∈ cs.head?, isBlank c = false
  ending : ∀ c ∈ cs.getLast?, isBlank c = false
  between : ∀ front c back, cs = front ++ c :: back → isBlank c = true →
    c = ' ' ∧ (∃ d ∈ front.getLast?, isBlank d = false) ∧ ∃ d ∈ back.head?, isBlank d = false

/-! ## Blanks -/

theorem allBlank_nil : AllBlank [] := fun _ h => (List.not_mem_nil h).elim

theorem allBlank_singleton (hc : isBlank c = true) : AllBlank [c] :=
  fun _ h => List.mem_singleton.1 h ▸ hc

theorem AllBlank.append (h : AllBlank cs) (h' : AllBlank ds) : AllBlank (cs ++ ds) :=
  fun c hc => (List.mem_append.1 hc).elim (h c) (h' c)

theorem AllBlank.breaks (h : AllBlank gap) (hne : gap ≠ []) (cs : List Char) :
    Breaks (gap ++ cs) := by
  obtain ⟨c, gap, rfl⟩ := List.exists_cons_of_ne_nil hne
  intro d hd
  obtain rfl : c = d := Option.some.inj hd
  exact h c List.mem_cons_self

/-- In front of a character that is not blank there is no gap. -/
theorem AllBlank.eq_nil (h : AllBlank gap) (hhead : ∀ c ∈ (gap ++ cs).head?, isBlank c = false) :
    gap = [] := by
  cases gap with
  | nil => rfl
  | cons c gap => exact (Bool.eq_false_iff.1 (hhead c rfl) (h c List.mem_cons_self)).elim

theorem breaks_nil : Breaks [] := fun _ h => (Option.not_mem_none _ h).elim

theorem IsToken.not_breaks (h : IsToken run) (rest : List Char) : ¬Breaks (run ++ rest) := by
  obtain ⟨c, cs, rfl⟩ := List.exists_cons_of_ne_nil h.ne_nil
  exact fun hbreaks => Bool.eq_false_iff.1 (h.solid c List.mem_cons_self) (hbreaks c rfl)

/-! ## Tokens are the maximal runs -/

theorem tokens_cons (c : Char) (cs : List Char) : tokens (c :: cs) =
    if isBlank c then tokens cs
    else
      match cs, tokens cs with
      | d :: _, t :: ts => if isBlank d then [c] :: t :: ts else (c :: t) :: ts
      | _, ts => [c] :: ts := rfl

theorem tokens_gap (h : AllBlank gap) (cs : List Char) : tokens (gap ++ cs) = tokens cs := by
  induction gap with
  | nil => rfl
  | cons c gap ih =>
    obtain ⟨hc, hgap⟩ := List.forall_mem_cons.1 h
    rw [List.cons_append, tokens_cons, if_pos hc, ih hgap]

theorem tokens_run (h : IsToken run) (hrest : Breaks rest) :
    tokens (run ++ rest) = run :: tokens rest := by
  obtain ⟨hne, hsolid⟩ := h
  induction run with
  | nil => exact (hne rfl).elim
  | cons c run ih =>
    obtain ⟨hc, hrun⟩ := List.forall_mem_cons.1 hsolid
    rw [List.cons_append, tokens_cons, if_neg (Bool.eq_false_iff.1 hc)]
    cases run with
    | nil =>
      cases rest with
      | nil => rfl
      | cons d rest =>
        have hd : isBlank d = true := hrest d rfl
        rw [List.nil_append]
        cases tokens (d :: rest) with
        | nil => rfl
        | cons t ts => simp only [hd, if_true]
    | cons d run =>
      have hd : isBlank d = false := hrun d List.mem_cons_self
      rw [ih (List.cons_ne_nil _ _) hrun]
      simp only [List.cons_append, hd, Bool.false_eq_true, if_false]

theorem Tokenized.eq_tokens (h : Tokenized cs ts) : ts = tokens cs := by
  induction h with
  | @blank gap h =>
    have hgap := tokens_gap h []
    rw [List.append_nil] at hgap
    exact hgap.symm
  | token hgap hrun hrest _ ih => rw [tokens_gap hgap, tokens_run hrun hrest, ← ih]

theorem Tokenized.behind_gap (h : Tokenized cs ts) (hgap : AllBlank gap) :
    Tokenized (gap ++ cs) ts := by
  cases h with
  | blank h => exact .blank (hgap.append h)
  | token hmore hrun hrest h =>
    rw [← List.append_assoc]
    exact .token (hgap.append hmore) hrun hrest h

/-- A character that is not blank belongs to the run that follows, if one follows at once. -/
theorem Tokenized.exists_cons (h : Tokenized cs ts) (hc : isBlank c = false) :
    ∃ us, Tokenized (c :: cs) us := by
  have hone : IsToken [c] := ⟨List.cons_ne_nil _ _, fun d hd => List.mem_singleton.1 hd ▸ hc⟩
  by_cases hbreaks : Breaks cs
  · exact ⟨_, .token allBlank_nil hone hbreaks h⟩
  · cases h with
    | blank hgap => exact (hbreaks fun d hd => hgap d (List.mem_of_mem_head? hd)).elim
    | @token gap run rest ts hgap hrun hrest h =>
      obtain rfl : gap = [] := by
        by_contra hne
        exact hbreaks (hgap.breaks hne _)
      have hlonger : IsToken (c :: run) :=
        ⟨List.cons_ne_nil _ _, List.forall_mem_cons.2 ⟨hc, hrun.solid⟩⟩
      exact ⟨_, .token allBlank_nil hlonger hrest h⟩

theorem exists_tokenized (cs : List Char) : ∃ ts, Tokenized cs ts := by
  induction cs with
  | nil => exact ⟨[], .blank allBlank_nil⟩
  | cons c cs ih =>
    obtain ⟨ts, h⟩ := ih
    by_cases hc : isBlank c = true
    · exact ⟨ts, h.behind_gap (allBlank_singleton hc)⟩
    · exact h.exists_cons (Bool.eq_false_iff.2 hc)

/-- A text has one list of maximal runs: its tokens. -/
theorem tokenized_iff : Tokenized cs ts ↔ ts = tokens cs := by
  constructor
  · exact Tokenized.eq_tokens
  · rintro rfl
    obtain ⟨ts, h⟩ := exists_tokenized cs
    exact h.eq_tokens ▸ h

theorem tokenized_tokens (cs : List Char) : Tokenized cs (tokens cs) := tokenized_iff.2 rfl

theorem Tokenized.isToken (h : Tokenized cs ts) : ∀ t ∈ ts, IsToken t := by
  induction h with
  | blank _ => simp
  | token _ hrun _ _ ih => exact List.forall_mem_cons.2 ⟨hrun, ih⟩

theorem Tokenized.append (h : Tokenized cs ts) (hne : gap ≠ []) (hgap : AllBlank gap)
    (h' : Tokenized ds us) : Tokenized (cs ++ (gap ++ ds)) (ts ++ us) := by
  induction h with
  | blank hblank => exact (h'.behind_gap hgap).behind_gap hblank
  | @token before run rest ts hbefore hrun hrest _ ih =>
    have hbreaks : Breaks (rest ++ (gap ++ ds)) := by
      cases rest with
      | nil => exact hgap.breaks hne ds
      | cons c rest => exact fun d hd => hrest d hd
    rw [List.append_assoc, List.append_assoc]
    exact .token hbefore hrun hbreaks ih

/-- Behind a gap the tokens start anew. -/
theorem tokens_append (hne : gap ≠ []) (hgap : AllBlank gap) (cs ds : List Char) :
    tokens (cs ++ (gap ++ ds)) = tokens cs ++ tokens ds :=
  ((tokenized_tokens cs).append hne hgap (tokenized_tokens ds)).eq_tokens.symm

/-! ## Tokens with spaces between them -/

/-- The tokens with one space between neighbours. -/
def spaced (ts : List (List Char)) : List Char := [' '].intercalate ts

theorem spaced_singleton (t : List Char) : spaced [t] = t := by
  simp [spaced]

theorem spaced_cons_cons (t u : List Char) (ts : List (List Char)) :
    spaced (t :: u :: ts) = t ++ ' ' :: spaced (u :: ts) := by
  simp [spaced, List.intercalate_cons_cons]

theorem spaced_cons (t : List Char) (ts : List (List Char)) :
    spaced (t :: ts) = t ++ ts.flatMap (' ' :: ·) := by
  induction ts generalizing t with
  | nil => rw [spaced_singleton, List.flatMap_nil, List.append_nil]
  | cons u ts ih => rw [spaced_cons_cons, ih, List.flatMap_cons, List.cons_append]

theorem allBlank_space : AllBlank [' '] := allBlank_singleton (by decide)

theorem tokens_spaced (h : ∀ t ∈ ts, IsToken t) : tokens (spaced ts) = ts := by
  induction ts with
  | nil => rfl
  | cons t ts ih =>
    obtain ⟨ht, hts⟩ := List.forall_mem_cons.1 h
    cases ts with
    | nil =>
      have hrun := tokens_run ht breaks_nil
      rw [List.append_nil] at hrun
      rw [spaced_singleton, hrun]
      rfl
    | cons u ts =>
      have hgap : tokens (' ' :: spaced (u :: ts)) = tokens (spaced (u :: ts)) :=
        tokens_gap allBlank_space _
      have hbreaks : Breaks (' ' :: spaced (u :: ts)) :=
        allBlank_space.breaks (List.cons_ne_nil _ _) _
      rw [spaced_cons_cons, tokens_run ht hbreaks, hgap, ih hts]

theorem IsToken.normal (h : IsToken run) : Normal run where
  start c hc := h.solid c (List.mem_of_mem_head? hc)
  ending c hc := h.solid c (List.mem_of_mem_getLast? hc)
  between front c back hcut hblank := by
    have hc : c ∈ run := hcut ▸ List.mem_append_right _ List.mem_cons_self
    exact (Bool.eq_false_iff.1 (h.solid c hc) hblank).elim

/-- A token, a space and a normal text that is not empty are a normal text. -/
theorem Normal.behind_token (h : Normal cs) (hne : cs ≠ []) (hrun : IsToken run) :
    Normal (run ++ ' ' :: cs) where
  start := by
    obtain ⟨c, run, rfl⟩ := List.exists_cons_of_ne_nil hrun.ne_nil
    exact hrun.normal.start
  ending := by
    obtain ⟨d, ds, rfl⟩ := List.exists_cons_of_ne_nil hne
    simpa [List.getLast?_append, List.getLast?_cons_cons] using h.ending
  between := by
    intro front c back hcut hblank
    have hspace : c = ' ' → front = run → back = cs →
        c = ' ' ∧ (∃ d ∈ front.getLast?, isBlank d = false) ∧
          ∃ d ∈ back.head?, isBlank d = false := by
      rintro rfl rfl rfl
      exact ⟨rfl, ⟨_, List.getLast?_eq_some_getLast hrun.ne_nil, hrun.solid _ (List.getLast_mem _)⟩,
        ⟨_, List.head?_eq_some_head hne, h.start _ (List.head?_eq_some_head hne)⟩⟩
    rcases List.append_eq_append_iff.1 hcut with ⟨behind, rfl, hback⟩ | ⟨ahead, rfl, hback⟩
    · cases behind with
      | nil =>
        obtain ⟨rfl, rfl⟩ := List.cons.inj hback
        exact hspace rfl (List.append_nil _) rfl
      | cons e behind =>
        obtain ⟨rfl, rfl⟩ := List.cons.inj hback
        obtain ⟨rfl, ⟨d, hd, hsolid⟩, hhead⟩ := h.between behind c back rfl hblank
        refine ⟨rfl, ⟨d, ?_, hsolid⟩, hhead⟩
        simp [List.getLast?_append, List.getLast?_cons, Option.mem_def.1 hd]
    · cases ahead with
      | nil =>
        obtain ⟨rfl, rfl⟩ := List.cons.inj hback
        exact hspace rfl (List.append_nil _).symm rfl
      | cons e ahead =>
        obtain ⟨rfl, -⟩ := List.cons.inj hback
        have hsolid := hrun.solid c (List.mem_append_right _ List.mem_cons_self)
        exact (Bool.eq_false_iff.1 hsolid hblank).elim

theorem normal_spaced (h : ∀ t ∈ ts, IsToken t) : Normal (spaced ts) := by
  induction ts with
  | nil => exact ⟨by simp [spaced], by simp [spaced], by simp [spaced]⟩
  | cons t ts ih =>
    obtain ⟨ht, hts⟩ := List.forall_mem_cons.1 h
    cases ts with
    | nil =>
      rw [spaced_singleton]
      exact ht.normal
    | cons u ts =>
      have hne : spaced (u :: ts) ≠ [] := by
        rw [spaced_cons]
        exact List.append_ne_nil_of_left_ne_nil (hts u List.mem_cons_self).ne_nil _
      rw [spaced_cons_cons]
      exact (ih hts).behind_token hne ht

/-! ## One normal form -/

/-- In a normal text a gap is a single space, so what follows a token is told by the tokens. -/
theorem Tokenized.eq_flatMap (h : Tokenized cs ts) (hcs : Normal (front ++ cs))
    (hbreaks : Breaks cs) : cs = ts.flatMap (' ' :: ·) := by
  induction h generalizing front with
  | @blank gap h =>
    by_contra hne
    have hlast := List.getLast?_eq_some_getLast hne
    have hsolid := hcs.ending (gap.getLast hne) (by simp [List.getLast?_append, hlast])
    exact Bool.eq_false_iff.1 hsolid (h _ (List.getLast_mem hne))
  | @token gap run rest ts hgap hrun hrest h ih =>
    cases gap with
    | nil => exact (hrun.not_breaks rest hbreaks).elim
    | cons c gap =>
      obtain ⟨rfl, -, d, hd, hsolid⟩ :=
        hcs.between front c (gap ++ (run ++ rest)) rfl (hgap c List.mem_cons_self)
      have hlater : AllBlank gap := fun e he => hgap e (List.mem_cons_of_mem _ he)
      obtain rfl : gap = [] := hlater.eq_nil fun e he => Option.mem_unique hd he ▸ hsolid
      have hrests : rest = ts.flatMap (' ' :: ·) :=
        @ih (front ++ ' ' :: run) (by simpa using hcs) hrest
      rw [List.flatMap_cons, ← hrests]
      rfl

theorem Normal.spaced_tokens (h : Normal cs) : spaced (tokens cs) = cs := by
  have htokens := tokenized_tokens cs
  generalize tokens cs = ts at htokens
  cases htokens with
  | blank hgap =>
    obtain rfl := hgap.eq_nil ((List.append_nil cs).symm ▸ h.start)
    rfl
  | @token gap run rest ts hgap hrun hrest hlater =>
    obtain rfl := hgap.eq_nil h.start
    rw [List.nil_append, spaced_cons, ← hlater.eq_flatMap h hrest]

/-- The tokens with one space between neighbours are the one normal text that has these tokens. -/
theorem eq_spaced_iff (h : ∀ t ∈ ts, IsToken t) : cs = spaced ts ↔ tokens cs = ts ∧ Normal cs := by
  constructor
  · rintro rfl
    exact ⟨tokens_spaced h, normal_spaced h⟩
  · rintro ⟨rfl, hcs⟩
    exact hcs.spaced_tokens.symm

theorem isToken_of_mem_tokens (cs : List Char) : ∀ t ∈ tokens cs, IsToken t :=
  (tokenized_tokens cs).isToken

/-! ## Labels -/

theorem toList_label (text : String) : (label text).toList = spaced (tokens text.toList) := by
  rw [label, String.toList_ofList, spaced]

theorem eq_label_iff {text other : String} : other = label text ↔
    tokens other.toList = tokens text.toList ∧ Normal other.toList := by
  rw [← String.toList_inj, toList_label]
  exact eq_spaced_iff (isToken_of_mem_tokens _)

theorem tokens_label (text : String) : tokens (label text).toList = tokens text.toList :=
  (eq_label_iff.1 rfl).1

theorem label_eq_label_iff {text other : String} :
    label other = label text ↔ tokens other.toList = tokens text.toList := by
  rw [eq_label_iff, tokens_label]
  exact and_iff_left (eq_label_iff.1 rfl).2

/-- **The label of a text is its normal form.** It is the one text with the same maximal runs of
characters that are not blank in which blanks are single spaces between two other characters. So the
label of a label is the label itself, two texts have the same label exactly if they have the same
runs, and what stands in front of a gap and behind it can be brought into its label form before. -/
theorem label_normal_form (text : String) :
    (∀ ts, Tokenized text.toList ts ↔ ts = tokens text.toList) ∧
    (∀ other, other = label text ↔
      (∀ ts, Tokenized other.toList ts ↔ Tokenized text.toList ts) ∧ Normal other.toList) ∧
    label (label text) = label text ∧
    (∀ other, label other = label text ↔
      ∀ ts, Tokenized other.toList ts ↔ Tokenized text.toList ts) ∧
    ∀ gap behind : String, gap ≠ "" → AllBlank gap.toList →
      label (text ++ gap ++ behind) = label (label text ++ " " ++ label behind) := by
  have htokens : ∀ other : String, (∀ ts, Tokenized other.toList ts ↔ Tokenized text.toList ts) ↔
      tokens other.toList = tokens text.toList := by
    intro other
    simp only [tokenized_iff]
    exact ⟨fun h => (h _).1 rfl, fun h ts => by rw [h]⟩
  simp only [htokens]
  refine ⟨fun ts => tokenized_iff, fun other => eq_label_iff, ?_,
    fun other => label_eq_label_iff, ?_⟩
  · exact label_eq_label_iff.2 (tokens_label text)
  · intro gap behind hne hgap
    have hne' : gap.toList ≠ [] := mt String.toList_eq_nil_iff.1 hne
    have hspace : (" ").toList = [' '] := by decide
    rw [label_eq_label_iff]
    simp only [String.toList_append, List.append_assoc, hspace]
    rw [tokens_append hne' hgap, tokens_append (List.cons_ne_nil _ _) allBlank_space, tokens_label,
      tokens_label]

/-- A gap of several blanks between two parts, one of which has gaps of its own; the label of the
whole is the label of the labels. -/
theorem label_normal_form_gap :
    ("\t\u00a0\n" ≠ "" ∧ AllBlank "\t\u00a0\n".toList) ∧
      label (" Source\u2003 code" ++ "\t\u00a0\n" ++ "(zip)\n") = "Source code (zip)" := by
  have hblank : AllBlank "\t\u00a0\n".toList := by decide
  obtain ⟨-, -, -, -, happend⟩ := label_normal_form " Source\u2003 code"
  refine ⟨⟨by decide, hblank⟩, ?_⟩
  rw [happend _ _ (by decide) hblank]
  decide +kernel

end ReleaseListing.Text
