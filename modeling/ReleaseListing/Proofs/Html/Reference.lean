import ReleaseListing.Html.Document
import Mathlib.Data.List.TakeWhile

/-!
# References that pages are written with

Text and attribute values are written with a few references (`escapeText`, `Attribute.escape`). No
name goes on behind its semicolon (`eq_nil_of_semicolon`), so what follows a written reference does
not matter: it is read as what it stands for (`reference_written`). Hence a value that is written is
read back (`attributeValue_escape`).
-/

namespace ReleaseListing.Html

variable {entry : List Char × List Char} {name meaning rest cs : List Char}

/-! ## Names -/

/-- A name of the table is a run of letters and digits, with a semicolon behind it or without. -/
theorem readEntity_fst (cs : List Char) :
    ∃ word, (∀ c ∈ word, c.isAlphanum) ∧
      ((readEntity cs).1 = word ∨ (readEntity cs).1 = word ++ [';']) := by
  refine ⟨cs.takeWhile (·.isAlphanum), fun c hc => List.mem_takeWhile_imp hc, ?_⟩
  unfold readEntity
  dsimp only
  split
  · exact .inr rfl
  · exact .inl (List.append_nil _)

/-- A semicolon is the last character of a name. -/
theorem eq_nil_of_semicolon {word : List Char} {before behind : List Char}
    (h : (readEntity word).1 = before ++ ';' :: behind) : behind = [] := by
  obtain ⟨letters, hletters, hname | hname⟩ := readEntity_fst word
  · have hmem : ';' ∈ letters := by
      rw [← hname, h]
      simp
    exact absurd (hletters _ hmem) (by decide)
  · rw [h] at hname
    -- The semicolon would stand among the letters if anything stood behind it.
    rcases List.eq_nil_or_concat behind with rfl | ⟨front, last, rfl⟩
    · rfl
    · rw [List.concat_eq_append, ← List.cons_append, ← List.append_assoc] at hname
      obtain ⟨hfront, -⟩ := List.append_inj' hname rfl
      have hmem : ';' ∈ letters := by
        rw [← hfront]
        simp
      exact absurd (hletters _ hmem) (by decide)

/-- The longest name keeps its place against names that are not longer. -/
theorem foldl_longer_eq {entries : List (List Char × List Char)} (best : List Char × List Char)
    (h : ∀ entry ∈ entries, entry.1.isPrefixOf cs → entry.1.length ≤ best.1.length) :
    entries.foldl (fun (best : Option (List Char × List Char)) entry =>
        if entry.1.isPrefixOf cs && ((best.map (·.1.length)).getD 0) < entry.1.length then some entry
        else best) (some best) = some best := by
  induction entries with
  | nil => rfl
  | cons entry entries ih =>
    obtain ⟨hentry, hentries⟩ := List.forall_mem_cons.1 h
    have hkeep : ¬ (entry.1.isPrefixOf cs &&
        (((some best).map (·.1.length)).getD 0) < entry.1.length) = true := by
      rw [Bool.and_eq_true, decide_eq_true_eq]
      rintro ⟨hstarts, hlt⟩
      exact absurd (hentry hstarts) (Nat.not_le.2 hlt)
    rw [List.foldl_cons, if_neg hkeep]
    exact ih hentries

/-- Among the names that pages are written with, one is found behind which anything may stand. -/
theorem foldl_writtenEntities (hmem : (name, meaning) ∈ writtenEntities) (rest : List Char) :
    writtenEntities.foldl (fun (best : Option (List Char × List Char)) entry =>
        if entry.1.isPrefixOf (name ++ rest) && ((best.map (·.1.length)).getD 0) < entry.1.length then
          some entry
        else best) none = some (name, meaning) := by
  simp only [writtenEntities, List.mem_cons, List.not_mem_nil, or_false, Prod.mk.injEq] at hmem
  rcases hmem with ⟨rfl, rfl⟩ | ⟨rfl, rfl⟩ | ⟨rfl, rfl⟩ | ⟨rfl, rfl⟩ | ⟨rfl, rfl⟩ <;> rfl

theorem exists_semicolon (hmem : (name, meaning) ∈ writtenEntities) :
    ∃ c word, name = c :: word ++ [';'] ∧ c.isAlphanum ∧ c ≠ '#' := by
  simp only [writtenEntities, List.mem_cons, List.not_mem_nil, or_false, Prod.mk.injEq] at hmem
  rcases hmem with ⟨rfl, -⟩ | ⟨rfl, -⟩ | ⟨rfl, -⟩ | ⟨rfl, -⟩ | ⟨rfl, -⟩
  · exact ⟨'a', ['m', 'p'], by decide, by decide, by decide⟩
  · exact ⟨'g', ['t'], by decide, by decide, by decide⟩
  · exact ⟨'l', ['t'], by decide, by decide, by decide⟩
  · exact ⟨'n', ['b', 's', 'p'], by decide, by decide, by decide⟩
  · exact ⟨'q', ['u', 'o', 't'], by decide, by decide, by decide⟩

/-- The longest name that a text starts with is one that pages are written with, if the text starts
with such a one. -/
theorem longestEntity?_written (hmem : (name, meaning) ∈ writtenEntities) (rest : List Char) :
    longestEntity? (name ++ rest) = some (name, meaning) := by
  obtain ⟨c, word, hname, -, -⟩ := exists_semicolon hmem
  unfold longestEntity? entities
  dsimp only
  rw [List.foldl_append, foldl_writtenEntities hmem]
  refine foldl_longer_eq _ fun entry hentry hstarts => ?_
  obtain ⟨source, -, rfl⟩ := List.mem_map.1 hentry
  have hboth := List.prefix_or_prefix_of_prefix (List.isPrefixOf_iff_prefix.1 hstarts)
    (List.prefix_append name rest)
  rcases hboth with hshort | ⟨tail, htail⟩
  · exact hshort.length_le
  · -- A longer name would have the semicolon inside.
    have hnil : tail = [] := by
      have hinside : (readEntity source).1 = c :: word ++ ';' :: tail := by
        rw [← htail, hname]
        simp
      exact eq_nil_of_semicolon hinside
    rw [← htail, hnil, List.append_nil]

/-! ## References -/

/-- A written reference is read as what it stands for, whatever follows. -/
theorem reference_written (hmem : (name, meaning) ∈ writtenEntities) (inAttribute : Bool)
    (rest : List Char) : reference inAttribute (name ++ rest) = (meaning, rest) := by
  obtain ⟨c, word, hname, halpha, hhash⟩ := exists_semicolon hmem
  have hlongest := longestEntity?_written hmem rest
  have hlast : name.getLast? = some ';' := by
    rw [hname, List.getLast?_append]
    rfl
  have hcs : name ++ rest = c :: (word ++ [';'] ++ rest) := by rw [hname]; rfl
  unfold reference
  rw [hcs] at hlongest ⊢
  split
  · rename_i tail heq
    exact absurd (List.cons.inj heq).1 hhash
  · rename_i c' tail hne heq
    obtain rfl : c = c' := (List.cons.inj heq).1
    rw [if_pos halpha, hlongest]
    dsimp only
    rw [hlast, ← hcs, List.drop_left]
    exact if_neg (by simp)
  · rename_i heq
    cases heq

/-- In text a written reference is read in one go. -/
theorem readReference_written (hmem : (name, meaning) ∈ writtenEntities) (rest : List Char) :
    readReference (name ++ rest) = (some (.text meaning), rest) := by
  obtain ⟨c, word, hname, halpha, hhash⟩ := exists_semicolon hmem
  have hcompleted : completed? (name ++ rest) = none := by
    rw [hname]
    unfold completed?
    split
    · rename_i number heq
      exact absurd (List.cons.inj heq).1 hhash
    · rfl
  unfold readReference
  rw [hcompleted, reference_written hmem]

/-! ## Attribute values -/

theorem resolved_cons {c : Char} (hc : c ≠ '&') (steps : Nat) (cs : List Char) :
    resolved steps (c :: cs) = c :: resolved steps cs := by
  cases steps with
  | zero => rfl
  | succ steps =>
    have hne : (c != '&') = true := by simpa using hc
    unfold resolved
    rw [List.dropWhile_cons_of_pos (p := (· != '&')) hne,
      List.takeWhile_cons_of_pos (p := (· != '&')) hne]
    split <;> rfl

theorem resolved_written (hmem : (name, meaning) ∈ writtenEntities) (steps : Nat)
    (rest : List Char) :
    resolved (steps + 1) ('&' :: (name ++ rest)) = meaning ++ resolved steps rest := by
  rw [resolved]
  simp [reference_written hmem]

/-- What is written for a character of a value: itself, or a reference. -/
theorem escape_cases (c : Char) :
    (Attribute.escape c = [c] ∧ c ≠ '&' ∧ c ≠ '"') ∨
      ∃ name, Attribute.escape c = '&' :: name ∧ (name, [c]) ∈ writtenEntities := by
  unfold Attribute.escape
  split
  · exact .inr ⟨"amp;".toList, by decide, by decide⟩
  · exact .inr ⟨"nbsp;".toList, by decide, by decide⟩
  · exact .inr ⟨"quot;".toList, by decide, by decide⟩
  · rename_i hamp _ hquote
    exact .inl ⟨rfl, hamp, hquote⟩

theorem resolved_flatMap_escape (value : List Char) (steps : Nat)
    (hsteps : value.length ≤ steps) : resolved steps (value.flatMap Attribute.escape) = value := by
  induction value generalizing steps with
  | nil => cases steps <;> rfl
  | cons c value ih =>
    rw [List.flatMap_cons]
    rcases escape_cases c with ⟨heq, hamp, -⟩ | ⟨name, heq, hmem⟩
    · rw [heq, List.singleton_append, resolved_cons hamp, ih]
      exact Nat.le_of_succ_le hsteps
    · cases steps with
      | zero => cases hsteps
      | succ steps =>
        rw [heq, List.cons_append, resolved_written hmem, ih _ (Nat.le_of_succ_le_succ hsteps)]
        rfl

theorem length_le_flatMap_escape (value : List Char) :
    value.length ≤ (value.flatMap Attribute.escape).length := by
  induction value with
  | nil => exact Nat.le_refl _
  | cons c value ih =>
    have hpos : 0 < (Attribute.escape c).length := by
      rcases escape_cases c with ⟨heq, -⟩ | ⟨name, heq, -⟩ <;> rw [heq] <;> simp
    rw [List.flatMap_cons, List.length_append, List.length_cons]
    omega

theorem withoutNul_eq (h : '\x00' ∉ cs) : withoutNul cs = cs := by
  unfold withoutNul
  refine (List.map_congr_left fun c hc => if_neg ?_).trans (List.map_id cs)
  rw [beq_iff_eq]
  rintro rfl
  exact h hc

/-- A value that is written is read back. -/
theorem attributeValue_escape (value : String) (h : '\x00' ∉ value.toList) :
    attributeValue (value.toList.flatMap Attribute.escape) = value := by
  unfold attributeValue
  rw [resolved_flatMap_escape _ _ (length_le_flatMap_escape _), withoutNul_eq h,
    String.ofList_toList]

/-- No quote is written inside of a value. -/
theorem quote_not_mem_escape (value : List Char) :
    ∀ c ∈ value.flatMap Attribute.escape, (c != '"') = true := by
  intro c hc
  obtain ⟨d, -, hd⟩ := List.mem_flatMap.1 hc
  rcases escape_cases d with ⟨heq, -, hquote⟩ | ⟨name, heq, hmem⟩
  · rw [heq, List.mem_singleton] at hd
    simpa [hd] using hquote
  · have hnames : writtenEntities.all (fun entry => ('&' :: entry.1).all (· != '"')) = true := by
      decide
    rw [heq] at hd
    exact List.all_eq_true.1 (List.all_eq_true.1 hnames _ hmem) _ hd

end ReleaseListing.Html
