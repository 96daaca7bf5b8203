import ReleaseListing.Text.Split

/-!
# Where a text is cut

* `occursIn_iff`: a pattern is found exactly where the text can be cut around it;
* `eq_afterLast_iff`: what follows the last separator is the one end of the text that has no
  separator, and has one in front of it or is the whole text;
* `length_splitOn`: a text has one line more than it has line ends.
-/

namespace ReleaseListing.Text

variable {pattern cs tail : List Char} {sep : Char}

theorem occursIn_eq_true_iff : occursIn pattern cs = true ↔ pattern <:+: cs := by
  induction cs with
  | nil => simp [occursIn]
  | cons c cs ih =>
    rw [occursIn, Bool.or_eq_true, ih, List.isPrefixOf_iff_prefix, List.infix_cons_iff]

/-- A pattern stands somewhere in a text exactly if the text can be cut around it. -/
theorem occursIn_iff {pattern text : String} :
    occursIn pattern.toList text.toList = true ↔ ∃ u v, text = u ++ pattern ++ v := by
  rw [occursIn_eq_true_iff]
  constructor
  · rintro ⟨u, v, h⟩
    refine ⟨.ofList u, .ofList v, String.toList_inj.1 ?_⟩
    simp [← h]
  · rintro ⟨u, v, rfl⟩
    exact ⟨u.toList, v.toList, by simp⟩

/-! ## Behind the last separator -/

theorem afterLast?_eq_none (h : sep ∉ cs) : afterLast? sep cs = none := by
  induction cs with
  | nil => rfl
  | cons c cs ih =>
    obtain ⟨hc, hcs⟩ := not_or.1 (mt List.mem_cons.2 h)
    simp [afterLast?, ih hcs, Ne.symm hc]

theorem afterLast?_append_cons (h : sep ∉ tail) (front : List Char) :
    afterLast? sep (front ++ sep :: tail) = some tail := by
  induction front with
  | nil => simp [afterLast?, afterLast?_eq_none h]
  | cons c front ih => simp [afterLast?, ih]

/-- A text in which a separator stands can be cut at the last one. -/
theorem exists_last_cut (h : sep ∈ cs) : ∃ front tail, cs = front ++ sep :: tail ∧ sep ∉ tail := by
  obtain ⟨tail, front, hcs, htail⟩ := List.eq_append_cons_of_mem (List.mem_reverse.2 h)
  refine ⟨front.reverse, tail.reverse, ?_, by simpa using htail⟩
  rw [← List.reverse_reverse cs, hcs]
  simp

/-- What follows the last separator has none, and is the only end of the text that has none and
that nothing or a separator stands in front of. -/
theorem eq_afterLast_iff : tail = afterLast sep cs ↔
    sep ∉ tail ∧ (cs = tail ∨ ∃ front, cs = front ++ sep :: tail) := by
  constructor
  · rintro rfl
    by_cases h : sep ∈ cs
    · obtain ⟨front, tail, rfl, htail⟩ := exists_last_cut h
      rw [afterLast, afterLast?_append_cons htail]
      exact ⟨htail, .inr ⟨front, rfl⟩⟩
    · rw [afterLast, afterLast?_eq_none h]
      exact ⟨h, .inl rfl⟩
  · rintro ⟨h, rfl | ⟨front, rfl⟩⟩
    · rw [afterLast, afterLast?_eq_none h]
      rfl
    · rw [afterLast, afterLast?_append_cons h]
      rfl

/-! ## Lines -/

/-- Cutting at every separator makes one piece more than there are separators. -/
theorem length_splitOn (sep : Char) (cs : List Char) :
    (cs.splitOn sep).length = cs.count sep + 1 := by
  unfold List.splitOn
  induction cs with
  | nil => rfl
  | cons c cs ih =>
    rw [List.splitOnP_cons_eq_if_modifyHead, List.count_cons]
    split
    · rw [List.length_cons, ih]
    · rw [List.length_modifyHead, ih, Nat.add_zero]

end ReleaseListing.Text
