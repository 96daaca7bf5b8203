import ReleaseListing.Page.Table
import ReleaseListing.Proofs.Job.Stages
import ReleaseListing.Proofs.Listing.JsonStyle
import ReleaseListing.Proofs.Text.Split

/-!
# Control characters in listings

The entries of a listing are quoted, so no control character of theirs stands in it raw. How often a
character below U+0020 does is told by the format and the number of entries (`count_renderChars`).
So the links and texts of a page have no say in the lines of what a job lists
(`Job.count_listing`).
-/

namespace ReleaseListing

/-- How often a control character stands in a listing of `n` entries: where the format has it. -/
def Format.controls (f : Format) (c : Char) (n : Nat) : Nat :=
  match f.style with
  | .json => 0
  | .call =>
    n * f.record.toList.count c + (n - 1) * f.separator.toList.count c +
      (match f.assign with
        | some name => name.toList.count c
        | none => 0) +
      (match f.docstring with
        | some text => text.toList.count c + if c = '\n' then 1 else 0
        | none => 0)

namespace Text

variable {c d : Char} {cs : List Char}

theorem count_eq_zero (hc : c.toNat < 0x20) (h : cs.all (0x20 ≤ ·.toNat) = true) :
    cs.count c = 0 := by
  refine List.count_eq_zero.2 fun hmem => ?_
  have hle : 0x20 ≤ c.toNat := of_decide_eq_true (List.all_eq_true.1 h c hmem)
  omega

theorem le_toNat_of_isControl (h : isControl d = false) : 0x20 ≤ d.toNat := by
  simp only [isControl, Bool.or_eq_false_iff, decide_eq_false_iff_not] at h
  omega

/-- Escaped characters are written without control characters. -/
def HidesControls (escape : Char → List Char) : Prop := ∀ c, ∀ d ∈ escape c, 0x20 ≤ d.toNat

theorem hidesControls_escapeAll : HidesControls escapeAll := by
  intro c d hd
  refine le_toNat_of_isControl ?_
  simpa using List.all_eq_true.1 (all_escapeAll c) d hd

theorem le_toNat_of_mem_unicodeEscape (hc : c.toNat < 0x20) (hd : d ∈ unicodeEscape c) :
    0x20 ≤ d.toNat := by
  refine le_toNat_of_isControl ?_
  rcases List.mem_cons.1 hd with rfl | hd
  · rfl
  · rcases List.mem_cons.1 hd with rfl | hd
    · rfl
    · simpa using List.all_eq_true.1 (all_hexPadded c.toNat (by omega)) d hd

theorem hidesControls_escapeJson : HidesControls escapeJson := by
  intro c d hd
  unfold escapeJson at hd
  split at hd
  -- The seven characters with a short form come first.
  case h_8 =>
    split at hd
    · rename_i hc
      exact le_toNat_of_mem_unicodeEscape hc hd
    · obtain rfl := List.mem_singleton.1 hd
      omega
  all_goals
    obtain rfl | rfl := List.mem_pair.1 hd
    · decide
    · decide

/-- No control character stands raw between quotes. -/
theorem count_quoted {escape : Char → List Char} (h : HidesControls escape) (hc : c.toNat < 0x20)
    (text : String) : (quoted escape text).count c = 0 := by
  refine count_eq_zero hc (List.all_eq_true.2 fun d hd => decide_eq_true ?_)
  simp only [quoted, List.cons_append, List.mem_cons, List.mem_append, List.mem_flatMap,
    List.not_mem_nil, or_false] at hd
  rcases hd with rfl | ⟨e, -, hd⟩ | rfl
  · decide
  · exact h e d hd
  · decide

theorem count_intercalate {parts : List (List Char)} {k : Nat} (h : ∀ part ∈ parts, part.count c = k)
    (sep : List Char) :
    (sep.intercalate parts).count c = parts.length * k + (parts.length - 1) * sep.count c := by
  induction parts with
  | nil => simp
  | cons part parts ih =>
    obtain ⟨hpart, hparts⟩ := List.forall_mem_cons.1 h
    cases parts with
    | nil => simp [hpart]
    | cons next parts =>
      rw [List.intercalate_cons_cons, List.count_append, List.count_append, ih hparts, hpart]
      simp only [List.length_cons, Nat.add_sub_cancel, Nat.succ_mul]
      omega

end Text

namespace Listing

open Text (quoted escapeAll escapeJson)

variable {c : Char}

theorem count_callLiteral (hc : c.toNat < 0x20) (record : String) (e : Entry) :
    (callLiteral record e).count c = record.toList.count c := by
  have hname := Text.count_quoted Text.hidesControls_escapeAll hc e.name
  have hurl := Text.count_quoted Text.hidesControls_escapeAll hc e.url
  have hopen : ['('].count c = 0 := Text.count_eq_zero hc (by decide)
  have hcomma : ", ".toList.count c = 0 := Text.count_eq_zero hc (by decide)
  have hclose : [')'].count c = 0 := Text.count_eq_zero hc (by decide)
  have hsplit : callLiteral record e = record.toList ++ (['('] ++ quoted escapeAll e.name) ++
      ", ".toList ++ quoted escapeAll e.url ++ [')'] := by
    simp [callLiteral]
  simp only [hsplit, List.count_append, hname, hurl, hopen, hcomma, hclose, Nat.add_zero]

theorem count_callBody (hc : c.toNat < 0x20) (f : Format) (entries : List Entry) :
    (callBody f entries).count c = entries.length * f.record.toList.count c +
      (entries.length - 1) * f.separator.toList.count c := by
  have hcalls : ∀ call ∈ entries.map (callLiteral f.record), call.count c = f.record.toList.count c :=
    List.forall_mem_map.2 fun e _ => count_callLiteral hc f.record e
  rw [callBody, Text.count_intercalate hcalls, List.length_map]

theorem count_assigned (hc : c.toNat < 0x20) (assign : Option String) (body : List Char) :
    (assigned assign body).count c = body.count c +
      match assign with
      | some name => name.toList.count c
      | none => 0 := by
  cases assign with
  | none => rfl
  | some name =>
    have hopen : " = [".toList.count c = 0 := Text.count_eq_zero hc (by decide)
    have hclose : [']'].count c = 0 := Text.count_eq_zero hc (by decide)
    simp only [assigned, List.count_append, hopen, hclose]
    omega

theorem count_docstringLine (hc : c.toNat < 0x20) (docstring : Option String) :
    (docstringLine docstring).count c =
      match docstring with
      | some text => text.toList.count c + if c = '\n' then 1 else 0
      | none => 0 := by
  cases docstring with
  | none => rfl
  | some text =>
    have hquotes : "\"\"\"".toList.count c = 0 := Text.count_eq_zero hc (by decide)
    have hstart : "\n\"\"\"".toList.count c = if c = '\n' then 1 else 0 := by
      rw [show "\n\"\"\"".toList = '\n' :: "\"\"\"".toList by decide, List.count_cons, hquotes,
        Nat.zero_add]
      by_cases h : c = '\n' <;> simp [h, Ne.symm]
    simp only [docstringLine, List.count_append, hquotes, hstart]
    omega

theorem count_memberText (hc : c.toNat < 0x20) (name value : String) :
    (memberText name value).count c = 0 := by
  have hquoted := Text.count_quoted Text.hidesControls_escapeJson hc
  have hcolon : [':'].count c = 0 := Text.count_eq_zero hc (by decide)
  have hsplit : memberText name value =
      quoted escapeJson name ++ ([':'] ++ quoted escapeJson value) := rfl
  simp only [hsplit, List.count_append, hquoted, hcolon]

theorem count_jsonObject (hc : c.toNat < 0x20) (e : Entry) : (jsonObject e).count c = 0 := by
  have hmember := count_memberText hc
  have hopen : ['\x7b'].count c = 0 := Text.count_eq_zero hc (by decide)
  have hcomma : [','].count c = 0 := Text.count_eq_zero hc (by decide)
  have hclose : ['\x7d'].count c = 0 := Text.count_eq_zero hc (by decide)
  have hsplit : jsonObject e = ['\x7b'] ++
      (memberText "name" e.name ++ [','] ++ memberText "url" e.url ++ ['\x7d']) := by
    simp [jsonObject_eq, List.intercalate]
  simp only [hsplit, List.count_append, hmember, hopen, hcomma, hclose]

/-- A control character stands in a listing where the format has it, and nowhere else. -/
theorem count_renderChars (hc : c.toNat < 0x20) (f : Format) (entries : List Entry) :
    (renderChars entries f).count c = f.controls c entries.length := by
  cases hf : f.style with
  | call =>
    simp only [renderChars, Format.controls, hf, List.count_append, count_assigned hc,
      count_callBody hc, count_docstringLine hc]
  | json =>
    have hopen : ['['].count c = 0 := Text.count_eq_zero hc (by decide)
    have hcomma : [','].count c = 0 := Text.count_eq_zero hc (by decide)
    have hclose : [']'].count c = 0 := Text.count_eq_zero hc (by decide)
    have hsplit : renderChars entries f =
        ['['] ++ [','].intercalate (entries.map jsonObject) ++ [']'] := by
      simp [renderChars, hf]
    have hobjects : ∀ object ∈ entries.map jsonObject, object.count c = 0 :=
      List.forall_mem_map.2 fun e _ => count_jsonObject hc e
    rw [hsplit, List.count_append, List.count_append, Text.count_intercalate hobjects, hopen, hcomma,
      hclose]
    simp [Format.controls, hf]

end Listing

namespace Job

variable {P Q : Type} [Page P] [Page Q] {job : Job} {settings : Settings} {page rest : P}
  {outcome : Outcome} {c : Char}

theorem run_controls (h : job.run settings page = .ok (outcome, rest)) (hc : c.toNat < 0x20) :
    outcome.listing.toList.count c = (job.format settings).controls c outcome.matched := by
  obtain ⟨x, -, -, hlisting, hmatched, -⟩ := run_ok h
  rw [hlisting, Listing.render, String.toList_ofList, Listing.count_renderChars hc,
    List.length_map, hmatched]

/-- **A page adds no control character and no line to a listing.** How often a character below U+0020
stands in what a job lists is told by the format and the number of matches. So two pages with
equally many matches give listings with equally many lines. -/
theorem count_listing (h : job.run settings page = .ok (outcome, rest)) :
    (∀ c : Char, c.toNat < 0x20 →
      outcome.listing.toList.count c = (job.format settings).controls c outcome.matched) ∧
    ∀ (other otherRest : Q) (second : Outcome),
      job.run settings other = .ok (second, otherRest) → second.matched = outcome.matched →
        (second.listing.toList.splitOn '\n').length =
          (outcome.listing.toList.splitOn '\n').length := by
  refine ⟨fun c hc => run_controls h hc, fun other otherRest second hsecond hmatched => ?_⟩
  have hline : ('\n').toNat < 0x20 := by decide
  rw [Text.length_splitOn, Text.length_splitOn, run_controls hsecond hline, run_controls h hline,
    hmatched]

/-- The line ends of the format are the only ones; the start of the names and the first link have a
control character of their own each. -/
theorem count_listing_line_ends :
    let job : Job := { pattern := "x", start := "\r", docstring := some "d\ne" }
    let settings : Settings := { record := "R", separator := ",\n", rowLevels := 2 }
    let page := TreePage.ofSource "<a href='a\nx'>a</a><a href=x>b</a>"
    let table := TablePage.addRow [(some "x", "a"), (some "x\ty", "b")] {}
    ∃ first second, job.run settings page = .ok (first, page) ∧
      job.run settings table = .ok (second, table) ∧
      first.matched = 2 ∧ second.matched = 2 ∧
      first.listing.toList.count '\n' = 3 ∧ first.listing.toList.count '\r' = 0 ∧
      (second.listing.toList.splitOn '\n').length = (first.listing.toList.splitOn '\n').length := by
  intro job settings page table
  have hpage : (job.run settings page).toOption.map (fun o => (o.1.matched, o.2)) =
      some (2, page) := by
    decide +kernel
  have htable : (job.run settings table).toOption.map (fun o => (o.1.matched, o.2)) =
      some (2, table) := by
    decide +kernel
  cases hfirst : job.run settings page with
  | error stop => simp [hfirst, Except.toOption] at hpage
  | ok first =>
    cases hsecond : job.run settings table with
    | error stop => simp [hsecond, Except.toOption] at htable
    | ok second =>
      rw [hfirst] at hpage
      rw [hsecond] at htable
      obtain ⟨hmatched, hrest⟩ := Prod.mk.inj (Option.some.inj hpage)
      obtain ⟨hmatched', hrest'⟩ := Prod.mk.inj (Option.some.inj htable)
      obtain ⟨hcount, hlines⟩ := count_listing (Q := TablePage) hfirst
      have hends := hcount '\n' (by decide)
      have hreturns := hcount '\r' (by decide)
      rw [hmatched] at hends hreturns
      exact ⟨first.1, second.1, by rw [← hrest], by rw [← hrest'], hmatched, hmatched',
        hends.trans (by decide +kernel), hreturns.trans (by decide +kernel),
        hlines table second.2 second.1 hsecond (hmatched'.trans hmatched.symm)⟩

end Job

end ReleaseListing
