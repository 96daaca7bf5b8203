import ReleaseListing.Listing
import ReleaseListing.Proofs.Text.Literal

/-!
# Reading call listings

`decode?` reads a listing of call literals back, for one who knows its format: it takes the
assignment and the docstring off, and then reads one call after the other, with a separator in
between. What `render` writes reads back as the entries (`decode?_render`), whatever the entries and
the texts of the format hold.
-/

namespace ReleaseListing.Listing

open Text (dropStart? literal? quoted escapeAll isControl)

/-- What stands in front of `ending`, if the text ends with it. -/
def dropEnd? (ending cs : List Char) : Option (List Char) :=
  (dropStart? ending.reverse cs.reverse).map List.reverse

/-- A listing without the docstring that is known to follow it. -/
def dropDocstring? : Option String → List Char → Option (List Char)
  | some text, cs => dropEnd? ("\n\"\"\"".toList ++ text.toList ++ "\"\"\"".toList) cs
  | none, cs => some cs

/-- What stands between the brackets of an assignment to a known name. -/
def dropAssignment? : Option String → List Char → Option (List Char)
  | some name, cs => do dropEnd? [']'] (← dropStart? (name.toList ++ " = [".toList) cs)
  | none, cs => some cs

/-- The entry of a call, and what follows the call. -/
def call? (f : Format) (cs : List Char) : Option (Entry × List Char) := do
  let cs ← dropStart? f.record.toList cs
  let cs ← dropStart? ['('] cs
  let (name, cs) ← literal? cs
  let cs ← dropStart? ", ".toList cs
  let (url, cs) ← literal? cs
  let cs ← dropStart? [')'] cs
  return ({ name, url }, cs)

/-! ## Every call takes something off -/

theorem call?_length {f : Format} {cs rest : List Char} {e : Entry}
    (h : call? f cs = some (e, rest)) : rest.length < cs.length := by
  simp only [call?, Option.bind_eq_bind, Option.bind_eq_some_iff] at h
  obtain ⟨afterRecord, h1, opened, h2, ⟨name, afterName⟩, h3, comma, h4, ⟨url, afterUrl⟩, h5,
    closed, h6, h⟩ := h
  obtain ⟨-, rfl⟩ := Prod.mk.inj (Option.some.inj h)
  calc closed.length
    _ ≤ afterUrl.length := Text.dropStart?_length h6
    _ ≤ comma.length := Nat.le_of_lt (Text.literal?_length_lt h5)
    _ ≤ afterName.length := Text.dropStart?_length h4
    _ ≤ opened.length := Nat.le_of_lt (Text.literal?_length_lt h3)
    _ < afterRecord.length := Text.dropStart?_length_lt h2
    _ ≤ cs.length := Text.dropStart?_length h1

/-- The entries of one call or more, up to the end of the text. -/
def calls? (f : Format) (cs : List Char) : Option (List Entry) :=
  match _h : call? f cs with
  | none => none
  | some (e, []) => some [e]
  | some (e, c :: rest) =>
    match _hs : dropStart? f.separator.toList (c :: rest) with
    | none => none
    | some later => (calls? f later).map (e :: ·)
termination_by cs.length
decreasing_by
  have := call?_length _h
  have := Text.dropStart?_length _hs
  omega

/-- The entries of a listing of the format: none if no call stands in it. -/
def decode? (f : Format) (text : String) : Option (List Entry) := do
  let cs ← dropDocstring? f.docstring text.toList
  match ← dropAssignment? f.assign cs with
  | [] => some []
  | body => calls? f body

/-! ## Reading back what has been written -/

theorem dropEnd?_append (cs ending : List Char) : dropEnd? ending (cs ++ ending) = some cs := by
  simp [dropEnd?, Text.dropStart?_append]

theorem dropDocstring?_append (docstring : Option String) (cs : List Char) :
    dropDocstring? docstring (cs ++ docstringLine docstring) = some cs := by
  cases docstring with
  | none => simp [dropDocstring?, docstringLine]
  | some text => exact dropEnd?_append cs _

theorem dropAssignment?_assigned (assign : Option String) (body : List Char) :
    dropAssignment? assign (assigned assign body) = some body := by
  cases assign with
  | none => rfl
  | some name =>
    simp only [dropAssignment?, assigned, Option.bind_eq_bind]
    rw [List.append_assoc (_ ++ _), Text.dropStart?_append, Option.bind_some, dropEnd?_append]

theorem call?_callLiteral (f : Format) (e : Entry) (rest : List Char) :
    call? f (callLiteral f.record e ++ rest) = some (e, rest) := by
  have hsplit : callLiteral f.record e ++ rest =
      f.record.toList ++ (['('] ++ (quoted escapeAll e.name ++ (", ".toList ++
        (quoted escapeAll e.url ++ ([')'] ++ rest))))) := by
    simp [callLiteral]
  have hread := Text.readsBack_escapeAll
  simp only [call?, hsplit, Text.dropStart?_append, Text.literal?_quoted hread,
    Option.bind_eq_bind, Option.bind_some]
  rfl

theorem callBody_singleton (f : Format) (e : Entry) :
    callBody f [e] = callLiteral f.record e ++ [] := by
  simp [callBody]

theorem callBody_cons_cons (f : Format) (e e' : Entry) (entries : List Entry) :
    callBody f (e :: e' :: entries) =
      callLiteral f.record e ++ (f.separator.toList ++ callBody f (e' :: entries)) := by
  simp [callBody, List.intercalate]

theorem callBody_ne_nil (f : Format) (e : Entry) (entries : List Entry) :
    callBody f (e :: entries) ≠ [] := by
  cases entries with
  | nil => simp [callBody_singleton, callLiteral]
  | cons e' entries => simp [callBody_cons_cons, callLiteral]

/-- The calls of a listing read back, whatever stands between them. -/
theorem calls?_callBody (f : Format) (e : Entry) (entries : List Entry) :
    calls? f (callBody f (e :: entries)) = some (e :: entries) := by
  induction entries generalizing e with
  | nil =>
    rw [calls?, callBody_singleton, call?_callLiteral]
  | cons e' entries ih =>
    have hdrop := Text.dropStart?_append f.separator.toList (callBody f (e' :: entries))
    obtain ⟨c, later, hlater⟩ := List.exists_cons_of_ne_nil
      (List.append_ne_nil_of_right_ne_nil f.separator.toList (callBody_ne_nil f e' entries))
    rw [calls?, callBody_cons_cons, call?_callLiteral, hlater]
    simp only
    rw [hlater] at hdrop
    rw [hdrop]
    simp only
    rw [ih]
    rfl

theorem decode?_call {f : Format} (hf : f.style = .call) (entries : List Entry) :
    decode? f (render entries f) = some entries := by
  have hrender : renderChars entries f =
      assigned f.assign (callBody f entries) ++ docstringLine f.docstring := by
    simp [renderChars, hf]
  simp only [decode?, render, hrender, String.toList_ofList, dropDocstring?_append,
    dropAssignment?_assigned, Option.bind_eq_bind, Option.bind_some]
  cases entries with
  | nil => rfl
  | cons e entries =>
    obtain ⟨c, body, hbody⟩ := List.exists_cons_of_ne_nil (callBody_ne_nil f e entries)
    rw [hbody]
    simp only
    rw [← hbody, calls?_callBody]

/-- **A call listing reads back.** One who knows the format reads the entries from a listing, so two
lists of entries never have the same listing. Every quoted field is a JSON string that reads back as
the field, wherever it stands, and holds no control character. -/
theorem decode?_render (f : Format) (hf : f.style = .call) (entries : List Entry) :
    decode? f (render entries f) = some entries ∧
      (∀ others, render others f = render entries f → others = entries) ∧
      ∀ field : String,
        (∀ rest, literal? (quoted escapeAll field ++ rest) = some (field, rest)) ∧
          ∀ c ∈ quoted escapeAll field, isControl c = false := by
  refine ⟨decode?_call hf entries, fun others h => ?_, fun field => ⟨?_, ?_⟩⟩
  · have hothers := decode?_call hf others
    rw [h, decode?_call hf entries] at hothers
    exact (Option.some.inj hothers).symm
  · exact Text.literal?_quoted Text.readsBack_escapeAll field
  · exact fun c hc => Text.not_isControl_of_mem_quoted hc

/-- The names may look like the rest of a listing, and the separator may be empty. -/
theorem decode?_render_nested :
    let f : Format :=
      { record := "\"", separator := "", assign := some "x", docstring := some "\"\"\"" }
    let entries : List Entry := [⟨"a\", \"b\")", "\\"⟩, ⟨"\n\u0085", ""⟩]
    f.style = .call ∧ decode? f (render entries f) = some entries := by
  intro f entries
  exact ⟨rfl, (decode?_render f rfl entries).1⟩

end ReleaseListing.Listing
