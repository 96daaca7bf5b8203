import ReleaseListing.Proofs.Listing.CallStyle
import ReleaseListing.Proofs.Text.Json

/-!
# JSON listings

A JSON listing is an array of objects with a name and an address each (`parse?_render`), whatever the
format says about calls. The two styles escape differently, and carry the same data
(`json_carries_call`).
-/

namespace ReleaseListing

namespace Text

/-! ## The escapes of JSON strings -/

theorem readsBack_escapeJson : ReadsBack escapeJson := by
  intro c rest
  unfold escapeJson
  split
  -- The seven characters with a short form come first.
  · exact ⟨rfl, rfl⟩
  · exact ⟨rfl, rfl⟩
  · exact ⟨rfl, rfl⟩
  · exact ⟨rfl, rfl⟩
  · exact ⟨rfl, rfl⟩
  · exact ⟨rfl, rfl⟩
  · exact ⟨rfl, rfl⟩
  · rename_i hq hb _ _ _ _ _
    split
    · exact readsBack_unicodeEscape (by omega) rest
    · exact ⟨literalChar?_cons hb hq (by omega) rest, dropStart?_quote_cons hq rest⟩

end Text

namespace Listing

open Json (Value Writes)
open Text (quoted escapeJson)

/-! ## What a listing is read as -/

/-- The object of an entry. -/
def entryValue (e : Entry) : Value :=
  .object [("name", .string e.name), ("url", .string e.url)]

/-- The entry of an object with a name and an address, and nothing else. -/
def entry? : Value → Option Entry
  | .object [("name", .string name), ("url", .string url)] => some { name, url }
  | .object [("url", .string url), ("name", .string name)] => some { name, url }
  | _ => none

/-- The entries of an array of such objects. -/
def entries? : Value → Option (List Entry)
  | .array items => items.mapM entry?
  | _ => none

theorem entries?_entryValue (entries : List Entry) :
    entries? (.array (entries.map entryValue)) = some entries := by
  show (entries.map entryValue).mapM entry? = some entries
  induction entries with
  | nil => rfl
  | cons e entries ih =>
    rw [List.map_cons, List.mapM_cons, ih]
    rfl

/-- A member of the object of an entry, as it is written. -/
def memberText (name value : String) : List Char :=
  quoted escapeJson name ++ ':' :: quoted escapeJson value

theorem writesMember_memberText (name value : String) :
    Json.WritesMember (memberText name value) (name, .string value) :=
  Json.writesMember Text.readsBack_escapeJson name
    (Json.writes_quoted Text.readsBack_escapeJson value)

theorem jsonObject_eq (e : Entry) :
    jsonObject e =
      '\x7b' :: ([','].intercalate [memberText "name" e.name, memberText "url" e.url] ++
        ['\x7d']) := by
  have hname : "\x7b\"name\":".toList = '\x7b' :: quoted escapeJson "name" ++ [':'] := by
    decide +kernel
  have hurl : ",\"url\":".toList = ',' :: quoted escapeJson "url" ++ [':'] := by decide +kernel
  have hend : "\x7d".toList = ['\x7d'] := by decide +kernel
  unfold jsonObject
  rw [List.intercalate_cons_cons, List.intercalate_singleton, hname, hurl, hend]
  simp only [memberText, List.append_assoc, List.cons_append, List.nil_append]

theorem writes_jsonObject (e : Entry) : Writes (jsonObject e) (entryValue e) := by
  rw [jsonObject_eq]
  exact Json.writes_object (.cons (writesMember_memberText "name" e.name)
    (.cons (writesMember_memberText "url" e.url) .nil))

/-- A JSON listing is read as an array of the objects of its entries. -/
theorem parse?_render {f : Format} (hf : f.style = .json) (entries : List Entry) :
    Json.parse? (render entries f) = some (.array (entries.map entryValue)) := by
  have hitems : List.Forall₂ Writes (entries.map jsonObject) (entries.map entryValue) := by
    induction entries with
    | nil => exact .nil
    | cons e entries ih => exact .cons (writes_jsonObject e) ih
  have hchars : renderChars entries f =
      '[' :: ([','].intercalate (entries.map jsonObject) ++ [']']) := by
    rw [renderChars, hf]
    rfl
  rw [render, hchars]
  exact (Json.writes_array hitems).parse?

/-- **The two styles carry the same data.** The JSON listing of entries depends on them alone. It is
a JSON text: an array of objects with the members `name` and `url` and no others. What is read from
it are the entries, and one who knows the format reads the same from the call listing. -/
theorem json_carries_call (f : Format) (entries : List Entry) :
    let json := render entries { f with style := .json }
    let call := render entries { f with style := .call }
    (∀ g : Format, g.style = .json → render entries g = json) ∧
      Json.parse? json = some (.array (entries.map entryValue)) ∧
      (Json.parse? json).bind entries? = some entries ∧
      decode? { f with style := .call } call = some entries := by
  have hparse := parse?_render (f := { f with style := .json }) rfl entries
  have hentries : (Json.parse? (render entries { f with style := .json })).bind entries? =
      some entries := by
    rw [hparse, Option.bind_some, entries?_entryValue]
  refine ⟨fun g hg => ?_, hparse, hentries, decode?_call rfl entries⟩
  simp only [render, renderChars, hg]

end Listing

end ReleaseListing
