import Mathlib.Data.List.Basic
import ReleaseListing.Text.Quoted
import ReleaseListing.Text.Split

/-!
# Reading quoted literals

`literal?` reads a JSON string: characters other than quotes, backslashes and those below U+0020
stand for themselves, all others are escaped, those beyond U+FFFF as two units.

* `literal?_quoted`: a quoted text reads back, if every escaped character does;
* `readsBack_escapeAll`: the escapes of call literals do;
* `not_isControl_of_mem_quoted`: and they leave no control character.
-/

namespace ReleaseListing.Text

/-! ## Literals -/

/-- The character that a letter behind a backslash stands for. -/
def shortEscape? : Char → Option Char
  | '"' => some '"'
  | '\\' => some '\\'
  | '/' => some '/'
  | 'b' => some '\x08'
  | 'f' => some '\x0C'
  | 'n' => some '\n'
  | 'r' => some '\r'
  | 't' => some '\t'
  | _ => none

/-- The number that four hexadecimal digits write, and what follows them. -/
def hexUnit? : List Char → Option (Nat × List Char)
  | a :: b :: c :: d :: rest =>
    if [a, b, c, d].all fun c => (hexValue? c).isSome then some (ofHex [a, b, c, d], rest)
    else none
  | _ => none

/-- The character that stands behind `\u`: one unit, or a high one and a low one behind another
`\u`. -/
def unicodeChar? (cs : List Char) : Option (Char × List Char) := do
  let (unit, rest) ← hexUnit? cs
  if 0xD800 ≤ unit && unit < 0xDC00 then
    let (low, rest) ← hexUnit? (← dropStart? ['\\', 'u'] rest)
    if 0xDC00 ≤ low && low < 0xE000 then
      some (Char.ofNat (0x10000 + (unit - 0xD800) * 0x400 + (low - 0xDC00)), rest)
    else none
  else if 0xDC00 ≤ unit && unit < 0xE000 then none
  else some (Char.ofNat unit, rest)

/-- One character inside a literal, as it stands or escaped. -/
def literalChar? : List Char → Option (Char × List Char)
  | '\\' :: 'u' :: rest => unicodeChar? rest
  | '\\' :: c :: rest => (shortEscape? c).map fun c => (c, rest)
  | c :: rest => if c == '"' || c == '\\' || c.toNat < 0x20 then none else some (c, rest)
  | [] => none

theorem dropStart?_append (start cs : List Char) : dropStart? start (start ++ cs) = some cs := by
  simp [dropStart?, List.isPrefixOf_iff_prefix]

theorem dropStart?_length {start cs rest : List Char} (h : dropStart? start cs = some rest) :
    rest.length ≤ cs.length := by
  unfold dropStart? at h
  split at h
  · cases h
    simp
  · cases h

/-- A text is shorter without a start that is not empty. -/
theorem dropStart?_length_lt {c : Char} {start cs rest : List Char}
    (h : dropStart? (c :: start) cs = some rest) : rest.length < cs.length := by
  unfold dropStart? at h
  split at h
  · rename_i hp
    have := (List.isPrefixOf_iff_prefix.1 hp).length_le
    cases h
    simp only [List.length_drop, List.length_cons] at this ⊢
    omega
  · cases h

theorem hexUnit?_length {cs rest : List Char} {n : Nat} (h : hexUnit? cs = some (n, rest)) :
    rest.length < cs.length := by
  unfold hexUnit? at h
  split at h
  · split at h
    · cases h
      simp only [List.length_cons]
      omega
    · cases h
  · cases h

theorem unicodeChar?_length {cs rest : List Char} {c : Char}
    (h : unicodeChar? cs = some (c, rest)) : rest.length < cs.length := by
  simp only [unicodeChar?, Option.bind_eq_bind, Option.bind_eq_some_iff] at h
  obtain ⟨⟨unit, later⟩, hu, h⟩ := h
  have hlater := hexUnit?_length hu
  split at h
  · simp only [Option.bind_eq_some_iff] at h
    obtain ⟨low, hd, ⟨n, rest'⟩, hl, h⟩ := h
    have := dropStart?_length hd
    have := hexUnit?_length hl
    split at h
    · obtain ⟨-, rfl⟩ : _ ∧ rest' = rest := by simpa using h
      omega
    · cases h
  · split at h
    · cases h
    · obtain ⟨-, rfl⟩ : _ ∧ later = rest := by simpa using h
      exact hlater

theorem literalChar?_length {cs rest : List Char} {c : Char}
    (h : literalChar? cs = some (c, rest)) : rest.length < cs.length := by
  unfold literalChar? at h
  split at h
  · have := unicodeChar?_length h
    simp only [List.length_cons]
    omega
  · obtain ⟨_, _, h⟩ := Option.map_eq_some_iff.1 h
    cases h
    simp only [List.length_cons]
    omega
  · split at h
    · cases h
    · cases h
      simp
  · cases h

/-- The text up to the quote that ends a literal, and what follows it. -/
def literalBody? (cs : List Char) : Option (List Char × List Char) :=
  match dropStart? ['"'] cs with
  | some rest => some ([], rest)
  | none =>
    match _h : literalChar? cs with
    | none => none
    | some (c, rest) => (literalBody? rest).map fun (text, rest) => (c :: text, rest)
termination_by cs.length
decreasing_by exact literalChar?_length _h

/-- The text of a literal, and what follows it. -/
def literal? (cs : List Char) : Option (String × List Char) := do
  let (text, rest) ← literalBody? (← dropStart? ['"'] cs)
  return (String.ofList text, rest)

theorem literalBody?_length {cs text rest : List Char}
    (h : literalBody? cs = some (text, rest)) : rest.length ≤ cs.length := by
  fun_induction literalBody? cs generalizing text with
  | case1 cs later hq =>
    cases h
    exact dropStart?_length hq
  | case2 cs hq hn => cases h
  | case3 cs hq c later hc ih =>
    obtain ⟨⟨inner, rest'⟩, hi, h⟩ := Option.map_eq_some_iff.1 h
    cases h
    have := ih hi
    have := literalChar?_length hc
    omega

theorem literal?_length_lt {cs rest : List Char} {text : String}
    (h : literal? cs = some (text, rest)) : rest.length < cs.length := by
  simp only [literal?, Option.bind_eq_bind, Option.bind_eq_some_iff] at h
  obtain ⟨later, hd, ⟨inner, rest'⟩, hb, h⟩ := h
  obtain ⟨-, rfl⟩ := Prod.mk.inj (Option.some.inj h)
  exact Nat.lt_of_le_of_lt (literalBody?_length hb) (dropStart?_length_lt hd)

/-! ## Reading back what has been quoted -/

/-- An escaped character is read back, whatever follows it. -/
def ReadsBack (escape : Char → List Char) : Prop :=
  ∀ c rest, literalChar? (escape c ++ rest) = some (c, rest) ∧
    dropStart? ['"'] (escape c ++ rest) = none

theorem literalBody?_flatMap {escape : Char → List Char} (h : ReadsBack escape)
    (text rest : List Char) :
    literalBody? (text.flatMap escape ++ '"' :: rest) = some (text, rest) := by
  induction text with
  | nil =>
    rw [literalBody?]
    simp [dropStart?]
  | cons c text ih =>
    obtain ⟨hc, hq⟩ := h c (text.flatMap escape ++ '"' :: rest)
    rw [List.flatMap_cons, List.append_assoc, literalBody?, hq]
    simp only
    split
    · rename_i hn
      rw [hc] at hn
      cases hn
    · rename_i d later hs
      rw [hc] at hs
      cases hs
      rw [ih]
      rfl

/-- A quoted text reads back, if its escaped characters do. -/
theorem literal?_quoted {escape : Char → List Char} (h : ReadsBack escape) (text : String)
    (rest : List Char) : literal? (quoted escape text ++ rest) = some (text, rest) := by
  have hbody := literalBody?_flatMap h text.toList rest
  simp only [quoted, List.cons_append, List.append_assoc, List.nil_append]
  simp [literal?, dropStart?, hbody]

/-! ## The escapes of call literals -/

theorem hexUnit?_append {cs : List Char} {n : Nat} (h : hexUnit? cs = some (n, []))
    (rest : List Char) : hexUnit? (cs ++ rest) = some (n, rest) := by
  unfold hexUnit? at h
  split at h
  · split at h
    · rename_i hall
      obtain ⟨rfl, rfl⟩ : _ ∧ _ := by simpa using h
      simp only [List.cons_append, List.nil_append, hexUnit?, if_pos hall]
    · cases h
  · cases h

theorem hexUnit?_hexPadded : ∀ n < 0xA0, hexUnit? (hexPadded 4 n) = some (n, []) := by
  decide +kernel

theorem isControl_lt {c : Char} (h : isControl c = true) : c.toNat < 0xA0 := by
  simp only [isControl, Bool.or_eq_true, Bool.and_eq_true, decide_eq_true_eq] at h
  omega

theorem unicodeChar?_hexPadded {c : Char} (h : c.toNat < 0xA0) (rest : List Char) :
    unicodeChar? (hexPadded 4 c.toNat ++ rest) = some (c, rest) := by
  have hu := hexUnit?_append (hexUnit?_hexPadded c.toNat h) rest
  have hhigh : ¬(0xD800 ≤ c.toNat) := by omega
  have hlow : ¬(0xDC00 ≤ c.toNat) := by omega
  simp [unicodeChar?, hu, hhigh, hlow, Char.ofNat_toNat]

theorem literalChar?_cons {c : Char} (hb : c ≠ '\\') (hq : c ≠ '"') (hc : 0x20 ≤ c.toNat)
    (rest : List Char) : literalChar? (c :: rest) = some (c, rest) := by
  unfold literalChar?
  split <;> simp_all

theorem dropStart?_quote_cons {c : Char} (h : c ≠ '"') (rest : List Char) :
    dropStart? ['"'] (c :: rest) = none := by
  simp [dropStart?, Ne.symm h]

theorem readsBack_unicodeEscape {c : Char} (h : c.toNat < 0xA0) (rest : List Char) :
    literalChar? (unicodeEscape c ++ rest) = some (c, rest) ∧
      dropStart? ['"'] (unicodeEscape c ++ rest) = none := by
  constructor
  · simp only [unicodeEscape, List.cons_append, literalChar?]
    exact unicodeChar?_hexPadded h rest
  · exact dropStart?_quote_cons (by decide) _

theorem readsBack_escapeAll : ReadsBack escapeAll := by
  intro c rest
  unfold escapeAll
  split
  -- The five characters with a short form come first.
  · exact ⟨rfl, rfl⟩
  · exact ⟨rfl, rfl⟩
  · exact ⟨rfl, rfl⟩
  · exact ⟨rfl, rfl⟩
  · exact ⟨rfl, rfl⟩
  · rename_i hq hb _ _ _
    split
    · rename_i hc
      exact readsBack_unicodeEscape (isControl_lt hc) rest
    · rename_i hc
      have h20 : 0x20 ≤ c.toNat := by
        by_contra hlt
        exact hc (by simp only [isControl]; simp; omega)
      exact ⟨literalChar?_cons hb hq h20 rest, dropStart?_quote_cons hq rest⟩

theorem all_hexPadded : ∀ n < 0xA0, (hexPadded 4 n).all (fun c => !isControl c) = true := by
  decide +kernel

theorem all_escapeAll (c : Char) : (escapeAll c).all (fun d => !isControl d) = true := by
  unfold escapeAll
  split
  -- The five characters with a short form come first.
  · rfl
  · rfl
  · rfl
  · rfl
  · rfl
  · split
    · rename_i hc
      exact all_hexPadded _ (isControl_lt hc)
    · rename_i hc
      simpa using hc

/-- No control character stands raw in a quoted text. -/
theorem not_isControl_of_mem_quoted {text : String} {c : Char} (h : c ∈ quoted escapeAll text) :
    isControl c = false := by
  simp only [quoted, List.cons_append, List.mem_cons, List.mem_append, List.mem_flatMap,
    List.not_mem_nil, or_false] at h
  rcases h with rfl | ⟨d, -, h⟩ | rfl
  · rfl
  · simpa using List.all_eq_true.1 (all_escapeAll d) c h
  · rfl

end ReleaseListing.Text
