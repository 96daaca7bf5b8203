import Mathlib.Data.List.Infix
import ReleaseListing.Listing

/-!
# Docstrings of listings

The docstring of a call listing stands between three quotes on both sides. `Text.afterQuotes?` reads
such a literal from behind its opening quotes. It comes to its end with the text exactly if the text
is `Text.Enclosable`: made of characters and escapes, without three quotes in a row and without a
quote at the end (`Text.afterQuotes?_iff`).
-/

namespace ReleaseListing

namespace Text

/-- The quotes around a literal that may have several lines. -/
def quotes : List Char := ['"', '"', '"']

/-- What follows a literal, read from behind its opening quotes: it ends with the first three quotes
in a row, and a backslash is read together with the character behind it. -/
def afterQuotes? : List Char → Option (List Char)
  | '"' :: '"' :: '"' :: rest => some rest
  | '\\' :: _ :: rest => afterQuotes? rest
  | _ :: rest => afterQuotes? rest
  | [] => none

/-- What a literal is made of. -/
inductive Piece where
  /-- A character that stands for itself. -/
  | plain (c : Char)
  /-- A character behind a backslash. -/
  | escaped (c : Char)
  deriving DecidableEq

namespace Piece

/-- How a piece is written. -/
def chars : Piece → List Char
  | plain c => [c]
  | escaped c => ['\\', c]

/-- A quote that no backslash stands in front of. -/
def quote : Piece := plain '"'

/-- Three quotes that no backslash stands in front of. -/
def quotes : List Piece := [quote, quote, quote]

end Piece

/-- The pieces are those of a text that can stand between three quotes. -/
structure Pieces (pieces : List Piece) (text : List Char) : Prop where
  chars : pieces.flatMap Piece.chars = text
  plain : ∀ c, Piece.plain c ∈ pieces → c ≠ '\\'
  apart : ¬Piece.quotes <:+: pieces
  ending : pieces.getLast? ≠ some Piece.quote

/-- The text can stand between three quotes. -/
def Enclosable (text : List Char) : Prop := ∃ pieces, Pieces pieces text

variable {c : Char} {text rest : List Char} {pieces : List Piece}

theorem afterQuotes?_escaped (c : Char) (rest : List Char) :
    afterQuotes? ('\\' :: c :: rest) = afterQuotes? rest := rfl

theorem afterQuotes?_plain (hc : c ≠ '\\') (h : ¬quotes <+: c :: rest) :
    afterQuotes? (c :: rest) = afterQuotes? rest := by
  rw [afterQuotes?]
  · rintro rest rfl rfl
    exact h (List.prefix_append quotes rest)
  · rintro d rest rfl -
    exact hc rfl

/-! ## Pieces -/

/-- Quotes at the start of a text are quotes at the start of its pieces. -/
theorem replicate_prefix_iff (n : Nat) (pieces : List Piece) :
    List.replicate n '"' <+: pieces.flatMap Piece.chars ↔
      List.replicate n Piece.quote <+: pieces := by
  induction n generalizing pieces with
  | zero => simp
  | succ n ih =>
    cases pieces with
    | nil => simp [List.replicate_succ]
    | cons piece pieces =>
      rw [List.flatMap_cons, List.replicate_succ, List.replicate_succ, List.cons_prefix_cons]
      cases piece with
      | plain c => simp [Piece.chars, Piece.quote, ih]
      | escaped c => simp [Piece.chars, Piece.quote, List.cons_prefix_cons]

/-- Three quotes begin a text with the closing quotes exactly if three quotes begin its pieces. -/
theorem quotes_prefix_iff (pieces : List Piece) :
    quotes <+: pieces.flatMap Piece.chars ++ quotes ↔
      Piece.quotes <+: pieces ++ Piece.quotes := by
  have hiff := replicate_prefix_iff 3 (pieces ++ Piece.quotes)
  rwa [List.flatMap_append] at hiff

theorem Pieces.tail {piece : Piece} (h : Pieces (piece :: pieces) text) :
    Pieces pieces (pieces.flatMap Piece.chars) where
  chars := rfl
  plain c hc := h.plain c (List.mem_cons_of_mem _ hc)
  apart hquotes := h.apart (hquotes.trans (List.suffix_cons _ _).isInfix)
  ending := by
    cases pieces with
    | nil => simp
    | cons next pieces =>
      have hending := h.ending
      rwa [List.getLast?_cons_cons] at hending

/-- No three quotes begin before the text of the literal has come to its end. -/
theorem Pieces.not_prefix {piece : Piece} (h : Pieces (piece :: pieces) text) :
    ¬Piece.quotes <+: piece :: pieces ++ Piece.quotes := by
  intro hquotes
  obtain ⟨rfl, hsecond⟩ := List.cons_prefix_cons.1 hquotes
  match pieces with
  | [] => exact h.ending rfl
  | [second] =>
    obtain ⟨rfl, -⟩ := List.cons_prefix_cons.1 hsecond
    exact h.ending rfl
  | second :: third :: later =>
    obtain ⟨rfl, hthird⟩ := List.cons_prefix_cons.1 hsecond
    obtain ⟨rfl, -⟩ := List.cons_prefix_cons.1 hthird
    exact h.apart (List.prefix_append Piece.quotes later).isInfix

/-! ## Where a literal ends -/

theorem Pieces.afterQuotes? (h : Pieces pieces text) :
    Text.afterQuotes? (text ++ quotes) = some [] := by
  induction pieces generalizing text with
  | nil =>
    obtain rfl := h.chars
    rfl
  | cons piece pieces ih =>
    have hlater := ih h.tail
    have hquotes := mt (quotes_prefix_iff (piece :: pieces)).1 h.not_prefix
    obtain rfl := h.chars
    cases piece with
    | escaped c => exact (afterQuotes?_escaped c _).trans hlater
    | plain c => exact (afterQuotes?_plain (h.plain c List.mem_cons_self) hquotes).trans hlater

theorem enclosable_nil : Enclosable [] :=
  ⟨[], rfl, by simp, by simp [Piece.quotes], by simp⟩

/-- A text stays enclosable behind a piece at which no three quotes begin. -/
theorem Enclosable.cons (h : Enclosable text) (piece : Piece)
    (hplain : ∀ c, piece = .plain c → c ≠ '\\')
    (hquotes : ¬quotes <+: piece.chars ++ (text ++ quotes)) : Enclosable (piece.chars ++ text) := by
  obtain ⟨pieces, rfl, hp, hapart, hending⟩ := h
  rw [← List.append_assoc, ← List.flatMap_cons, quotes_prefix_iff] at hquotes
  refine ⟨piece :: pieces, rfl, ?_, ?_, ?_⟩
  · intro c hc
    rcases List.mem_cons.1 hc with heq | hc
    · exact hplain c heq.symm
    · exact hp c hc
  · rw [List.infix_cons_iff]
    rintro (hstart | hinfix)
    · exact hquotes (hstart.trans (List.prefix_append _ _))
    · exact hapart hinfix
  · cases pieces with
    | nil =>
      intro hlast
      obtain rfl : piece = Piece.quote := Option.some.inj hlast
      exact hquotes (List.prefix_append Piece.quotes [Piece.quote])
    | cons next pieces => rwa [List.getLast?_cons_cons]

theorem enclosable_of_afterQuotes? (h : Text.afterQuotes? (text ++ quotes) = some []) :
    Enclosable text := by
  generalize hcs : text ++ quotes = cs at h
  fun_induction Text.afterQuotes? cs generalizing text with
  | case1 rest =>
    obtain rfl : rest = [] := Option.some.inj h
    obtain rfl : text = [] := by simpa [quotes] using congrArg List.length hcs
    exact enclosable_nil
  | case2 c rest ih =>
    match text with
    | [] => simp [quotes] at hcs
    | [_] =>
      -- The backslash is the last character, and takes the first of the closing quotes with it.
      obtain ⟨rfl, rfl⟩ := List.cons.inj (List.cons.inj hcs).2
      simp [Text.afterQuotes?] at h
    | d :: e :: text =>
      obtain ⟨rfl, rfl, hrest⟩ : d = '\\' ∧ e = c ∧ text ++ quotes = rest := by simpa using hcs
      exact (ih hrest h).cons (.escaped e) (by simp) (by simp [quotes, Piece.chars])
  | case3 c rest hquotes hescaped ih =>
    cases text with
    | nil =>
      obtain ⟨rfl, rfl⟩ := List.cons.inj hcs
      exact (hquotes [] rfl rfl).elim
    | cons d text =>
      obtain ⟨rfl, rfl⟩ := List.cons.inj hcs
      refine (ih rfl h).cons (.plain d) ?_ ?_
      · rintro e heq rfl
        obtain rfl : d = '\\' := Piece.plain.inj heq
        obtain ⟨e, rest, hrest⟩ := List.exists_cons_of_ne_nil
          (List.append_ne_nil_of_right_ne_nil text (List.cons_ne_nil '"' ['"', '"']))
        exact hescaped e rest rfl hrest
      · rintro ⟨behind, hbehind⟩
        obtain ⟨rfl, hrest⟩ := List.cons.inj hbehind
        exact hquotes behind rfl hrest.symm
  | case4 => simp [quotes] at hcs

/-- **When a docstring stays where it is put.** A literal ends with its text exactly if the text is
enclosable. -/
theorem afterQuotes?_iff : Text.afterQuotes? (text ++ quotes) = some [] ↔ Enclosable text :=
  ⟨enclosable_of_afterQuotes?, fun ⟨_, h⟩ => h.afterQuotes?⟩

instance (text : List Char) : Decidable (Enclosable text) := decidable_of_iff _ afterQuotes?_iff

end Text

namespace Listing

/-- The docstring of a call listing is the literal that it ends with. -/
theorem renderChars_docstring {f : Format} {text : String} (hf : f.style = .call)
    (hd : f.docstring = some text) (entries : List Entry) :
    renderChars entries f = renderChars entries { f with docstring := none } ++
      '\n' :: (Text.quotes ++ (text.toList ++ Text.quotes)) := by
  have hopen : "\n\"\"\"".toList = '\n' :: Text.quotes := by decide
  have hclose : "\"\"\"".toList = Text.quotes := by decide
  simp only [renderChars, callBody, hf, hd, docstringLine, hopen, hclose, List.append_nil,
    List.append_assoc, List.cons_append]

end Listing

end ReleaseListing
