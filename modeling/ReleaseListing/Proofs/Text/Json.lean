import ReleaseListing.Proofs.Text.Literal

/-!
# Reading JSON

`parse?` reads a JSON text as RFC 8259 has it: the text falls into tokens (`tokens?`), and a machine
with a stack of the open arrays and objects takes one token after the other (`step`).

`Writes cs v`: the text `cs` stands for the value `v`, whatever follows it. Quoted literals, arrays
and objects are put together from what writes their parts (`writes_quoted`, `writes_array`,
`writes_object`), and what is written is read (`Writes.parse?`).
-/

namespace ReleaseListing.Json

open Text (literal? quoted ReadsBack)

/-! ## Values and tokens -/

/-- A value. A number is given by its text. -/
inductive Value where
  | null
  | boolean (b : Bool)
  | number (text : String)
  | string (s : String)
  | array (items : List Value)
  | object (members : List (String × Value))
  deriving Repr

/-- What a text is made of, blanks apart. -/
inductive Token where
  /-- A bracket, a brace, a comma or a colon. -/
  | mark (c : Char)
  /-- A value that holds no others. -/
  | scalar (v : Value)
  deriving Repr

def isBlank (c : Char) : Bool := [' ', '\t', '\n', '\r'].contains c

def isMark (c : Char) : Bool := ['[', ']', '\x7b', '\x7d', ',', ':'].contains c

/-- Whether a word goes on with the character. -/
def isInWord (c : Char) : Bool := !(isBlank c || isMark c || c == '"')

/-! ## Numbers -/

/-- What follows one digit or more. -/
def afterDigits? : List Char → Option (List Char)
  | [] => none
  | c :: cs => if c.isDigit then some (cs.dropWhile (·.isDigit)) else none

/-- What follows a number without fraction and sign, which has no zero in front. -/
def afterWhole? : List Char → Option (List Char)
  | '0' :: cs => some cs
  | cs => afterDigits? cs

/-- What follows a fraction, if there is one. -/
def afterFraction? : List Char → Option (List Char)
  | '.' :: cs => afterDigits? cs
  | cs => some cs

/-- What follows an exponent, if there is one. -/
def afterExponent? : List Char → Option (List Char)
  | [] => some []
  | c :: cs =>
    if c == 'e' || c == 'E' then
      afterDigits? (if cs.head? == some '+' || cs.head? == some '-' then cs.tail else cs)
    else some (c :: cs)

/-- Whether a word is a number. -/
def isNumber (cs : List Char) : Bool :=
  let cs := if cs.head? == some '-' then cs.tail else cs
  (((afterWhole? cs).bind afterFraction?).bind afterExponent?).any List.isEmpty

/-! ## Tokens of a text -/

/-- The value that a word stands for. -/
def word? (cs : List Char) : Option Value :=
  if cs = "null".toList then some .null
  else if cs = "true".toList then some (.boolean true)
  else if cs = "false".toList then some (.boolean false)
  else if isNumber cs then some (.number (String.ofList cs))
  else none

/-- The tokens of a text. -/
def tokens? (cs : List Char) : Option (List Token) :=
  match cs with
  | [] => some []
  | c :: cs =>
    if isBlank c then tokens? cs
    else if isMark c then (tokens? cs).map (.mark c :: ·)
    else if c == '"' then
      match _h : literal? (c :: cs) with
      | some (s, rest) => (tokens? rest).map (.scalar (.string s) :: ·)
      | none => none
    else
      match word? (c :: cs.takeWhile isInWord) with
      | some v => (tokens? (cs.dropWhile isInWord)).map (.scalar v :: ·)
      | none => none
termination_by cs.length
decreasing_by
  · simp
  · simp
  · exact Text.literal?_length_lt _h
  · exact Nat.lt_succ_of_le (List.dropWhile_sublist isInWord).length_le

/-! ## Values of tokens -/

/-- An array or object that is still open, with what it holds so far; of an object also the name
whose value is to come. -/
inductive Frame where
  | array (items : List Value)
  | object (members : List (String × Value)) (name : String)
  deriving Repr

/-- What has to come next. The frames are those around it, innermost first. -/
inductive State where
  | value (frames : List Frame)
  /-- A value, or the end of an array. -/
  | item (frames : List Frame)
  /-- A name, or the end of an object. -/
  | member (frames : List Frame)
  | name (members : List (String × Value)) (frames : List Frame)
  | colon (members : List (String × Value)) (name : String) (frames : List Frame)
  /-- What follows a value that has come. -/
  | behind (v : Value) (frames : List Frame)
  deriving Repr

/-- Begins a value. -/
def begin? (frames : List Frame) : Token → Option State
  | .scalar v => some (.behind v frames)
  | .mark '[' => some (.item frames)
  | .mark '\x7b' => some (.member frames)
  | .mark _ => none

/-- Takes a token. -/
def step : State → Token → Option State
  | .value frames, t => begin? frames t
  | .item frames, .mark ']' => some (.behind (.array []) frames)
  | .item frames, t => begin? (.array [] :: frames) t
  | .member frames, .mark '\x7d' => some (.behind (.object []) frames)
  | .member frames, .scalar (.string name) => some (.colon [] name frames)
  | .name members frames, .scalar (.string name) => some (.colon members name frames)
  | .colon members name frames, .mark ':' => some (.value (.object members name :: frames))
  | .behind v (.array items :: frames), .mark ',' => some (.value (.array (items ++ [v]) :: frames))
  | .behind v (.array items :: frames), .mark ']' =>
    some (.behind (.array (items ++ [v])) frames)
  | .behind v (.object members name :: frames), .mark ',' =>
    some (.name (members ++ [(name, v)]) frames)
  | .behind v (.object members name :: frames), .mark '\x7d' =>
    some (.behind (.object (members ++ [(name, v)])) frames)
  | _, _ => none

/-- The value of a text. -/
def parse? (text : String) : Option Value := do
  match ← (← tokens? text.toList).foldlM step (.value []) with
  | .behind v [] => some v
  | _ => none

/-- Numbers have no zero in front, and no comma stands in front of a closing mark. -/
example : (parse? " [1e2, \x7b\"a\" : -0.5\x7d]\n").isSome ∧ (parse? "[01]").isNone ∧
    (parse? "[1,]").isNone := by
  decide +kernel

/-! ## Reading back what has been written -/

variable {cs ds : List Char} {ts us : List Token} {v : Value} {c : Char}

/-- The text falls into the tokens, whatever follows. -/
def Lexes (cs : List Char) (ts : List Token) : Prop :=
  ∀ rest, tokens? (cs ++ rest) = (tokens? rest).map (ts ++ ·)

/-- The tokens are those of the value, wherever it stands. -/
def Spells (ts : List Token) (v : Value) : Prop :=
  ∀ frames, ts.foldlM step (.value frames) = some (.behind v frames)

/-- The text stands for the value, whatever follows. -/
def Writes (cs : List Char) (v : Value) : Prop := ∃ ts, Lexes cs ts ∧ Spells ts v

/-! ### Tokens -/

theorem lexes_nil : Lexes [] [] := by
  intro rest
  simp

theorem Lexes.append (h : Lexes cs ts) (h' : Lexes ds us) : Lexes (cs ++ ds) (ts ++ us) := by
  intro rest
  rw [List.append_assoc, h, h', Option.map_map]
  simp [Function.comp_def]

theorem lexes_mark (hc : isMark c) : Lexes [c] [.mark c] := by
  intro rest
  have hblank : isBlank c = false := by
    simp only [isMark, List.contains_iff_mem, List.mem_cons, List.not_mem_nil, or_false] at hc
    rcases hc with rfl | rfl | rfl | rfl | rfl | rfl <;> rfl
  rw [List.singleton_append, tokens?, hblank, hc]
  rfl

theorem lexes_quoted {escape : Char → List Char} (h : ReadsBack escape) (text : String) :
    Lexes (quoted escape text) [.scalar (.string text)] := by
  intro rest
  have hread := Text.literal?_quoted h text rest
  unfold quoted at hread ⊢
  rw [List.cons_append, List.cons_append] at hread ⊢
  rw [tokens?]
  simp only [show isBlank '"' = false from rfl, show isMark '"' = false from rfl,
    Bool.false_eq_true, if_false, beq_self_eq_true, if_true]
  split
  · rename_i hs
    rw [hread] at hs
    cases hs
    rfl
  · rename_i hn
    rw [hread] at hn
    cases hn

/-! ### Values -/

theorem spells_scalar (v : Value) : Spells [.scalar v] v := fun _ => rfl

/-- A list of parts starts with the first one. -/
theorem exists_intercalate (ts : List Token) (tss : List (List Token)) :
    ∃ rest, [Token.mark ','].intercalate (ts :: tss) = ts ++ rest := by
  cases tss with
  | nil => exact ⟨[], by rw [List.intercalate_singleton, List.append_nil]⟩
  | cons us tss => exact ⟨_, by rw [List.intercalate_cons_cons, List.append_assoc]⟩

/-- Parts with commas between them, up to the mark that closes them, are taken one after the other
if each of them is. -/
theorem foldlM_separated {β : Type} (reads : List Token → β → Prop)
    (awaiting closed : List β → State) (taken : List β → β → State) (close : Token)
    (hpart : ∀ {ts b}, reads ts b → ∀ before,
      ts.foldlM step (awaiting before) = some (taken before b))
    (hcomma : ∀ before b, step (taken before b) (.mark ',') = some (awaiting (before ++ [b])))
    (hclose : ∀ before b, step (taken before b) close = some (closed (before ++ [b])))
    {tss : List (List Token)} {b : β} {bs : List β} (h : reads ts b)
    (hs : List.Forall₂ reads tss bs) (before : List β) :
    ([Token.mark ','].intercalate (ts :: tss) ++ [close]).foldlM step (awaiting before) =
      some (closed (before ++ b :: bs)) := by
  induction hs generalizing ts b before with
  | nil =>
    rw [List.intercalate_singleton, List.foldlM_append, hpart h, Option.bind_eq_bind,
      Option.bind_some, List.foldlM_cons, hclose]
    rfl
  | @cons us next tss bs hnext _ ih =>
    rw [List.intercalate_cons_cons, List.append_assoc, List.append_assoc, List.foldlM_append,
      hpart h, Option.bind_eq_bind, Option.bind_some, List.singleton_append, List.foldlM_cons,
      hcomma, Option.bind_eq_bind, Option.bind_some, ih hnext, List.append_assoc,
      List.singleton_append]

/-- Where an array begins its first item is taken like any other. -/
theorem foldlM_item (h : Spells ts v) (rest : List Token) (frames : List Frame) :
    (ts ++ rest).foldlM step (.item frames) =
      (ts ++ rest).foldlM step (.value (.array [] :: frames)) := by
  cases ts with
  | nil => exact absurd (h frames) (by simp)
  | cons t ts =>
    have hstep : step (.item frames) t = step (.value (.array [] :: frames)) t := by
      -- What begins a value does not end an array.
      have hnot : t ≠ .mark ']' := by
        rintro rfl
        exact absurd (h frames) (by simp [List.foldlM_cons, step, begin?])
      unfold step
      split <;> first | rfl | simp_all
    rw [List.cons_append, List.foldlM_cons, List.foldlM_cons, hstep]

theorem spells_array {tss : List (List Token)} {vs : List Value}
    (h : List.Forall₂ Spells tss vs) :
    Spells (.mark '[' :: ([Token.mark ','].intercalate tss ++ [.mark ']'])) (.array vs) := by
  intro frames
  show List.foldlM step (.item frames) _ = _
  cases h with
  | nil => rfl
  | @cons ts v tss vs hv hvs =>
    have hitems := foldlM_separated Spells
      (fun before => .value (.array before :: frames)) (fun items => .behind (.array items) frames)
      (fun before v => .behind v (.array before :: frames)) (.mark ']')
      (fun h _ => h _) (fun _ _ => rfl) (fun _ _ => rfl) hv hvs []
    obtain ⟨rest, hrest⟩ := exists_intercalate ts tss
    rw [hrest, List.append_assoc] at hitems ⊢
    rw [foldlM_item hv, hitems, List.nil_append]

/-- The tokens are those of a member of an object. -/
def SpellsMember (ts : List Token) (member : String × Value) : Prop :=
  ∃ us, ts = .scalar (.string member.1) :: .mark ':' :: us ∧ Spells us member.2

theorem SpellsMember.foldlM {member : String × Value} (h : SpellsMember ts member)
    (members : List (String × Value)) (frames : List Frame) :
    ts.foldlM step (.name members frames) =
      some (.behind member.2 (.object members member.1 :: frames)) := by
  obtain ⟨us, rfl, hus⟩ := h
  exact hus _

/-- Where an object begins its first member is taken like any other. -/
theorem foldlM_member {member : String × Value} (h : SpellsMember ts member) (rest : List Token)
    (frames : List Frame) :
    (ts ++ rest).foldlM step (.member frames) = (ts ++ rest).foldlM step (.name [] frames) := by
  obtain ⟨us, rfl, -⟩ := h
  rfl

theorem spells_object {tss : List (List Token)} {members : List (String × Value)}
    (h : List.Forall₂ SpellsMember tss members) :
    Spells (.mark '\x7b' :: ([Token.mark ','].intercalate tss ++ [.mark '\x7d']))
      (.object members) := by
  intro frames
  show List.foldlM step (.member frames) _ = _
  cases h with
  | nil => rfl
  | @cons ts member tss members hmember hmembers =>
    have hall := foldlM_separated SpellsMember
      (fun before => .name before frames) (fun members => .behind (.object members) frames)
      (fun before member => .behind member.2 (.object before member.1 :: frames)) (.mark '\x7d')
      (fun h before => h.foldlM before frames) (fun _ _ => rfl) (fun _ _ => rfl) hmember hmembers []
    obtain ⟨rest, hrest⟩ := exists_intercalate ts tss
    rw [hrest, List.append_assoc] at hall ⊢
    rw [foldlM_member hmember, hall, List.nil_append]

/-! ### Texts -/

theorem lexes_intercalate {texts : List (List Char)} {tss : List (List Token)}
    (h : List.Forall₂ Lexes texts tss) :
    Lexes ([','].intercalate texts) ([Token.mark ','].intercalate tss) := by
  induction h with
  | nil => exact lexes_nil
  | @cons cs ts texts tss hfirst hlater ih =>
    cases hlater with
    | nil =>
      rw [List.intercalate_singleton, List.intercalate_singleton]
      exact hfirst
    | cons _ _ =>
      rw [List.intercalate_cons_cons, List.intercalate_cons_cons]
      exact (hfirst.append (lexes_mark rfl)).append ih

theorem lexes_between {c d : Char} (hc : isMark c) (hd : isMark d) (h : Lexes cs ts) :
    Lexes (c :: (cs ++ [d])) (.mark c :: (ts ++ [.mark d])) :=
  (lexes_mark hc).append (h.append (lexes_mark hd))

/-- A quoted literal stands for its text, if its escaped characters read back. -/
theorem writes_quoted {escape : Char → List Char} (h : ReadsBack escape) (text : String) :
    Writes (quoted escape text) (.string text) :=
  ⟨_, lexes_quoted h text, spells_scalar _⟩

/-- The tokens of texts that stand for values. -/
theorem exists_tokens {β : Type} {reads : List Token → β → Prop} {texts : List (List Char)}
    {bs : List β}
    (h : List.Forall₂ (fun cs b => ∃ ts, Lexes cs ts ∧ reads ts b) texts bs) :
    ∃ tss, List.Forall₂ Lexes texts tss ∧ List.Forall₂ reads tss bs := by
  induction h with
  | nil => exact ⟨[], .nil, .nil⟩
  | cons hfirst _ ih =>
    obtain ⟨ts, hlex, hread⟩ := hfirst
    obtain ⟨tss, hlexes, hreads⟩ := ih
    exact ⟨ts :: tss, .cons hlex hlexes, .cons hread hreads⟩

theorem writes_array {texts : List (List Char)} {vs : List Value}
    (h : List.Forall₂ Writes texts vs) :
    Writes ('[' :: ([','].intercalate texts ++ [']'])) (.array vs) := by
  obtain ⟨tss, hlexes, hspells⟩ := exists_tokens h
  exact ⟨_, lexes_between rfl rfl (lexes_intercalate hlexes), spells_array hspells⟩

/-- The text stands for a member of an object. -/
def WritesMember (cs : List Char) (member : String × Value) : Prop :=
  ∃ ts, Lexes cs ts ∧ SpellsMember ts member

theorem writesMember {escape : Char → List Char} (h : ReadsBack escape) (name : String)
    (hv : Writes cs v) : WritesMember (quoted escape name ++ ':' :: cs) (name, v) := by
  obtain ⟨ts, hlexes, hspells⟩ := hv
  exact ⟨_, (lexes_quoted h name).append ((lexes_mark rfl).append hlexes), ts, rfl, hspells⟩

theorem writes_object {texts : List (List Char)} {members : List (String × Value)}
    (h : List.Forall₂ WritesMember texts members) :
    Writes ('\x7b' :: ([','].intercalate texts ++ ['\x7d'])) (.object members) := by
  obtain ⟨tss, hlexes, hspells⟩ := exists_tokens h
  exact ⟨_, lexes_between rfl rfl (lexes_intercalate hlexes), spells_object hspells⟩

/-- What stands for a value is read as it. -/
theorem Writes.parse? (h : Writes cs v) : parse? (String.ofList cs) = some v := by
  obtain ⟨ts, hlexes, hspells⟩ := h
  have htokens : tokens? cs = some ts := by
    have := hlexes []
    rwa [List.append_nil, tokens?, Option.map_some, List.append_nil] at this
  have hrun : ts.foldlM step (.value []) = some (.behind v []) := hspells []
  rw [Json.parse?, String.toList_ofList, htokens]
  simp only [Option.bind_eq_bind, Option.bind_some, hrun]

end ReleaseListing.Json
