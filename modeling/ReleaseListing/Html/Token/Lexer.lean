import ReleaseListing.Html.Entity
import ReleaseListing.Html.Token

/-!
# Reading tokens

How a text is cut into tokens depends on the element it stands in: `Lexing` says how, and
`Lexing.next` reads one token.
-/

namespace ReleaseListing.Html

/-- How the text of an element is read. -/
inductive Lexing where
  /-- With tags, comments and references. -/
  | data
  /-- With references, up to the end tag of the given name. -/
  | escapable (last : String)
  /-- As it stands, up to the end tag of the given name. -/
  | raw (last : String)
  /-- As a script, up to its end tag. -/
  | script
  /-- As it stands, up to the end of the page. -/
  | plain
  deriving DecidableEq, Repr

/-! ## Source text -/

/-- One kind of line end, and no byte order mark at the start. -/
def sourceText (source : String) : List Char :=
  let cs := match source.toList with
    | '\uFEFF' :: cs => cs
    | cs => cs
  unified [] cs
where
  /-- Puts a line feed for every kind of line end; `done` holds what has been read, reversed. -/
  unified (done : List Char) : List Char → List Char
    | [] => done.reverse
    | '\r' :: '\n' :: cs => unified ('\n' :: done) cs
    | '\r' :: cs => unified ('\n' :: done) cs
    | c :: cs => unified (c :: done) cs

/-! ## Tags -/

/-- Whether a character ends the name of a tag. -/
def endsTagName (c : Char) : Bool := isSpace c || c == '/' || c == '>'

/-- The text of an attribute value, references and NUL replaced. -/
def attributeValue (cs : List Char) : String :=
  String.ofList (withoutNul (resolved cs.length cs))

/-- The value behind an equals sign, and the text behind it; none if the text ends in it. -/
def readValue? (cs : List Char) : Option (String × List Char) :=
  let quotedBy (quote : Char) (cs : List Char) : Option (String × List Char) :=
    match cs.dropWhile (· != quote) with
    | _ :: rest => some (attributeValue (cs.takeWhile (· != quote)), rest)
    | [] => none
  match cs.dropWhile isSpace with
  | '"' :: rest => quotedBy '"' rest
  | '\'' :: rest => quotedBy '\'' rest
  | rest =>
    let inValue (c : Char) : Bool := !(isSpace c || c == '>')
    some (attributeValue (rest.takeWhile inValue), rest.dropWhile inValue)

/-- Adds an attribute, unless one of its name is there already. -/
def addAttribute (name value : String) (found : List Attribute) : List Attribute :=
  if found.any (·.name == name) then found else { name, value } :: found

/-- Attributes up to the end of the tag, whether the tag closes itself, and the text behind it;
none if the text ends in the tag. `found` holds the attributes so far, latest first. -/
def readAttributes? : (steps : Nat) → (found : List Attribute) → List Char →
    Option (List Attribute × Bool × List Char)
  | 0, _, _ => none
  | steps + 1, found, cs =>
    match cs.dropWhile isSpace with
    | [] => none
    | '>' :: rest => some (found.reverse, false, rest)
    | '/' :: '>' :: rest => some (found.reverse, true, rest)
    | '/' :: rest => readAttributes? steps found rest
    | c :: rest =>
      let inName (c : Char) : Bool := !(endsTagName c || c == '=')
      let name := lowerName (c :: rest.takeWhile inName)
      match (rest.dropWhile inName).dropWhile isSpace with
      | '=' :: rest =>
        match readValue? rest with
        | some (value, rest) => readAttributes? steps (addAttribute name value found) rest
        | none => none
      | rest => readAttributes? steps (addAttribute name "" found) rest

/-- A tag from its name on, and the text behind it; none if the text ends in the tag. -/
def readTag? (cs : List Char) : Option (Tag × List Char) :=
  let rest := cs.dropWhile (!endsTagName ·)
  (readAttributes? (rest.length + 1) [] rest).map fun (attributes, selfClosing, rest) =>
    ({ name := lowerName (cs.takeWhile (!endsTagName ·)), attributes, selfClosing }, rest)

/-- The tag token that starts here; a tag in which the text ends is left out. -/
def tagToken (make : Tag → Token) (cs : List Char) : Option Token × List Char :=
  match readTag? cs with
  | some (tag, rest) => (some (make tag), rest)
  | none => (none, [])

/-- Whether the text starts with `/`, the name and a character that ends it. -/
def closes (name : String) : List Char → Bool
  | '/' :: cs =>
    lowerName (cs.takeWhile (!endsTagName ·)) == name && !(cs.dropWhile (!endsTagName ·)).isEmpty
  | _ => false

/-! ## Comments and document types -/

/-- The text of a comment and what stands behind it; `done` holds what has been read, reversed. -/
def splitComment (done : List Char) : List Char → List Char × List Char
  | '-' :: '-' :: '>' :: rest => (done.reverse, rest)
  | '-' :: '-' :: '!' :: '>' :: rest => (done.reverse, rest)
  | ['-', '-', '!'] => (done.reverse, [])
  | ['-', '-'] => (done.reverse, [])
  | ['-'] => (done.reverse, [])
  | [] => (done.reverse, [])
  | c :: rest => splitComment (c :: done) rest

/-- A comment token. -/
def commentToken (text : List Char) : Option Token :=
  some (.comment (String.ofList (withoutNul text)))

/-- The comment behind its opening mark. -/
def readComment : List Char → Option Token × List Char
  | '>' :: rest => (commentToken [], rest)
  | '-' :: '>' :: rest => (commentToken [], rest)
  | cs => let (text, rest) := splitComment [] cs; (commentToken text, rest)

/-- Malformed markup counts as a comment up to the next `>`. -/
def readBogusComment (cs : List Char) : Option Token × List Char :=
  (commentToken (cs.takeWhile (· != '>')), (cs.dropWhile (· != '>')).drop 1)

/-- An identifier between quotes, whether its end is missing, and the text behind it; none if no
quote starts here. -/
def readIdentifier? (cs : List Char) : Option (String × Bool × List Char) :=
  let upTo (quote : Char) (cs : List Char) : String × Bool × List Char :=
    let inside (c : Char) : Bool := c != quote && c != '>'
    let text := String.ofList (withoutNul (cs.takeWhile inside))
    match cs.dropWhile inside with
    | [] => (text, true, [])
    | c :: rest => if c == '>' then (text, true, c :: rest) else (text, false, rest)
  match cs with
  | '"' :: rest => some (upTo '"' rest)
  | '\'' :: rest => some (upTo '\'' rest)
  | _ => none

/-- Ends a document type at the next `>`. -/
def endDoctype (d : Doctype) (cs : List Char) : Option Token × List Char :=
  let rest := cs.dropWhile (· != '>')
  (some (.doctype { d with broken := d.broken || rest.isEmpty }), rest.drop 1)

/-- The system identifier and the end of a document type; `needed` if one has to be there. -/
def readSystemId (needed : Bool) (d : Doctype) (cs : List Char) : Option Token × List Char :=
  let cs := cs.dropWhile isSpace
  match readIdentifier? cs with
  | some (text, broken, rest) =>
    let d := { d with systemId := some text, broken := d.broken || broken }
    -- What follows the identifier is of no account, except that the end may be missing.
    endDoctype d rest
  | none => endDoctype { d with broken := d.broken || needed || cs.head? != some '>' } cs

/-- The public identifier and all that follows it. -/
def readPublicId (d : Doctype) (cs : List Char) : Option Token × List Char :=
  match readIdentifier? (cs.dropWhile isSpace) with
  | some (text, broken, rest) =>
    let d := { d with publicId := some text, broken }
    if broken then endDoctype d rest else readSystemId false d rest
  | none => endDoctype { d with broken := true } cs

/-- The document type behind its keyword. -/
def readDoctype (cs : List Char) : Option Token × List Char :=
  let cs := cs.dropWhile isSpace
  let inName (c : Char) : Bool := !(isSpace c || c == '>')
  let name := cs.takeWhile inName
  let rest := (cs.dropWhile inName).dropWhile isSpace
  if name.isEmpty then endDoctype { broken := true } rest
  else
    let d : Doctype := { name := some (lowerName name) }
    match String.ofList (Text.asciiLower (rest.take 6)) with
    | "public" => readPublicId d (rest.drop 6)
    | "system" => readSystemId true d (rest.drop 6)
    | _ => endDoctype { d with broken := rest.head? != some '>' } rest

/-- Text up to the end of a character data section, and the text behind the section. -/
def splitSection (done : List Char) : List Char → List Char × List Char
  | ']' :: ']' :: '>' :: rest => (done.reverse, rest)
  | [] => (done.reverse, [])
  | c :: rest => splitSection (c :: done) rest

/-- Whether `cs` starts with `word`, in letters of any case. -/
def startsWithWord (word cs : List Char) : Bool :=
  Text.asciiLower (cs.take word.length) == word

/-! ## Tokens -/

/-- What a `<!` starts. Character data sections stand in foreign elements only. -/
def readDeclaration (foreign : Bool) (cs : List Char) : Option Token × List Char :=
  match Text.dropStart? ['-', '-'] cs with
  | some rest => readComment rest
  | none =>
    if startsWithWord "doctype".toList cs then readDoctype (cs.drop 7)
    else
      match foreign, Text.dropStart? "[CDATA[".toList cs with
      | true, some rest =>
        let (text, rest) := splitSection [] rest
        (if text.isEmpty then none else some (.text text), rest)
      | _, _ => readBogusComment cs

/-- What a `<` starts. -/
def readMarkup (foreign : Bool) (cs : List Char) : Option Token × List Char :=
  match cs with
  | '!' :: rest => readDeclaration foreign rest
  | '/' :: rest =>
    match rest with
    | [] => (some (.text ['<', '/']), [])
    | '>' :: rest => (none, rest)
    | c :: _ => if c.isAlpha then tagToken .endTag rest else readBogusComment rest
  | '?' :: _ => readBogusComment cs
  | c :: _ => if c.isAlpha then tagToken .startTag cs else (some (.text ['<']), cs)
  | [] => (some (.text ['<']), [])

/-- Whether script text lies in a comment, and in a script inside of that. -/
inductive ScriptState where
  | bare
  /-- In a comment, behind so many dashes. -/
  | commented (dashes : Nat)
  /-- In a script inside a comment, behind so many dashes. -/
  | nested (dashes : Nat)

/-- The state behind a character, `cs` being what follows it. -/
def ScriptState.step (c : Char) (cs : List Char) : ScriptState → ScriptState
  | .bare => if c == '<' && "!--".toList.isPrefixOf cs then .commented 0 else .bare
  | .commented dashes =>
    if c == '-' then .commented (dashes + 1)
    else if c == '>' && 2 ≤ dashes then .bare
    else if c == '<' && closes "script" ('/' :: cs) then .nested 0
    else .commented 0
  | .nested dashes =>
    if c == '-' then .nested (dashes + 1)
    else if c == '>' && 2 ≤ dashes then .bare
    else if c == '<' && closes "script" cs then .commented 0
    else .nested 0

/-- The number of characters, `n` more than here, before the end tag of a script. -/
def scriptLength (n : Nat) : ScriptState → List Char → Nat
  | _, [] => n
  | state, c :: cs =>
    let inNested : Bool := match state with
      | .nested _ => true
      | _ => false
    if c == '<' && !inNested && closes "script" cs then n
    else scriptLength (n + 1) (state.step c cs) cs

/-- A run of text without markup, if it is not empty, or else what `otherwise` reads. -/
def textOr (run rest : List Char) (otherwise : Unit → Option Token × List Char) :
    Option Token × List Char :=
  if run.isEmpty then otherwise () else (some (.text run), rest)

/-- The end tag behind a `<`, or a `<` that is text. -/
def endTagOrText (last : String) (cs : List Char) : Option Token × List Char :=
  if closes last cs then tagToken .endTag (cs.drop 1) else (some (.text ['<']), cs)

/-- The reference behind an ampersand. One without its semicolon is first given it, and is read
only then. -/
def readReference (cs : List Char) : Option Token × List Char :=
  match completed? cs with
  | some cs => (none, '&' :: cs)
  | none =>
    let (meaning, rest) := reference false cs
    (some (.text meaning), rest)

/-- Reads a token off a text that is not empty. Some markup is no token. -/
def Lexing.next (lexing : Lexing) (foreign : Bool) (cs : List Char) : Option Token × List Char :=
  match lexing with
  | .data =>
    let isText (c : Char) : Bool := c != '<' && c != '&'
    textOr (cs.takeWhile isText) (cs.dropWhile isText) fun _ =>
      match cs with
      | '&' :: rest => readReference rest
      | _ => readMarkup foreign (cs.drop 1)
  | .escapable last =>
    let isText (c : Char) : Bool := c != '<' && c != '&'
    textOr (withoutNul (cs.takeWhile isText)) (cs.dropWhile isText) fun _ =>
      match cs with
      | '&' :: rest => readReference rest
      | _ => endTagOrText last (cs.drop 1)
  | .raw last =>
    textOr (withoutNul (cs.takeWhile (· != '<'))) (cs.dropWhile (· != '<')) fun _ =>
      endTagOrText last (cs.drop 1)
  | .script =>
    let length := scriptLength 0 .bare cs
    textOr (withoutNul (cs.take length)) (cs.drop length) fun _ =>
      endTagOrText "script" (cs.drop 1)
  | .plain => (some (.text (withoutNul cs)), [])

end ReleaseListing.Html
