import ReleaseListing.Proofs.Html.Root

/-!
# Tidy pages

Not every page is read back as it is written: elements may stand where a reader of the written page
does not put them, and some texts are lost. A page is tidy (`TreePage.tidy`) if what stands on it
has names and texts that are written as they are read, and if each of its elements stands where its
start tag finds it and its end tag closes it alone. Where that is depends on the elements around it,
innermost first (`stands`), which are searched as the open elements are when a page is read. The
text of `noscript`, which is read as it stands and written like any other text, may change outside
of links.
-/

namespace ReleaseListing.Html

/-! ## Names and texts -/

/-- Whether a character is read as it is written. -/
def tidyChar (c : Char) : Bool := c != '\x00' && c != '\r'

/-- The spelling that elements of the vocabulary give a name in lower case. -/
def Space.spelled (space : Space) (name : String) : String :=
  if space == .svg then recased svgNames name else name

/-- Whether the name of a tag is read as it is written. -/
def tidyName (space : Space) (name : String) : Bool :=
  space.spelled (lowerName name.toList) == name &&
    match name.toList with
    | [] => false
    | c :: cs => c.isAlpha && cs.all fun d => d != '\x00' && !endsTagName d

/-- What is written in front of the names of attributes. -/
def AttributeSpace.mark : AttributeSpace → String
  | .plain | .namespaces => ""
  | .xlink => "xlink:"
  | .xml => "xml:"
  | .xmlns => "xmlns:"

namespace Attribute

/-- The name of an attribute as it is written. -/
def writtenName (a : Attribute) : List Char := a.space.mark.toList ++ a.name.toList

/-- The attribute that is read where an attribute is written. -/
def reread (a : Attribute) : Attribute where
  name := lowerName a.writtenName
  value := a.value

/-- An attribute that is read as an element of the vocabulary has it. -/
def adopted (space : Space) (a : Attribute) : Attribute :=
  if space == .html then a else adjustedAttribute space a

/-- Whether an attribute of an element is read as it is written. -/
def tidy (space : Space) (a : Attribute) : Bool :=
  a.reread.adopted space == a && a.value.toList.all tidyChar &&
    match a.writtenName with
    | [] => false
    | c :: cs => !endsTagName c && cs.all fun d => !(endsTagName d || d == '=')

end Attribute

/-- The start tag that is read where an element is written. -/
def rereadTag (name : String) (attributes : List Attribute) : Tag where
  name := lowerName name.toList
  attributes := (Attribute.sorted attributes).map (·.reread)

/-- Whether a start tag is read as it is written. -/
def tidyTag (space : Space) (name : String) (attributes : List Attribute) : Bool :=
  tidyName space name && attributes.all (·.tidy space) &&
    decide (attributes.map (·.reread.name)).Nodup

/-- Whether a comment does not end early. -/
def tidyComment (words : List Char) : Bool :=
  words.all tidyChar && !">".toList.isPrefixOf words && !"->".toList.isPrefixOf words &&
    !Text.occursIn "-->".toList words && !Text.occursIn "--!>".toList words

/-- Whether the name of a document type is read to its end. -/
def tidyDoctype (name : List Char) : Bool := name.all fun c => !(isSpace c || c == '>')

/-! ## Elements that hold nothing but text -/

/-- How the text of an HTML element that holds nothing else is read. -/
def textLexing? (name : String) : Option Lexing :=
  if ["title", "textarea"].contains name then some (.escapable name)
  else if ["style", "noframes", "xmp", "iframe", "noembed", "noscript"].contains name then
    some (.raw name)
  else if name == "script" then some .script
  else none

namespace Lexing

/-- How a text is written where it is read in the given way. -/
def written (lexing : Lexing) (cs : List Char) : List Char :=
  match lexing with
  | .data | .escapable _ => cs.flatMap escapeText
  | .raw name => if name == "noscript" then cs.flatMap escapeText else cs
  | _ => cs

/-- The text that is read then. -/
def reread (lexing : Lexing) (cs : List Char) : List Char :=
  match lexing with
  | .raw _ => lexing.written cs
  | _ => cs

end Lexing

/-- What stands behind the `<` of an end tag. -/
def endTagTail (name : String) : List Char := '/' :: name.toList ++ ['>']

/-- Whether no end tag of the name stands in the text in front of one. -/
def staysOpen (name : String) : List Char → Bool
  | [] => true
  | c :: cs =>
    !(c == '<' && closes name (cs ++ '<' :: endTagTail name)) && staysOpen name cs

/-- Whether the text of an element is read to its end. -/
def tidyText (cs : List Char) : Lexing → Bool
  | .escapable name => name != "textarea" || cs.head? != some '\n'
  | .raw name => staysOpen name ((Lexing.raw name).written cs)
  | .script => scriptLength 0 .bare (cs ++ '<' :: endTagTail "script") == cs.length
  | _ => false

/-- What the children of an element are. -/
inductive Contents where
  | nothing
  | text (lexing : Lexing)
  | template
  | trees
  deriving DecidableEq, Repr

/-- What the children of an element of the name are. -/
def contentsOf (space : Space) (name : String) : Contents :=
  if space != .html then .trees
  else if voidNames.contains name then .nothing
  else if name == "template" then .template
  else
    match textLexing? name with
    | some lexing => .text lexing
    | none => .trees

theorem contentsOf_nothing {space : Space} {name : String} (h : contentsOf space name = .nothing) :
    space = .html ∧ name ∈ voidNames := by
  unfold contentsOf at h
  repeat' split at h
  all_goals simp_all

theorem contentsOf_text {space : Space} {name : String} {lexing : Lexing}
    (h : contentsOf space name = .text lexing) :
    space = .html ∧ textLexing? name = some lexing := by
  unfold contentsOf at h
  repeat' split at h
  all_goals simp_all

theorem contentsOf_template {space : Space} {name : String}
    (h : contentsOf space name = .template) : space = .html ∧ name = "template" := by
  unfold contentsOf at h
  repeat' split at h
  all_goals simp_all

/-! ## Where elements stand -/

/-- What an element may hold. -/
inductive Ground where
  | flow
  /-- What belongs into the head. -/
  | head
  /-- The parts of a table. -/
  | table
  /-- The columns of a table. -/
  | columns
  /-- The rows of a table. -/
  | rows
  /-- The cells of a table. -/
  | cells
  /-- What is selected from. -/
  | select
  /-- Frames. -/
  | frames
  /-- Elements of another vocabulary. -/
  | foreign (space : Space)
  /-- What a template holds that is made for something else. -/
  | template (holds : Ground)
  deriving DecidableEq, Repr

/-- An element around a place, whatever its number. -/
def around (space : Space) (name : String) : OpenElement where
  id := 0
  space
  name

/-- What an element on the ground may hold. -/
def Ground.inside (ground : Ground) (e : OpenElement) : Ground :=
  if e.space == .html then
    if e.name == "head" then .head
    else if e.name == "table" then .table
    else if e.name == "colgroup" then .columns
    else if rowGroupNames.contains e.name then .rows
    else if e.name == "tr" then .cells
    else if e.name == "frameset" then .frames
    else if e.name == "select" || ground == .select then .select
    else .flow
  else if e.isFormulaText || e.isDrawingText then .flow
  else .foreign e.space

/-- What a template may be made for. -/
def templateGrounds : List Ground := [.flow, .table, .columns, .rows, .cells]

/-- Whether text that is not blank may stand on the ground. -/
def Ground.holdsWords : Ground → Bool
  | .flow | .select | .foreign _ => true
  | .template holds => holds != .columns
  | _ => false

/-- Elements that stand anywhere among text and hold no elements, and do not belong into the
head. -/
def leafNames : List String :=
  ["area", "br", "embed", "img", "keygen", "wbr", "input", "param", "source", "track", "textarea",
   "iframe", "noembed", "noscript"]

/-- Elements that may hold a part of a page of its own, in which nothing is opened again that was
open around it. -/
def objectNames : List String := ["applet", "marquee", "object"]

/-- Elements in which nothing is opened again that was open around them. -/
def markedNames : List String := ["td", "th", "caption", "template"] ++ objectNames

/-- Parts of ruby annotations. -/
def rubyNames : List String := ["rb", "rtc", "rp", "rt"]

/-- Elements with start tags or end tags of their own kind. -/
def peculiarNames : List String :=
  headNames ++ blockNames ++ headings ++ formattingNames ++ tablePartNames ++ leafNames ++
    objectNames ++ rubyNames ++
    ["html", "head", "body", "frameset", "frame", "p", "pre", "listing", "form", "li", "dd", "dt",
     "plaintext", "button", "a", "nobr", "table", "image", "hr", "xmp", "select", "optgroup",
     "option", "math", "svg", "mglyph", "malignmark"]

/-- Elements that no paragraph holds, other than headings, items and forms. -/
def nonParagraphNames : List String :=
  blockNames ++ ["p", "pre", "listing", "hr", "xmp", "table"]

/-- Whether a paragraph is open that a block would close. -/
def inParagraph (outline : List OpenElement) : Bool := inScope endsButtonScope (·.is "p") outline

/-- Whether a link is open that a link would close. -/
def inLink (outline : List OpenElement) : Bool :=
  (outline.takeWhile (!·.isAny markedNames)).any (·.is "a")

/-- Whether the innermost element is one of those. -/
def isIn (names : List String) (outline : List OpenElement) : Bool :=
  outline.head?.any (·.isAny names)

/-- The items that the start tag of an item closes. -/
def itemNames (name : String) : List String := if name == "li" then ["li"] else ["dd", "dt"]

/-- Where the search for an open item ends. -/
def endsItemSearch (names : List String) (e : OpenElement) : Bool :=
  let passed := ["address", "div", "p"]
  e.isAny names || e.isAny (specialNames.filter (!passed.contains ·))

/-- Whether an item is open that one of the names would close. -/
def inItem (names : List String) (outline : List OpenElement) : Bool :=
  (outline.find? (endsItemSearch names)).any (·.isAny names)

/-- The elements that the start tag of a part of a ruby annotation closes. -/
def rubyEnds (name : String) : List String :=
  if ["rb", "rtc"].contains name then impliedEndNames else impliedEndNames.filter (· != "rtc")

/-- Whether an HTML element may stand among text. -/
def standsInFlow (outline : List OpenElement) (name : String) : Bool :=
  headNames.contains name || leafNames.contains name || formattingNames.contains name ||
  objectNames.contains name || name == "select" || !peculiarNames.contains name ||
  (name == "a" && !inLink outline) ||
  (["nobr", "button"].contains name && !inScope endsScope (·.is name) outline) ||
  (["optgroup", "option"].contains name && !isIn ["option"] outline) ||
  (rubyNames.contains name &&
    !(inScope endsScope (·.is "ruby") outline && isIn (rubyEnds name) outline)) ||
  (!inParagraph outline &&
    (nonParagraphNames.contains name ||
    (headings.contains name && !isIn headings outline) ||
    (["li", "dd", "dt"].contains name && !inItem (itemNames name) outline) ||
    (name == "form" && !outline.any (·.isAny ["form", "template"]))))

/-- Why an HTML element may stand among text. -/
inductive StandsInFlow (outline : List OpenElement) (name : String) : Prop
  | anywhere (h : name ∈ headNames ∨ name ∈ leafNames)
  | formatting (h : name ∈ formattingNames)
  | object (h : name ∈ objectNames)
  | select (h : name = "select")
  | ordinary (h : name ∉ peculiarNames)
  | link (h : name = "a") (hnot : inLink outline = false)
  | once (h : name ∈ ["nobr", "button"]) (hnot : inScope endsScope (·.is name) outline = false)
  | option (h : name ∈ ["optgroup", "option"]) (hparent : isIn ["option"] outline = false)
  | ruby (h : name ∈ rubyNames) (hparent : inScope endsScope (·.is "ruby") outline = false ∨
      isIn (rubyEnds name) outline = false)
  | block (h : name ∈ nonParagraphNames) (hp : inParagraph outline = false)
  | heading (h : name ∈ headings) (hp : inParagraph outline = false)
    (hparent : isIn headings outline = false)
  | item (h : name ∈ ["li", "dd", "dt"]) (hp : inParagraph outline = false)
    (hnot : inItem (itemNames name) outline = false)
  | form (h : name = "form") (hp : inParagraph outline = false)
    (hnot : ∀ e ∈ outline, e.isAny ["form", "template"] = false)

theorem standsInFlow_cases {outline : List OpenElement} {name : String}
    (h : standsInFlow outline name) : StandsInFlow outline name := by
  simp only [standsInFlow, Bool.or_eq_true, Bool.and_eq_true, Bool.not_eq_true',
    ← Bool.not_eq_true (List.contains _ _), List.contains_iff_mem, beq_iff_eq, List.any_eq_false,
    Bool.and_eq_false_iff, Bool.not_eq_true] at h
  rcases h with (((((((((h | h) | h) | h) | h) | h) | ⟨h, hnot⟩) | ⟨h, hnot⟩) | ⟨h, hparent⟩) |
    ⟨h, hparent⟩) | ⟨hp, ((h | ⟨h, hparent⟩) | ⟨h, hnot⟩) | ⟨h, hnot⟩⟩
  · exact .anywhere (.inl h)
  · exact .anywhere (.inr h)
  · exact .formatting h
  · exact .object h
  · exact .select h
  · exact .ordinary h
  · exact .link h hnot
  · exact .once h hnot
  · exact .option h hparent
  · exact .ruby h hparent
  · exact .block h hp
  · exact .heading h hp hparent
  · exact .item h hp hnot
  · exact .form h hp hnot

/-- The elements among text that hold others and are no blocks, each with a rule of its own. -/
def holderNames : List String :=
  formattingNames ++ headings ++ objectNames ++ rubyNames ++
    ["a", "nobr", "button", "li", "dd", "dt", "form", "select", "optgroup", "option"]

/-- An element that is not one of these stands anywhere, or as a block in no paragraph. -/
theorem StandsInFlow.anywhere_or_block {outline : List OpenElement} {name : String}
    (h : StandsInFlow outline name) (hpeculiar : name ∈ peculiarNames)
    (hname : name ∉ holderNames) :
    name ∈ headNames ++ leafNames ∨ name ∈ nonParagraphNames ∧ inParagraph outline = false := by
  have hnot : ∀ names : List String, (∀ name ∈ names, name ∈ holderNames) → name ∉ names :=
    fun names hsub hmem => hname (hsub _ hmem)
  cases h with
  | anywhere h => exact .inl (List.mem_append.2 h)
  | block h hp => exact .inr ⟨h, hp⟩
  | ordinary h => exact absurd hpeculiar h
  | formatting h => exact absurd h (hnot _ (by decide))
  | object h => exact absurd h (hnot _ (by decide))
  | select h => exact absurd (List.mem_singleton.2 h) (hnot _ (by decide))
  | link h _ => exact absurd (List.mem_singleton.2 h) (hnot _ (by decide))
  | once h _ => exact absurd h (hnot _ (by decide))
  | option h _ => exact absurd h (hnot _ (by decide))
  | ruby h _ => exact absurd h (hnot _ (by decide))
  | heading h _ _ => exact absurd h (hnot _ (by decide))
  | item h _ _ => exact absurd h (hnot _ (by decide))
  | form h _ _ => exact absurd (List.mem_singleton.2 h) (hnot _ (by decide))

/-- Whether an element is the outermost one of a drawing or a formula. -/
def isRoot (space : Space) (name : String) : Bool :=
  (space == .svg && name == "svg") || (space == .mathml && name == "math")

/-- Whether an element may stand in elements of another vocabulary. -/
def standsInForeign (outline : List OpenElement) (current space : Space) (name : String)
    (attributes : List Attribute) : Bool :=
  let read := rereadTag name attributes
  if Construct.isForeign outline.head? (.startTag read) then space == current && !breaksOut read
  else isRoot space name

/-- Elements of the head that also stand in tables. -/
def scriptNames : List String := ["style", "script", "template"]

/-- Whether an HTML element may be selected, or stand among what is. -/
def standsInSelect (outline : List OpenElement) (name : String) : Bool :=
  name == "script" || (name == "option" && !isIn ["option"] outline) ||
    (["optgroup", "hr"].contains name && !isIn ["optgroup", "option"] outline)

/-- Whether an element may stand on the ground, inside of the other elements. -/
def stands (outline : List OpenElement) (space : Space) (name : String)
    (attributes : List Attribute) : Ground → Bool
  | .flow => if space == .html then standsInFlow outline name else isRoot space name
  | .foreign current => standsInForeign outline current space name attributes
  | .template holds => stands outline space name attributes holds
  | .head => space == .html && (headNames.contains name || name == "noscript")
  | .table =>
    space == .html &&
      (["caption", "colgroup", "tbody", "tfoot", "thead"].contains name ||
        scriptNames.contains name)
  | .columns => space == .html && ["col", "template"].contains name
  | .rows => space == .html && (name == "tr" || scriptNames.contains name)
  | .cells => space == .html && (["td", "th"].contains name || scriptNames.contains name)
  | .select => space == .html && standsInSelect outline name
  | .frames => space == .html && ["frameset", "frame", "noframes"].contains name

namespace Forest

def isNil : Forest → Bool
  | nil => true
  | _ => false

/-- Whether the children of an element are a text that is read in the given way. In a link no other
text may be read. -/
def isTidyText (lexing : Lexing) (linked : Bool) : Forest → Bool
  | nil => true
  | node _ (.text cs) nil nil =>
    cs.all tidyChar && tidyText cs lexing && (!linked || lexing.reread cs == cs)
  | _ => false

/-- Whether no text among siblings starts with a line feed. -/
def startsNoLine : Forest → Bool
  | nil => true
  | node _ (.text cs) _ next => cs.head? != some '\n' && startsNoLine next
  | node _ _ _ next => startsNoLine next

mutual

/-- Whether the trees are read back where they stand. -/
def tidy (ground : Ground) (outline : List OpenElement) : Forest → Bool
  | nil => true
  | node _ c children next =>
    (match c with
    | .text cs => children.isNil && cs.all tidyChar && (ground.holdsWords || cs.all isSpace)
    | .comment words => children.isNil && tidyComment words.toList
    | .element space name attributes =>
      let outline' := around space name :: outline
      tidyTag space name attributes && stands outline space name attributes ground &&
        match contentsOf space name with
        | .nothing => children.isNil
        | .text lexing => children.isTidyText lexing (outline.any (·.name == "a"))
        | .template => children.tidyContents outline'
        | .trees =>
          children.tidy (ground.inside (around space name)) outline' &&
            (!(around space name).isAny ["pre", "listing"] || children.startsNoLine)
    | _ => false) && next.tidy ground outline

/-- Whether the contents of a template are read back, whatever they are made for. -/
def tidyContents (outline : List OpenElement) : Forest → Bool
  | nil => true
  | node _ .fragment contents nil =>
    templateGrounds.any fun holds => contents.tidy (.template holds) outline
  | _ => false

end

/-- Why a node is read back where it stands. -/
inductive TidyNode (ground : Ground) (outline : List OpenElement) : Content → Forest → Prop
  | text {cs : List Char} (hchars : ∀ c ∈ cs, tidyChar c)
    (hplace : ground.holdsWords ∨ ∀ c ∈ cs, isSpace c) : TidyNode ground outline (.text cs) nil
  | comment {words : String} (h : tidyComment words.toList) :
    TidyNode ground outline (.comment words) nil
  | void {space : Space} {name : String} {attributes : List Attribute}
    (htag : tidyTag space name attributes) (hstands : stands outline space name attributes ground)
    (hcontents : contentsOf space name = .nothing) :
    TidyNode ground outline (.element space name attributes) nil
  | holdsText {space : Space} {name : String} {attributes : List Attribute} {children : Forest}
    {lexing : Lexing} (htag : tidyTag space name attributes)
    (hstands : stands outline space name attributes ground)
    (hcontents : contentsOf space name = .text lexing)
    (hchildren : children.isTidyText lexing (outline.any (·.name == "a"))) :
    TidyNode ground outline (.element space name attributes) children
  | bare {space : Space} {name : String} {attributes : List Attribute}
    (htag : tidyTag space name attributes) (hstands : stands outline space name attributes ground)
    (hcontents : contentsOf space name = .template) :
    TidyNode ground outline (.element space name attributes) nil
  | template {space : Space} {name : String} {attributes : List Attribute} {i : Nat}
    {contents : Forest} {holds : Ground} (htag : tidyTag space name attributes)
    (hstands : stands outline space name attributes ground)
    (hcontents : contentsOf space name = .template) (hholds : holds ∈ templateGrounds)
    (hchildren : contents.tidy (.template holds) (around space name :: outline)) :
    TidyNode ground outline (.element space name attributes) (node i .fragment contents nil)
  | holds {space : Space} {name : String} {attributes : List Attribute} {children : Forest}
    (htag : tidyTag space name attributes) (hstands : stands outline space name attributes ground)
    (hcontents : contentsOf space name = .trees)
    (hchildren : children.tidy (ground.inside (around space name)) (around space name :: outline))
    (hlines : (around space name).isAny ["pre", "listing"] → children.startsNoLine) :
    TidyNode ground outline (.element space name attributes) children

theorem eq_nil_of_isNil {f : Forest} (h : f.isNil) : f = nil := by
  cases f with
  | nil => rfl
  | node => cases h

theorem tidy_node {ground : Ground} {outline : List OpenElement} {i : Nat} {c : Content}
    {children next : Forest} (h : (node i c children next).tidy ground outline) :
    TidyNode ground outline c children ∧ next.tidy ground outline := by
  unfold tidy at h
  rw [Bool.and_eq_true] at h
  refine ⟨?_, h.2⟩
  cases c with
  | text cs =>
    simp only [Bool.and_eq_true, Bool.or_eq_true, List.all_eq_true] at h
    obtain ⟨⟨⟨hnil, hchars⟩, hplace⟩, -⟩ := h
    exact eq_nil_of_isNil hnil ▸ .text hchars hplace
  | comment words =>
    simp only [Bool.and_eq_true] at h
    exact eq_nil_of_isNil h.1.1 ▸ .comment h.1.2
  | doctype name => exact absurd h.1 (by simp)
  | fragment => exact absurd h.1 (by simp)
  | element space name attributes =>
    simp only [Bool.and_eq_true] at h
    obtain ⟨⟨⟨htag, hstands⟩, hchildren⟩, -⟩ := h
    split at hchildren
    · rename_i hcontents
      exact eq_nil_of_isNil hchildren ▸ .void htag hstands hcontents
    · rename_i hcontents
      exact .holdsText htag hstands hcontents hchildren
    · rename_i hcontents
      unfold tidyContents at hchildren
      split at hchildren
      · exact .bare htag hstands hcontents
      · obtain ⟨holds, hholds, hchildren⟩ := List.any_eq_true.1 hchildren
        exact .template htag hstands hcontents hholds hchildren
      · cases hchildren
    · rename_i hcontents
      rw [Bool.and_eq_true, Bool.or_eq_true] at hchildren
      refine .holds htag hstands hcontents hchildren.1 fun hname => ?_
      exact hchildren.2.resolve_left (by simp [hname])

/-- What of the page stands in front of a place in `html`. -/
inductive Stage where
  | start
  | head
  | body
  /-- Behind the frames that stand for a body. -/
  | frames
  deriving DecidableEq, Repr

/-- Whether the children of `html` are read back: a head and a body or frames, if they are there. -/
def tidyHtml (stage : Stage) : Forest → Bool
  | nil => true
  | node _ (.text cs) children next =>
    children.isNil && cs.all isSpace && cs.all tidyChar && stage != .body && next.tidyHtml stage
  | node _ (.comment words) children next =>
    children.isNil && tidyComment words.toList && next.tidyHtml stage
  | node _ (.element space name attributes) children next =>
    let e := around space name
    space == .html && tidyTag space name attributes && children.tidy (Ground.flow.inside e) [e] &&
      ((name == "head" && stage == .start && next.tidyHtml .head) ||
        ([Stage.start, .head].contains stage &&
          ((name == "body" && next.tidyHtml .body) ||
            (name == "frameset" && next.tidyHtml .frames))))
  | _ => false

/-- Why a child of `html` is read back, and the place behind it. -/
inductive TidyPart : Stage → Content → Forest → Stage → Prop
  | blank {stage : Stage} {cs : List Char} (hstage : stage ≠ .body)
    (hchars : ∀ c ∈ cs, tidyChar c ∧ isSpace c) : TidyPart stage (.text cs) nil stage
  | comment {stage : Stage} {words : String} (h : tidyComment words.toList) :
    TidyPart stage (.comment words) nil stage
  | head {attributes : List Attribute} {children : Forest} (htag : tidyTag .html "head" attributes)
    (hchildren : children.tidy .head [around .html "head"]) :
    TidyPart .start (.element .html "head" attributes) children .head
  | body {stage : Stage} {attributes : List Attribute} {children : Forest}
    (hstage : stage ∈ [Stage.start, .head]) (htag : tidyTag .html "body" attributes)
    (hchildren : children.tidy .flow [around .html "body"]) :
    TidyPart stage (.element .html "body" attributes) children .body
  | frames {stage : Stage} {attributes : List Attribute} {children : Forest}
    (hstage : stage ∈ [Stage.start, .head]) (htag : tidyTag .html "frameset" attributes)
    (hchildren : children.tidy .frames [around .html "frameset"]) :
    TidyPart stage (.element .html "frameset" attributes) children .frames

theorem tidyHtml_node {stage : Stage} {i : Nat} {c : Content} {children next : Forest}
    (h : (node i c children next).tidyHtml stage) :
    ∃ later, TidyPart stage c children later ∧ next.tidyHtml later := by
  cases c with
  | text cs =>
    simp only [tidyHtml, Bool.and_eq_true, List.all_eq_true, bne_iff_ne] at h
    obtain ⟨⟨⟨⟨hnil, hspaces⟩, hchars⟩, hstage⟩, hnext⟩ := h
    exact ⟨stage, eq_nil_of_isNil hnil ▸ .blank hstage fun c hc => ⟨hchars c hc, hspaces c hc⟩,
      hnext⟩
  | comment words =>
    simp only [tidyHtml, Bool.and_eq_true] at h
    exact ⟨stage, eq_nil_of_isNil h.1.1 ▸ .comment h.1.2, h.2⟩
  | doctype name => cases h
  | fragment => cases h
  | element space name attributes =>
    simp only [tidyHtml, Bool.and_eq_true, Bool.or_eq_true, beq_iff_eq, List.contains_iff_mem] at h
    obtain ⟨⟨⟨rfl, htag⟩, hchildren⟩,
      ⟨⟨rfl, rfl⟩, hnext⟩ | ⟨hstage, ⟨rfl, hnext⟩ | ⟨rfl, hnext⟩⟩⟩ := h
    · exact ⟨.head, .head htag hchildren, hnext⟩
    · exact ⟨.body, .body hstage htag hchildren, hnext⟩
    · exact ⟨.frames, .frames hstage htag hchildren, hnext⟩

/-- Whether all nodes are comments that do not end early. -/
def tidyEnd : Forest → Bool
  | nil => true
  | node _ (.comment words) children next =>
    children.isNil && tidyComment words.toList && next.tidyEnd
  | _ => false

/-- Whether the nodes of a page are read back: comments, a document type and `html`. -/
def tidyPage : Forest → Bool
  | node _ (.comment words) children next =>
    children.isNil && tidyComment words.toList && next.tidyPage
  | node _ (.doctype name) children next =>
    children.isNil && tidyDoctype name.toList && next.tidyPage
  | node _ (.element space name attributes) children next =>
    space == .html && name == "html" && tidyTag space name attributes &&
      children.tidyHtml .start && next.tidyEnd
  | _ => false

/-- Why a node in front of `html` is read back. -/
inductive TidyProlog : Content → Forest → Prop
  | comment {words : String} (h : tidyComment words.toList) : TidyProlog (.comment words) nil
  | doctype {name : String} (h : tidyDoctype name.toList) : TidyProlog (.doctype name) nil

theorem tidyPage_node {i : Nat} {c : Content} {children next : Forest}
    (h : (node i c children next).tidyPage) :
    (TidyProlog c children ∧ next.tidyPage) ∨
      ∃ attributes, c = .element .html "html" attributes ∧ tidyTag .html "html" attributes ∧
        children.tidyHtml .start ∧ next.tidyEnd := by
  cases c with
  | text cs => cases h
  | fragment => cases h
  | comment words =>
    simp only [tidyPage, Bool.and_eq_true] at h
    exact .inl ⟨eq_nil_of_isNil h.1.1 ▸ .comment h.1.2, h.2⟩
  | doctype name =>
    simp only [tidyPage, Bool.and_eq_true] at h
    exact .inl ⟨eq_nil_of_isNil h.1.1 ▸ .doctype h.1.2, h.2⟩
  | element space name attributes =>
    simp only [tidyPage, Bool.and_eq_true, beq_iff_eq] at h
    obtain ⟨⟨⟨⟨rfl, rfl⟩, htag⟩, hchildren⟩, hnext⟩ := h
    exact .inr ⟨attributes, rfl, htag, hchildren, hnext⟩

theorem tidyEnd_node {i : Nat} {c : Content} {children next : Forest}
    (h : (node i c children next).tidyEnd) :
    ∃ words, c = .comment words ∧ children = nil ∧ tidyComment words.toList ∧ next.tidyEnd := by
  cases c with
  | comment words =>
    simp only [tidyEnd, Bool.and_eq_true] at h
    exact ⟨words, rfl, eq_nil_of_isNil h.1.1, h.1.2, h.2⟩
  | text cs => cases h
  | doctype name => cases h
  | fragment => cases h
  | element space name attributes => cases h

variable {f : Forest}

theorem flat_of_tidyEnd (h : f.tidyEnd) : Flat f := by
  induction f with
  | nil => trivial
  | node i c children next _ ihn =>
    obtain ⟨words, rfl, rfl, -, hnext⟩ := tidyEnd_node h
    exact ⟨rfl, rfl, ihn hnext⟩

/-- A tidy page has one element on its top level. -/
theorem rooted_of_tidyPage (h : f.tidyPage) : ∃ root, Rooted root f := by
  induction f with
  | nil => cases h
  | node i c children next _ ihn =>
    rcases tidyPage_node h with ⟨hnode, hnext⟩ | ⟨attributes, rfl, -, -, hnext⟩
    · obtain ⟨root, hr⟩ := ihn hnext
      have hnode' : c.isElement = false ∧ children = nil := by
        cases hnode <;> exact ⟨rfl, rfl⟩
      exact ⟨root, .inr ⟨hnode'.1, hnode'.2, hr⟩⟩
    · exact ⟨i, .inl ⟨rfl, rfl, flat_of_tidyEnd hnext⟩⟩

end Forest

end ReleaseListing.Html

/-- Whether the nodes of a page are read back where they stand. -/
def ReleaseListing.TreePage.tidy (p : TreePage) : Bool := p.nodes.tidyPage
