import ReleaseListing.Html.Construction.Table

/-!
# All parts of a page

`Construct.take` treats a piece as the mode and the open elements ask for.
-/

namespace ReleaseListing.Html.Construct

/-- In an element that holds nothing but text. -/
def inText : Piece → Construct Progress
  | .blank cs => thenDone (putText cs)
  | .text cs => thenDone (putText cs)
  | piece => do
    pop
    modify fun s => { s with mode := s.interrupted, lexing := .data }
    match piece with
    | .finish => return .again
    | _ => return .done

/-- In a list to select from. -/
def inSelect (piece : Piece) : Construct Progress :=
  let endSelect (go : Progress) : Construct Progress := do
    if ← hasInScope endsSelectScope (·.is "select") then
      popThrough (·.is "select")
      resetMode
      return go
    else return .done
  let endOption : Construct Unit := do if ← currentIs (·.is "option") then pop
  let endGroup : Construct Unit := do if ← currentIs (·.is "optgroup") then pop
  match piece with
  | .nul => return .done
  | .blank cs => thenDone (putText cs)
  | .text cs => thenDone (putText cs)
  | .comment text => thenDone (putComment text)
  | .startTag tag =>
    match tag.name with
    | "html" => mergeHtml tag
    | "option" => thenDone do
      endOption
      discard (openElement tag)
    | "optgroup" => thenDone do
      endOption
      endGroup
      discard (openElement tag)
    | "hr" => thenDone do
      endOption
      endGroup
      putVoid tag
    | "select" => endSelect .done
    | "input" | "keygen" | "textarea" => endSelect .again
    | "script" | "template" => headElement tag
    | _ => return .done
  | .endTag tag =>
    match tag.name with
    | "optgroup" => thenDone do
      match (← get).stack with
      | inner :: outer :: _ => if inner.is "option" && outer.is "optgroup" then pop
      | _ => pure ()
      endGroup
    | "option" => thenDone endOption
    | "select" => endSelect .done
    | "template" => thenDone endTemplate
    | _ => return .done
  | .finish => inBody .finish

/-- In a list to select from that stands in a table. -/
def inSelectInTable (piece : Piece) : Construct Progress :=
  let parts := ["caption", "table", "tbody", "tfoot", "thead", "tr", "td", "th"]
  let leave : Construct Progress := do
    popThrough (·.is "select")
    resetMode
    return .again
  match piece with
  | .startTag tag => if parts.contains tag.name then leave else inSelect piece
  | .endTag tag =>
    if parts.contains tag.name then do
      if ← hasInScope endsTableScope (·.is tag.name) then leave else return .done
    else inSelect piece
  | _ => inSelect piece

/-- In a template: the first tag says what the template holds. -/
def inTemplate (piece : Piece) : Construct Progress :=
  let switch (mode : Mode) : Construct Progress := do
    modify fun s => { s with templateModes := mode :: s.templateModes.drop 1 }
    againIn mode
  match piece with
  | .nul => return .done
  | .blank _ | .text _ | .comment _ => inBody piece
  | .startTag tag =>
    match tag.name with
    | "caption" | "colgroup" | "tbody" | "tfoot" | "thead" => switch .inTable
    | "col" => switch .inColumnGroup
    | "tr" => switch .inTableBody
    | "td" | "th" => switch .inRow
    | name => if headNames.contains name then headElement tag else switch .inBody
  | .endTag tag => if tag.name == "template" then thenDone endTemplate else return .done
  | .finish => finishTemplates

/-- Behind the body. -/
def afterBody : Piece → Construct Progress
  | .blank cs => inBody (.blank cs)
  | .comment text => thenDone (putCommentInHtml text)
  | .startTag tag => if tag.name == "html" then mergeHtml tag else againIn .inBody
  | .endTag tag =>
    if tag.name == "html" then thenDone (setMode .afterAfterBody) else againIn .inBody
  | .finish => return .done
  | _ => againIn .inBody

/-- In a frameset. -/
def inFrameset : Piece → Construct Progress
  | .blank cs => thenDone (putText cs)
  | .comment text => thenDone (putComment text)
  | .startTag tag =>
    match tag.name with
    | "html" => mergeHtml tag
    | "frameset" => thenDone (discard (openElement tag))
    | "frame" => thenDone (putVoid tag)
    | "noframes" => headElement tag
    | _ => return .done
  | .endTag tag => thenDone do
    if tag.name == "frameset" && 2 ≤ (← get).stack.length then
      pop
      if !(← currentIs (·.is "frameset")) then setMode .afterFrameset
  | _ => return .done

/-- Behind a frameset. -/
def afterFrameset : Piece → Construct Progress
  | .blank cs => thenDone (putText cs)
  | .comment text => thenDone (putComment text)
  | .startTag tag =>
    match tag.name with
    | "html" => mergeHtml tag
    | "noframes" => headElement tag
    | _ => return .done
  | .endTag tag => thenDone do if tag.name == "html" then setMode .afterAfterFrameset
  | _ => return .done

/-- Behind the end tag of a page with a body. -/
def afterAfterBody : Piece → Construct Progress
  | .blank cs => inBody (.blank cs)
  | .comment text => thenDone (putCommentOutside text)
  | .startTag tag => if tag.name == "html" then mergeHtml tag else againIn .inBody
  | .finish => return .done
  | _ => againIn .inBody

/-- Behind the end tag of a page with a frameset. -/
def afterAfterFrameset : Piece → Construct Progress
  | .blank cs => inBody (.blank cs)
  | .comment text => thenDone (putCommentOutside text)
  | .startTag tag =>
    match tag.name with
    | "html" => mergeHtml tag
    | "noframes" => headElement tag
    | _ => return .done
  | _ => return .done

/-- Treats a piece as HTML in the mode. -/
def inMode : Mode → Piece → Construct Progress
  | .initial => initial
  | .beforeHtml => beforeHtml
  | .beforeHead => beforeHead
  | .inHead => inHead
  | .afterHead => afterHead
  | .inBody => inBody
  | .inText => inText
  | .inTable => inTable
  | .inTableText => inTableText
  | .inCaption => inCaption
  | .inColumnGroup => inColumnGroup
  | .inTableBody => inTableBody
  | .inRow => inRow
  | .inCell => inCell
  | .inSelect => inSelect
  | .inSelectInTable => inSelectInTable
  | .inTemplate => inTemplate
  | .afterBody => afterBody
  | .inFrameset => inFrameset
  | .afterFrameset => afterFrameset
  | .afterAfterBody => afterAfterBody
  | .afterAfterFrameset => afterAfterFrameset

/-! ## Foreign elements -/

/-- Whether a piece belongs to the foreign vocabulary of the current element. -/
def isForeign (current : Option OpenElement) (piece : Piece) : Bool :=
  match current, piece with
  | none, _ => false
  | _, .finish => false
  | some e, .nul | some e, .blank _ | some e, .text _ =>
    e.space != .html && !e.isFormulaText && !e.isDrawingText
  | some e, .startTag tag =>
    e.space != .html && !e.isDrawingText &&
      !(e.isFormulaText && tag.name != "mglyph" && tag.name != "malignmark") &&
      !(e.space == .mathml && e.name == "annotation-xml" && tag.name == "svg")
  | some e, _ => e.space != .html

/-- Closes foreign elements, and treats the piece as HTML. -/
def breakOut (piece : Piece) : Construct Progress := do
  popUntil fun e => e.space == .html || e.isFormulaText || e.isDrawingText
  inMode (← get).mode piece

/-- Opens an element of the vocabulary of the current one. -/
def openAlike (tag : Tag) : Construct Unit := do
  match ← current? with
  | some e =>
    let name := if e.space == .svg then recased svgNames tag.name else tag.name
    openForeign e.space { tag with name }
  | none => pure ()

/-- What an end tag closes among foreign elements: an element of its name, with all that is open in
it, or what it closes as HTML, if an HTML element comes first. `isFirst` for the current element. -/
def foreignEnd (tag : Tag) (isFirst : Bool) : List OpenElement → Construct Progress
  | [] => return .done
  | [_] => return .done
  | e :: outer => do
    if !isFirst && e.space == .html then inMode (← get).mode (.endTag tag)
    else if Text.asciiLower e.name.toList == tag.name.toList then
      thenDone (modify fun s => { s with stack := outer })
    else foreignEnd tag false outer

/-- In an element of another vocabulary. -/
def inForeign (piece : Piece) : Construct Progress :=
  match piece with
  | .nul => thenDone (putText ['\uFFFD'])
  | .blank cs => thenDone (putText cs)
  | .text cs => thenDone do
    putText cs
    forbidFrameset
  | .comment text => thenDone (putComment text)
  | .startTag tag => if breaksOut tag then breakOut piece else thenDone (openAlike tag)
  | .endTag tag => do
    if tag.name == "br" || tag.name == "p" then breakOut piece
    else foreignEnd tag true (← get).stack
  | .finish => return .done

/-! ## Pieces and tokens -/

/-- Treats a piece until it is used up. -/
def takeUpTo (piece : Piece) : (steps : Nat) → Construct Unit
  | 0 => pure ()
  | steps + 1 => do
    let s ← get
    let progress ←
      if isForeign s.stack.head? piece then inForeign piece else inMode s.mode piece
    match progress with
    | .done => pure ()
    | .again => takeUpTo piece steps

/-- Treats a piece. A piece is looked at again only a few times for each element that it closes. -/
def take (piece : Piece) : Construct Unit := do
  takeUpTo piece (10 * ((← get).stack.length + 10))

/-- Text as pieces: each NUL by itself, and runs of blank and of other characters. -/
def piecesOf (cs : List Char) : List Piece :=
  let together (a b : Char) : Bool := isSpace a == isSpace b && a != '\x00' && b != '\x00'
  (cs.splitBy together).map fun run =>
    match run with
    | [] => .blank []
    | c :: _ => if c == '\x00' then .nul else if isSpace c then .blank run else .text run

/-- Treats a token. -/
def feed (token : Token) : Construct Unit := do
  let s ← get
  set { s with dropsLineFeed := false }
  match token with
  | .doctype d =>
    if s.mode == .initial then
      modify fun s =>
        { s with
          prolog := .doctype (d.name.getD "") :: s.prolog
          tableInParagraph := d.keepsTableInParagraph
          mode := .beforeHtml }
  | .startTag tag => take (.startTag tag)
  | .endTag tag => take (.endTag tag)
  | .comment text => take (.comment text)
  | .text cs =>
    let cs := match s.dropsLineFeed, cs with
      | true, '\n' :: rest => rest
      | _, cs => cs
    (piecesOf cs).forM take

end Construct

/-- Reads the tokens of a text in so many steps. Markup that is no token still stands between a tag
and a line feed. -/
def Construction.read (s : Construction) : (steps : Nat) → List Char → Construction
  | 0, _ => s
  | _, [] => s
  | steps + 1, cs =>
    let foreign : Bool := (s.stack.head?.map (·.space != .html)).getD false
    match s.lexing.next foreign cs with
    | (some token, rest) => ((Construct.feed token).run s).2.read steps rest
    | (none, rest) => ({ s with dropsLineFeed := false } : Construction).read steps rest

/-- A page read to its end. -/
def Construction.ofSource (source : String) : Construction :=
  let cs := sourceText source
  ((Construct.take .finish).run ((({} : Construction)).read cs.length cs)).2

end ReleaseListing.Html
