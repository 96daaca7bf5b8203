import ReleaseListing.Html.Construction.Head

/-!
# In the body of a page
-/

namespace ReleaseListing.Html.Construct

/-- Puts text where formatting applies. -/
def bodyText (cs : List Char) : Construct Unit := do
  reopenFormatting
  putText cs

/-- The end of the page inside templates closes them one after the other. -/
def finishTemplates : Construct Progress := do
  if ← hasOpen (·.is "template") then
    popThrough (·.is "template")
    clearFormatting
    modify fun s => { s with templateModes := s.templateModes.drop 1 }
    resetMode
    return .again
  else return .done

/-- Opens an element of another vocabulary, or puts it, if its tag closes itself. -/
def openForeign (space : Space) (tag : Tag) : Construct Unit := do
  let e ← putElement space (adjustedTag space tag)
  if !tag.selfClosing then push e

/-- Whether an input element is not seen. -/
def isHidden (tag : Tag) : Bool :=
  (plainValue? "type" tag.attributes).any fun v => Text.asciiLower v.toList == "hidden".toList

/-- Closes an item that is open in the same list. -/
def closeItem (names : List String) : Construct Unit := do
  let passed := ["address", "div", "p"]
  let stops (e : OpenElement) : Bool :=
    e.isAny names || e.isAny (specialNames.filter (!passed.contains ·))
  match (← get).stack.find? stops with
  | some e => if e.isAny names then close e.name
  | none => pure ()

/-- Opens an element that a paragraph cannot hold. -/
def openBlock (tag : Tag) : Construct Unit := do
  closeParagraph
  discard (openElement tag)

/-- The attributes of a further start tag of the body. -/
def mergeBody (tag : Tag) : Construct Unit := do
  match (← get).stack.reverse with
  | _ :: body :: _ =>
    if body.is "body" && !(← hasOpen (·.is "template")) then
      forbidFrameset
      addMissing body.id tag.attributes
  | _ => pure ()

/-- Puts a frameset in place of a body that nothing counts in. -/
def replaceBody (tag : Tag) : Construct Unit := do
  let s ← get
  match s.framesetAllowed, s.stack.reverse with
  | true, html :: body :: _ =>
    if body.is "body" then
      let children := ((s.children.extract? body.id).map Prod.snd).getD s.children
      set { s with children, stack := [html] }
      discard (openElement tag)
      setMode .inFrameset
  | _, _ => pure ()

/-- Puts an element that holds nothing among the text. -/
def putInline (tag : Tag) : Construct Unit := do
  reopenFormatting
  putVoid tag
  if !(tag.name == "input" && isHidden tag) then forbidFrameset

/-- A start tag in the body. -/
def bodyStart (tag : Tag) : Construct Progress :=
  let ordinary : Construct Progress := thenDone do
    reopenFormatting
    discard (openElement tag)
  match tag.name with
  | "html" => mergeHtml tag
  | "base" | "basefont" | "bgsound" | "link" | "meta" | "noframes" | "script" | "style"
  | "template" | "title" => headElement tag
  | "body" => thenDone (mergeBody tag)
  | "frameset" => thenDone (replaceBody tag)
  | "p" => thenDone (openBlock tag)
  | "h1" | "h2" | "h3" | "h4" | "h5" | "h6" => thenDone do
    closeParagraph
    if ← currentIs (·.isAny headings) then pop
    discard (openElement tag)
  | "pre" | "listing" => thenDone do
    openBlock tag
    modify fun s => { s with dropsLineFeed := true, framesetAllowed := false }
  | "form" => thenDone do
    let inTemplate ← hasOpen (·.is "template")
    if (← get).form.isNone || inTemplate then
      closeParagraph
      let e ← openElement tag
      if !inTemplate then modify fun s => { s with form := some e.id }
  | "li" => thenDone do
    forbidFrameset
    closeItem ["li"]
    openBlock tag
  | "dd" | "dt" => thenDone do
    forbidFrameset
    closeItem ["dd", "dt"]
    openBlock tag
  | "plaintext" => thenDone do
    openBlock tag
    modify fun s => { s with lexing := .plain }
  | "button" => thenDone do
    if ← hasInScope endsScope (·.is "button") then
      impliedEnds impliedEndNames
      popThrough (·.is "button")
    reopenFormatting
    discard (openElement tag)
    forbidFrameset
  | "a" => thenDone do
    closeLink
    reopenFormatting
    openFormatting tag
  | "nobr" => thenDone do
    reopenFormatting
    if ← hasInScope endsScope (·.is "nobr") then
      closeFormatting "nobr"
      reopenFormatting
    openFormatting tag
  | "applet" | "marquee" | "object" => thenDone do
    reopenFormatting
    discard (openElement tag)
    pushMarker
    forbidFrameset
  | "table" => thenDone do
    if !(← get).tableInParagraph then closeParagraph
    discard (openElement tag)
    forbidFrameset
    setMode .inTable
  | "area" | "br" | "embed" | "img" | "keygen" | "wbr" | "input" => thenDone (putInline tag)
  | "image" => thenDone (putInline { tag with name := "img" })
  | "param" | "source" | "track" => thenDone (putVoid tag)
  | "hr" => thenDone do
    closeParagraph
    putVoid tag
    forbidFrameset
  | "textarea" => thenDone do
    modify fun s => { s with dropsLineFeed := true, framesetAllowed := false }
    openText tag (.escapable tag.name)
  | "xmp" => thenDone do
    closeParagraph
    reopenFormatting
    forbidFrameset
    openText tag (.raw tag.name)
  | "iframe" => thenDone do
    forbidFrameset
    openText tag (.raw tag.name)
  | "noembed" | "noscript" => thenDone (openText tag (.raw tag.name))
  | "select" => thenDone do
    reopenFormatting
    discard (openElement tag)
    forbidFrameset
    modify fun s =>
      { s with
        mode :=
          if [Mode.inTable, .inCaption, .inTableBody, .inRow, .inCell].contains s.mode then
            .inSelectInTable
          else .inSelect }
  | "optgroup" | "option" => do
    if ← currentIs (·.is "option") then pop
    ordinary
  | "rb" | "rtc" => thenDone do
    if ← hasInScope endsScope (·.is "ruby") then impliedEnds impliedEndNames
    discard (openElement tag)
  | "rp" | "rt" => thenDone do
    if ← hasInScope endsScope (·.is "ruby") then impliedEndsExcept "rtc"
    discard (openElement tag)
  | "math" => thenDone (openForeign .mathml tag)
  | "svg" => thenDone (openForeign .svg tag)
  | "caption" | "col" | "colgroup" | "frame" | "head" | "tbody" | "td" | "tfoot" | "th" | "thead"
  | "tr" => return .done
  | name =>
    if blockNames.contains name then thenDone (openBlock tag)
    else if formattingNames.contains name then thenDone do
      reopenFormatting
      openFormatting tag
    else ordinary

/-- Closes an element of the name that is in scope, and all that is open in it. -/
def closeInScope (boundary : OpenElement → Bool) (name : String) : Construct Unit := do
  if ← hasInScope boundary (·.is name) then
    impliedEnds impliedEndNames
    popThrough (·.is name)

/-- Closes a form. -/
def endForm : Construct Unit := do
  if ← hasOpen (·.is "template") then closeInScope endsScope "form"
  else
    let s ← get
    set { s with form := none }
    match s.form with
    | some id =>
      if inScope endsScope (·.id == id) s.stack then
        impliedEnds impliedEndNames
        unstack id
    | none => pure ()

/-- An end tag in the body. -/
def bodyEnd (tag : Tag) : Construct Progress :=
  match tag.name with
  | "template" => thenDone endTemplate
  | "body" => thenDone do
    if ← hasInScope endsScope (·.is "body") then setMode .afterBody
  | "html" => do
    if ← hasInScope endsScope (·.is "body") then againIn .afterBody else return .done
  | "button" | "listing" | "pre" => thenDone (closeInScope endsScope tag.name)
  | "form" => thenDone endForm
  | "p" => thenDone do
    if !(← hasInScope endsButtonScope (·.is "p")) then discard (openImplied "p")
    close "p"
  | "li" => thenDone do
    if ← hasInScope endsListScope (·.is "li") then close "li"
  | "dd" | "dt" => thenDone do
    if ← hasInScope endsScope (·.is tag.name) then close tag.name
  | "h1" | "h2" | "h3" | "h4" | "h5" | "h6" => thenDone do
    if ← hasInScope endsScope (·.isAny headings) then
      impliedEnds impliedEndNames
      popThrough (·.isAny headings)
  | "a" | "nobr" => thenDone (closeFormatting tag.name)
  | "applet" | "marquee" | "object" => thenDone do
    if ← hasInScope endsScope (·.is tag.name) then
      closeInScope endsScope tag.name
      clearFormatting
  | "br" => thenDone (putInline { name := "br" })
  | name =>
    if blockNames.contains name then thenDone (closeInScope endsScope name)
    else if formattingNames.contains name then thenDone (closeFormatting name)
    else thenDone (closeAny name)

/-- In the body. -/
def inBody : Piece → Construct Progress
  | .nul => return .done
  | .blank cs => thenDone (bodyText cs)
  | .text cs => thenDone do
    bodyText cs
    forbidFrameset
  | .comment text => thenDone (putComment text)
  | .startTag tag => bodyStart tag
  | .endTag tag => bodyEnd tag
  | .finish => do if (← get).templateModes.isEmpty then return .done else finishTemplates

end ReleaseListing.Html.Construct
