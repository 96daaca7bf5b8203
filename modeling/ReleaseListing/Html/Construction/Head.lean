import ReleaseListing.Html.Construction.Formatting

/-!
# From the start of a page to its body
-/

namespace ReleaseListing.Html.Construct

/-- The tags that let missing parts of the page begin, other than start tags. -/
def endsMissing (name : String) : Bool := ["head", "body", "html", "br"].contains name

/-- A start tag of `html` behind the first adds the attributes that are missing. -/
def mergeHtml (tag : Tag) : Construct Progress := do
  if !(← hasOpen (·.is "template")) then addMissing 0 tag.attributes
  return .done

/-- Lets the element `html` begin. -/
def beginHtml (attributes : List Attribute) : Construct Unit :=
  modify fun s =>
    { s with attributes, stack := [{ id := 0, name := "html" }], mode := .beforeHead }

/-- In front of the document type. -/
def initial : Piece → Construct Progress
  | .blank _ => return .done
  | .comment text => thenDone (putCommentOutside text)
  | _ => againIn .beforeHtml

/-- In front of `html`. -/
def beforeHtml : Piece → Construct Progress
  | .blank _ => return .done
  | .comment text => thenDone (putCommentOutside text)
  | .startTag tag => do
    if tag.name == "html" then thenDone (beginHtml tag.attributes)
    else
      beginHtml []
      return .again
  | .endTag tag => do
    if endsMissing tag.name then
      beginHtml []
      return .again
    else return .done
  | _ => do
    beginHtml []
    return .again

/-- Lets the head begin. -/
def beginHead (tag : Tag) : Construct Unit := do
  let head ← openElement tag
  modify fun s => { s with head := some head, mode := .inHead }

/-- In front of the head. -/
def beforeHead : Piece → Construct Progress
  | .blank _ => return .done
  | .comment text => thenDone (putComment text)
  | .startTag tag => do
    match tag.name with
    | "html" => mergeHtml tag
    | "head" => thenDone (beginHead tag)
    | _ =>
      beginHead { name := "head" }
      return .again
  | .endTag tag => do
    if endsMissing tag.name then
      beginHead { name := "head" }
      return .again
    else return .done
  | _ => do
    beginHead { name := "head" }
    return .again

/-- Lets a template begin. -/
def beginTemplate (tag : Tag) : Construct Unit := do
  discard (openElement tag)
  pushMarker
  modify fun s =>
    { s with
      framesetAllowed := false
      mode := .inTemplate
      templateModes := .inTemplate :: s.templateModes }

/-- Closes a template, and all that is open in it. -/
def endTemplate : Construct Unit := do
  if ← hasOpen (·.is "template") then
    impliedEnds (impliedEndNames ++ tablePartNames.filter (· != "col"))
    popThrough (·.is "template")
    clearFormatting
    modify fun s => { s with templateModes := s.templateModes.drop 1 }
    resetMode

/-- A start tag that belongs into the head; `otherwise` if it does not. -/
def headStart (tag : Tag) (otherwise : Construct Progress) : Construct Progress :=
  match tag.name with
  | "base" | "basefont" | "bgsound" | "link" | "meta" => thenDone (putVoid tag)
  | "title" => thenDone (openText tag (.escapable tag.name))
  | "noframes" | "style" => thenDone (openText tag (.raw tag.name))
  | "script" => thenDone (openText tag .script)
  | "template" => thenDone (beginTemplate tag)
  | _ => otherwise

/-- A start tag that belongs into the head. -/
def headElement (tag : Tag) : Construct Progress := headStart tag (return .done)

/-- In the head. -/
def inHead (piece : Piece) : Construct Progress :=
  let leave : Construct Progress := do
    pop
    againIn .afterHead
  match piece with
  | .blank cs => thenDone (putText cs)
  | .comment text => thenDone (putComment text)
  | .startTag tag =>
    match tag.name with
    | "html" => mergeHtml tag
    | "head" => return .done
    | "noscript" => thenDone (openText tag (.raw tag.name))
    | _ => headStart tag leave
  | .endTag tag =>
    match tag.name with
    | "head" => thenDone do
      pop
      setMode .afterHead
    | "body" | "html" | "br" => leave
    | "template" => thenDone endTemplate
    | _ => return .done
  | _ => leave

/-- Between head and body. -/
def afterHead (piece : Piece) : Construct Progress :=
  let beginBody : Construct Progress := do
    discard (openImplied "body")
    againIn .inBody
  match piece with
  | .blank cs => thenDone (putText cs)
  | .comment text => thenDone (putComment text)
  | .startTag tag =>
    match tag.name with
    | "html" => mergeHtml tag
    | "body" => thenDone do
      discard (openElement tag)
      forbidFrameset
      setMode .inBody
    | "frameset" => thenDone do
      discard (openElement tag)
      setMode .inFrameset
    | "head" => return .done
    | name => do
      if headNames.contains name then
        match (← get).head with
        | some head =>
          push head
          let progress ← headElement tag
          unstack head.id
          return progress
        | none => return .done
      else beginBody
  | .endTag tag =>
    match tag.name with
    | "body" | "html" | "br" => beginBody
    | "template" => thenDone endTemplate
    | _ => return .done
  | _ => beginBody

end ReleaseListing.Html.Construct
