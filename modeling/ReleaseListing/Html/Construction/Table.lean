import ReleaseListing.Html.Construction.Body

/-!
# In a table

What has no place in a table goes in front of it.
-/

namespace ReleaseListing.Html.Construct

/-- Treats a piece as in the body, in front of the table. -/
def foster (piece : Piece) : Construct Progress := do
  modify fun s => { s with fostering := true }
  let progress ← inBody piece
  modify fun s => { s with fostering := false }
  return progress

/-- Goes on with a piece as text between the parts of a table. -/
def textInTable (piece : Piece) : Construct Progress := do
  if ← currentIs (·.isAny fosteringNames) then
    modify fun s => { s with interrupted := s.mode, mode := .inTableText }
    return .again
  else foster piece

/-- Closes elements until a table, a template or the page is current. -/
def backToTable : Construct Unit := popUntil endsTableScope

/-- Opens an element of a table in a mode of its own. -/
def openIn (mode : Mode) (tag : Tag) : Construct Unit := do
  discard (openElement tag)
  setMode mode

/-- Opens an element of a table that no tag stands for, and goes on in its mode. -/
def impliedIn (mode : Mode) (name : String) : Construct Progress := do
  discard (openImplied name)
  againIn mode

/-- In a table. -/
def inTable (piece : Piece) : Construct Progress :=
  match piece with
  | .nul | .blank _ | .text _ => textInTable piece
  | .comment text => thenDone (putComment text)
  | .startTag tag =>
    match tag.name with
    | "caption" => thenDone do
      backToTable
      pushMarker
      openIn .inCaption tag
    | "colgroup" => thenDone do
      backToTable
      openIn .inColumnGroup tag
    | "col" => do
      backToTable
      impliedIn .inColumnGroup "colgroup"
    | "tbody" | "tfoot" | "thead" => thenDone do
      backToTable
      openIn .inTableBody tag
    | "td" | "th" | "tr" => do
      backToTable
      impliedIn .inTableBody "tbody"
    | "table" => do
      if ← hasInScope endsTableScope (·.is "table") then
        popThrough (·.is "table")
        resetMode
        return .again
      else return .done
    | "style" | "script" | "template" => headElement tag
    | "input" => if isHidden tag then thenDone (putVoid tag) else foster piece
    | "form" => thenDone do
      if (← get).form.isNone && !(← hasOpen (·.is "template")) then
        let e ← putElement .html tag
        modify fun s => { s with form := some e.id }
    | _ => foster piece
  | .endTag tag =>
    match tag.name with
    | "table" => thenDone do
      if ← hasInScope endsTableScope (·.is "table") then
        popThrough (·.is "table")
        resetMode
    | "body" | "html" => return .done
    | "template" => thenDone endTemplate
    | name => if tablePartNames.contains name then return .done else foster piece
  | .finish => inBody .finish

/-- In text between the parts of a table: blank text stays there. -/
def inTableText (piece : Piece) : Construct Progress := do
  match piece with
  | .nul => return .done
  | .blank _ | .text _ => thenDone (modify fun s => { s with tableText := piece :: s.tableText })
  | _ =>
    let pieces := (← get).tableText.reverse
    let isText : Piece → Bool
      | .text _ => true
      | _ => false
    if pieces.any isText then pieces.forM fun p => discard (foster p)
    else
      pieces.forM fun
        | .blank cs => putText cs
        | _ => pure ()
    modify fun s => { s with tableText := [], mode := s.interrupted }
    return .again

/-- In the caption of a table. -/
def inCaption (piece : Piece) : Construct Progress :=
  let endCaption (go : Construct Progress) : Construct Progress := do
    if ← hasInScope endsTableScope (·.is "caption") then
      impliedEnds impliedEndNames
      popThrough (·.is "caption")
      clearFormatting
      setMode .inTable
      go
    else return .done
  match piece with
  | .startTag tag =>
    if tablePartNames.contains tag.name then endCaption (return .again) else inBody piece
  | .endTag tag =>
    match tag.name with
    | "table" => endCaption (return .again)
    | "caption" => endCaption (return .done)
    | "body" | "html" => return .done
    | name => if tablePartNames.contains name then return .done else inBody piece
  | _ => inBody piece

/-- Among the columns of a table. -/
def inColumnGroup (piece : Piece) : Construct Progress :=
  let leave : Construct Progress := do
    if ← currentIs (·.is "colgroup") then
      pop
      againIn .inTable
    else return .done
  match piece with
  | .blank cs => thenDone (putText cs)
  | .comment text => thenDone (putComment text)
  | .startTag tag =>
    match tag.name with
    | "html" => mergeHtml tag
    | "col" => thenDone (putVoid tag)
    | "template" => headElement tag
    | _ => leave
  | .endTag tag =>
    match tag.name with
    | "colgroup" => thenDone do
      if ← currentIs (·.is "colgroup") then
        pop
        setMode .inTable
    | "col" => return .done
    | "template" => thenDone endTemplate
    | _ => leave
  | .finish => inBody .finish
  | _ => leave

/-- Closes elements until a group of rows, a template or the page is current. -/
def backToRowGroup : Construct Unit :=
  popUntil (·.isAny ["tbody", "tfoot", "thead", "template", "html"])

/-- Among the rows of a table. -/
def inTableBody (piece : Piece) : Construct Progress :=
  let leave : Construct Progress := do
    if ← hasInScope endsTableScope (·.isAny ["table", "tbody", "tfoot"]) then
      backToRowGroup
      pop
      againIn .inTable
    else return .done
  match piece with
  | .startTag tag =>
    match tag.name with
    | "tr" => thenDone do
      backToRowGroup
      openIn .inRow tag
    | "th" | "td" => do
      backToRowGroup
      impliedIn .inRow "tr"
    | "caption" | "col" | "colgroup" | "tbody" | "tfoot" | "thead" => leave
    | _ => inTable piece
  | .endTag tag =>
    match tag.name with
    | "tbody" | "tfoot" | "thead" => thenDone do
      if ← hasInScope endsTableScope (·.is tag.name) then
        backToRowGroup
        pop
        setMode .inTable
    | "table" => leave
    | "body" | "caption" | "col" | "colgroup" | "html" | "td" | "th" | "tr" => return .done
    | _ => inTable piece
  | _ => inTable piece

/-- Closes elements until a row, a template or the page is current. -/
def backToRow : Construct Unit := popUntil (·.isAny ["tr", "template", "html"])

/-- In a row of a table. -/
def inRow (piece : Piece) : Construct Progress :=
  let leave : Construct Progress := do
    if ← hasInScope endsTableScope (·.is "tr") then
      backToRow
      pop
      againIn .inTableBody
    else return .done
  match piece with
  | .startTag tag =>
    match tag.name with
    | "th" | "td" => thenDone do
      backToRow
      openIn .inCell tag
      pushMarker
    | "caption" | "col" | "colgroup" | "tbody" | "tfoot" | "thead" | "tr" => leave
    | _ => inTable piece
  | .endTag tag =>
    match tag.name with
    | "tr" => thenDone do
      if ← hasInScope endsTableScope (·.is "tr") then
        backToRow
        pop
        setMode .inTableBody
    | "table" => leave
    | "tbody" | "tfoot" | "thead" => do
      if ← hasInScope endsTableScope (·.is tag.name) then leave else return .done
    | "body" | "caption" | "col" | "colgroup" | "html" | "td" | "th" => return .done
    | _ => inTable piece
  | _ => inTable piece

/-- In a cell of a table. -/
def inCell (piece : Piece) : Construct Progress :=
  let cells := ["td", "th"]
  let leave : Construct Progress := do
    impliedEnds impliedEndNames
    popThrough (·.isAny cells)
    clearFormatting
    againIn .inRow
  match piece with
  | .startTag tag =>
    if tablePartNames.contains tag.name then do
      if ← hasInScope endsTableScope (·.isAny cells) then leave else return .done
    else inBody piece
  | .endTag tag =>
    match tag.name with
    | "td" | "th" => thenDone do
      if ← hasInScope endsTableScope (·.is tag.name) then
        impliedEnds impliedEndNames
        popThrough (·.is tag.name)
        clearFormatting
        setMode .inRow
    | "body" | "caption" | "col" | "colgroup" | "html" => return .done
    | "table" | "tbody" | "tfoot" | "thead" | "tr" => do
      if ← hasInScope endsTableScope (·.is tag.name) then leave else return .done
    | _ => inBody piece
  | _ => inBody piece

end ReleaseListing.Html.Construct
