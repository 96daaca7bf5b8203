import ReleaseListing.Html.Doctype
import ReleaseListing.Html.Foreign
import ReleaseListing.Html.Token.Lexer

/-!
# A page under construction

The tree so far, the elements that are open, and what decides where the next token goes. The
element `html` has the number 0; its attributes and the forest of its children stand apart from
each other, and what lies before and behind it is kept in two lists.
-/

namespace ReleaseListing.Html

/-- The part of the page that the next token belongs to. -/
inductive Mode where
  | initial
  | beforeHtml
  | beforeHead
  | inHead
  | afterHead
  | inBody
  /-- In an element that holds nothing but text. -/
  | inText
  | inTable
  /-- In text between the parts of a table. -/
  | inTableText
  | inCaption
  | inColumnGroup
  | inTableBody
  | inRow
  | inCell
  | inSelect
  | inSelectInTable
  | inTemplate
  | afterBody
  | inFrameset
  | afterFrameset
  | afterAfterBody
  | afterAfterFrameset
  deriving DecidableEq, Repr

/-- A formatting element that may have to be opened again, or the start of a part of the page that
nothing is opened again across. -/
inductive Formatting where
  | marker
  | element (e : OpenElement) (tag : Tag)
  deriving Repr

/-- Whether this is the entry of the element with the number. -/
def Formatting.isOf (id : Nat) : Formatting → Bool
  | .marker => false
  | .element e _ => e.id == id

/-- What the construction takes at a time: text comes in runs of one kind. -/
inductive Piece where
  | startTag (tag : Tag)
  | endTag (tag : Tag)
  | comment (text : String)
  | nul
  | blank (cs : List Char)
  | text (cs : List Char)
  /-- The end of the page. -/
  | finish

/-- What may stand next to `html`. -/
inductive Outside where
  | comment (text : String)
  | doctype (name : String)
  deriving DecidableEq, Repr

/-- The content of the node that it becomes. -/
def Outside.content : Outside → Content
  | .comment text => .comment text
  | .doctype name => .doctype name

/-- A page under construction. -/
structure Construction where
  /-- Nodes in front of `html`, latest first. -/
  prolog : List Outside := []
  /-- The attributes of `html`. -/
  attributes : List Attribute := []
  /-- The children of `html`. -/
  children : Forest := .nil
  /-- Nodes behind `html`, latest first. -/
  epilog : List Outside := []
  nextId : Nat := 1
  /-- Open elements, innermost first. -/
  stack : List OpenElement := []
  /-- Formatting elements, latest first. -/
  formatting : List Formatting := []
  mode : Mode := .initial
  /-- The mode to go back to behind text. -/
  interrupted : Mode := .initial
  /-- The modes of the open templates, innermost first. -/
  templateModes : List Mode := []
  head : Option OpenElement := none
  form : Option Nat := none
  /-- Whether the body may still give way to a frameset. -/
  framesetAllowed : Bool := true
  /-- Set while what has no place in a table is put in front of it. -/
  fostering : Bool := false
  /-- Set behind a tag that a line feed may follow without meaning. -/
  dropsLineFeed : Bool := false
  /-- Whether a table may stand in a paragraph. -/
  tableInParagraph : Bool := true
  /-- Text between the parts of a table, latest first. -/
  tableText : List Piece := []
  lexing : Lexing := .data

/-- A step of a construction. -/
abbrev Construct := StateM Construction

/-- Whether a piece has been used up or has to be looked at again. -/
inductive Progress where
  | done
  | again

namespace Construct

/-! ## Open elements -/

def current? : Construct (Option OpenElement) := do return (← get).stack.head?

/-- Whether the current element satisfies `p`. -/
def currentIs (p : OpenElement → Bool) : Construct Bool := do return (← get).stack.head?.any p

/-- Whether an open element in scope satisfies `p`. -/
def hasInScope (boundary p : OpenElement → Bool) : Construct Bool := do
  return inScope boundary p (← get).stack

/-- Whether some open element satisfies `p`. -/
def hasOpen (p : OpenElement → Bool) : Construct Bool := do return (← get).stack.any p

def pop : Construct Unit := modify fun s => { s with stack := s.stack.drop 1 }

def push (e : OpenElement) : Construct Unit := modify fun s => { s with stack := e :: s.stack }

/-- Closes open elements through the innermost one that satisfies `p`. -/
def popThrough (p : OpenElement → Bool) : Construct Unit :=
  modify fun s => { s with stack := closedThrough p s.stack }

/-- Closes open elements until one that satisfies `p` is current. -/
def popUntil (p : OpenElement → Bool) : Construct Unit :=
  modify fun s => { s with stack := s.stack.dropWhile (!p ·) }

/-- Closes elements whose end may be left out. -/
def impliedEnds (names : List String) : Construct Unit := popUntil (!·.isAny names)

/-- Closes elements whose end may be left out, other than those of the name. -/
def impliedEndsExcept (name : String) : Construct Unit :=
  impliedEnds (impliedEndNames.filter (· != name))

/-- Takes an element out of the open ones, wherever it stands. -/
def unstack (id : Nat) : Construct Unit :=
  modify fun s => { s with stack := s.stack.eraseP (·.id == id) }

/-- Closes the element of the name, and before that elements whose end may be left out. -/
def close (name : String) : Construct Unit := do
  impliedEndsExcept name
  popThrough (·.is name)

/-- Closes a paragraph that is open in the scope of buttons. -/
def closeParagraph : Construct Unit := do
  if ← hasInScope endsButtonScope (·.is "p") then close "p"

/-! ## Placing nodes -/

/-- Where a node goes. -/
inductive Place where
  /-- Behind the children of a node. -/
  | lastIn (id : Nat)
  /-- In front of a node, or, if that is nowhere, behind the children of another. -/
  | before (id orLastIn : Nat)

/-- Where what belongs into `target` goes. -/
def placeIn (target : OpenElement) : Construct Place := do
  let s ← get
  if s.fostering && target.isAny fosteringNames then
    match s.stack.dropWhile fun e => !e.isAny ["template", "table"] with
    | e :: above =>
      if e.is "template" then return .lastIn e.contentsId
      else return .before e.id ((above.head?.map (·.id)).getD 0)
    | [] => return .lastIn 0
  else return .lastIn target.contentsId

/-- Where the next node goes. -/
def place : Construct Place := do
  match ← current? with
  | some e => placeIn e
  | none => return .lastIn 0

/-- Puts trees behind the children of a node. -/
def putLastIn (id : Nat) (trees : Forest) : Construct Unit :=
  modify fun s =>
    { s with
      children :=
        if id == 0 then s.children ++ trees
        else
          (s.children.update? id fun c children => (c, children ++ trees)).getD s.children }

/-- Puts trees at a place. -/
def put (trees : Forest) : Place → Construct Unit
  | .lastIn id => putLastIn id trees
  | .before id fallback => do
    match Forest.insertBefore? id trees (← get).children with
    | some children => modify fun s => { s with children }
    | none => putLastIn fallback trees

/-- Two numbers that no node has, the second for the contents of a template. -/
def freshId : Construct Nat := do
  let s ← get
  set { s with nextId := s.nextId + 2 }
  return s.nextId

/-- Puts text at the next place, joined to text in front of it. -/
def putText (cs : List Char) : Construct Unit := do
  let new ← freshId
  let lastIn (id : Nat) : Construct Unit :=
    modify fun s =>
      { s with
        children :=
          if id == 0 then s.children.appendText new cs
          else
            (s.children.update? id fun c children => (c, children.appendText new cs)).getD
              s.children }
  match ← place with
  | .lastIn id => lastIn id
  | .before id fallback =>
    match (← get).children.insertTextBefore? id new cs with
    | some children => modify fun s => { s with children }
    | none => lastIn fallback

/-- Puts a comment at the next place. -/
def putComment (text : String) : Construct Unit := do
  put (.single (← freshId) (.comment text) .nil) (← place)

/-- Puts a comment behind the children of `html`. -/
def putCommentInHtml (text : String) : Construct Unit := do
  putLastIn 0 (.single (← freshId) (.comment text) .nil)

/-- Puts a comment behind everything. -/
def putCommentOutside (text : String) : Construct Unit :=
  modify fun s =>
    if s.stack.isEmpty then { s with prolog := .comment text :: s.prolog }
    else { s with epilog := .comment text :: s.epilog }

/-! ## Elements -/

/-- The tree of an element, with a node for the contents of a template. -/
def elementTree (id : Nat) (space : Space) (tag : Tag) : Forest :=
  .single id (.element space tag.name tag.attributes)
    (if space == .html && tag.name == "template" then .single (id + 1) .fragment .nil else .nil)

/-- Puts an element at the next place. -/
def putElement (space : Space) (tag : Tag) : Construct OpenElement := do
  let id ← freshId
  put (elementTree id space tag) (← place)
  return { id, space, name := tag.name }

/-- Puts an HTML element at the next place and leaves it open. -/
def openElement (tag : Tag) : Construct OpenElement := do
  let e ← putElement .html tag
  push e
  return e

/-- Puts an HTML element that holds nothing. -/
def putVoid (tag : Tag) : Construct Unit := discard (putElement .html tag)

/-- Puts an HTML element that no tag stands for and leaves it open. -/
def openImplied (name : String) : Construct OpenElement := openElement { name }

/-- Opens an element that holds nothing but text. -/
def openText (tag : Tag) (lexing : Lexing) : Construct Unit := do
  discard (openElement tag)
  modify fun s => { s with interrupted := s.mode, mode := .inText, lexing }

/-- Gives the element with the number those attributes that it lacks. -/
def addMissing (id : Nat) (attributes : List Attribute) : Construct Unit :=
  let missing (present : List Attribute) : List Attribute :=
    present ++
      attributes.filter fun a => !present.any fun b => b.space == a.space && b.name == a.name
  modify fun s =>
    if id == 0 then { s with attributes := missing s.attributes }
    else
      let added (c : Content) (children : Forest) : Content × Forest :=
        match c with
        | .element space name attributes => (.element space name (missing attributes), children)
        | c => (c, children)
      { s with children := (s.children.update? id added).getD s.children }

def setMode (mode : Mode) : Construct Unit := modify fun s => { s with mode }

def forbidFrameset : Construct Unit := modify fun s => { s with framesetAllowed := false }

/-- Goes on with the piece in another mode. -/
def againIn (mode : Mode) : Construct Progress := do
  setMode mode
  return .again

/-- Lets an action go on; the piece is used up. -/
def thenDone (action : Construct Unit) : Construct Progress := do
  action
  return .done

/-- The mode that the open elements call for. -/
def modeOf (s : Construction) : List OpenElement → Mode
  | [] => .inBody
  | e :: outer =>
    let isLast := outer.isEmpty
    if e.space != .html then modeOf s outer
    else
      match e.name with
      | "select" =>
        match outer.find? (·.isAny ["template", "table"]) with
        | some o => if o.is "table" then .inSelectInTable else .inSelect
        | none => .inSelect
      | "td" | "th" => if isLast then modeOf s outer else .inCell
      | "tr" => .inRow
      | "tbody" | "thead" | "tfoot" => .inTableBody
      | "caption" => .inCaption
      | "colgroup" => .inColumnGroup
      | "table" => .inTable
      | "template" => s.templateModes.headD .inTemplate
      | "head" => if isLast then modeOf s outer else .inHead
      | "body" => .inBody
      | "frameset" => .inFrameset
      | "html" => if s.head.isNone then .beforeHead else .afterHead
      | _ => modeOf s outer

/-- Goes back to the mode that the open elements call for. -/
def resetMode : Construct Unit := modify fun s => { s with mode := modeOf s s.stack }

end Construct

end ReleaseListing.Html
