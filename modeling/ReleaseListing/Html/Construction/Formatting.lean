import ReleaseListing.Html.Construction

/-!
# Formatting elements

Formatting elements may overlap with blocks: what is open when a block ends is opened again behind
it, and an end tag inside a block splits the element in two.
-/

namespace ReleaseListing.Html.Construct

/-- The formatting entries since the last marker, latest first. -/
def recentFormatting (formatting : List Formatting) : List (OpenElement × Tag) :=
  match formatting with
  | .element e tag :: earlier => (e, tag) :: recentFormatting earlier
  | _ => []

/-- Drops the entry of the element with the number. -/
def unformat (id : Nat) : Construct Unit :=
  modify fun s => { s with formatting := s.formatting.eraseP (·.isOf id) }

/-- Drops the entries since the last marker, and the marker. -/
def clearFormatting : Construct Unit :=
  modify fun s =>
    { s with formatting := s.formatting.drop ((recentFormatting s.formatting).length + 1) }

def pushMarker : Construct Unit := modify fun s => { s with formatting := .marker :: s.formatting }

/-- Opens formatting elements again that a block has closed. -/
def reopenFormatting : Construct Unit := do
  let s ← get
  let closed := s.formatting.takeWhile fun
    | .marker => false
    | .element e _ => !s.stack.any (·.id == e.id)
  let mut entries := s.formatting.drop closed.length
  for entry in closed.reverse do
    match entry with
    | .marker => pure ()
    | .element _ tag =>
      let e ← openElement tag
      entries := .element e tag :: entries
  modify fun s => { s with formatting := entries }

/-- Whether two tags have the same name and the same attributes. -/
def sameFormatting (a b : Tag) : Bool :=
  a.name == b.name && a.attributes.isPerm b.attributes

/-- Opens a formatting element. Of equal ones since the last marker only three are kept. -/
def openFormatting (tag : Tag) : Construct Unit := do
  let s ← get
  let equal := (recentFormatting s.formatting).filter (sameFormatting tag ·.2)
  if 3 ≤ equal.length then
    match equal.getLast? with
    | some (e, _) => unformat e.id
    | none => pure ()
  let e ← openElement tag
  modify fun s => { s with formatting := .element e tag :: s.formatting }

/-- Lets an end tag close the innermost HTML element of its name, unless a special element lies in
between. -/
def closeAny (name : String) : Construct Unit := do
  let found := (← get).stack.find? fun e => e.is name || e.isAny specialNames
  match found with
  | some e =>
    if e.is name then
      impliedEndsExcept name
      popThrough (·.id == e.id)
  | none => pure ()

/-! ## Splitting a formatting element -/

/-- Splits at the last element that satisfies `p`. -/
def splitAtLast? (p : OpenElement → Bool) :
    List OpenElement → Option (List OpenElement × OpenElement × List OpenElement)
  | [] => none
  | e :: es =>
    match splitAtLast? p es with
    | some (before, last, behind) => some (e :: before, last, behind)
    | none => if p e then some ([], e, es) else none

/-- The elements between a formatting element and the block that it overlaps, as they are copied
around the block. -/
structure Copies where
  /-- How many elements have been looked at. -/
  seen : Nat := 0
  /-- The tree of the block inside the copies so far. -/
  tree : Forest
  /-- The copies, innermost first. -/
  opened : List OpenElement := []

/-- Copies an element around the tree. Elements that do not format text, and all beyond the
third, are no longer open. -/
def Copies.add (c : Copies) (e : OpenElement) : Construct Copies := do
  let seen := c.seen + 1
  let entry := (← get).formatting.find? (·.isOf e.id)
  match entry with
  | some (.element _ tag) =>
    if 3 < seen then
      unformat e.id
      return { c with seen }
    else
      let id ← freshId
      let copy : OpenElement := { id, name := tag.name }
      let renewed (f : Formatting) : Formatting := if f.isOf e.id then .element copy tag else f
      modify fun s => { s with formatting := s.formatting.map renewed }
      return { seen
               tree := .single id (.element .html tag.name tag.attributes) c.tree
               opened := c.opened ++ [copy] }
  | _ => return { c with seen }

/-- Splits the formatting element `e` around the block that it overlaps: `inner` holds the open
elements inside of the block, `between` those between block and `e`, `outer` those around `e`. -/
def splitAround (e : OpenElement) (tag : Tag) (inner : List OpenElement) (block : OpenElement)
    (between outer : List OpenElement) : Construct Unit := do
  match (← get).children.extract? block.id with
  | none => pure ()
  | some (tree, rest) =>
    modify fun s => { s with children := rest }
    let copies ← between.foldlM Copies.add { tree : Copies }
    match outer.head? with
    | some ancestor => put copies.tree (← placeIn ancestor)
    | none => put copies.tree (.lastIn 0)
    let id ← freshId
    let renewed : OpenElement := { id, name := tag.name }
    let around (c : Content) (children : Forest) : Content × Forest :=
      (c, .single id (.element .html tag.name tag.attributes) children)
    let entry := Formatting.element renewed tag
    let placed (formatting : List Formatting) : List Formatting :=
      match copies.opened.head? with
      | none => formatting.map fun f => if f.isOf e.id then entry else f
      | some copy =>
        (formatting.filter (!·.isOf e.id)).flatMap fun f =>
          if f.isOf copy.id then [entry, f] else [f]
    modify fun s =>
      { s with
        children := (s.children.update? block.id around).getD s.children
        formatting := placed s.formatting
        stack := inner ++ renewed :: block :: copies.opened ++ outer }

/-- Lets an end tag close a formatting element once, splitting it around a block that it overlaps.
Says whether there may be more to close. -/
def closeFormattingOnce (name : String) : Construct Bool := do
  let s ← get
  match (recentFormatting s.formatting).find? (·.2.name == name) with
  | none =>
    closeAny name
    return false
  | some (e, tag) =>
    let inner := s.stack.takeWhile (·.id != e.id)
    match s.stack.drop inner.length with
    | [] =>
      unformat e.id
      return false
    | _ :: outer =>
      if !inScope endsScope (·.id == e.id) s.stack then return false
      match splitAtLast? (·.isAny specialNames) inner with
      | none =>
        modify fun s => { s with stack := outer }
        unformat e.id
        return false
      | some (inner, block, between) =>
        splitAround e tag inner block between outer
        return true

/-- Closes a formatting element, as often as it is split, up to `times`. -/
def closeFormattingUpTo (name : String) : (times : Nat) → Construct Unit
  | 0 => pure ()
  | times + 1 => do
    if ← closeFormattingOnce name then closeFormattingUpTo name times

/-- Lets an end tag close a formatting element. -/
def closeFormatting (name : String) : Construct Unit := do
  let s ← get
  match s.stack with
  | e :: outer =>
    if e.is name && !s.formatting.any (·.isOf e.id) then set { s with stack := outer }
    else closeFormattingUpTo name 8
  | [] => closeFormattingUpTo name 8

/-- Closes a link that is open, because links do not nest. -/
def closeLink : Construct Unit := do
  match (recentFormatting (← get).formatting).find? (·.1.is "a") with
  | some (e, _) =>
    closeFormatting "a"
    unformat e.id
    unstack e.id
  | none => pure ()

end ReleaseListing.Html.Construct
