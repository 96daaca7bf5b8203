import ReleaseListing.Html.Token

/-!
# Trees of nodes

A forest is a list of sibling trees. Every node has a number, by which the operations find it;
they look at later siblings first, because a page grows at its end. An operation that does not
find its node says so.
-/

namespace ReleaseListing.Html

/-- The vocabularies that elements come from. -/
inductive Space where
  | html
  | svg
  | mathml
  deriving DecidableEq, Repr

/-- What a node is. -/
inductive Content where
  | text (cs : List Char)
  | comment (text : String)
  | doctype (name : String)
  | element (space : Space) (name : String) (attributes : List Attribute)
  /-- Holds what stands in a template. -/
  | fragment
  deriving DecidableEq, Repr

/-- Whether a node is an element. -/
def Content.isElement : Content → Bool
  | .element .. => true
  | _ => false

/-- Sibling trees: a first node with its children, and the siblings that follow it. -/
inductive Forest where
  | nil
  | node (id : Nat) (content : Content) (children next : Forest)
  deriving DecidableEq, Repr

namespace Forest

/-- The siblings of one forest and then those of another. -/
def append : Forest → Forest → Forest
  | nil, g => g
  | node i c children next, g => node i c children (append next g)

instance : Append Forest := ⟨append⟩

/-- A tree without siblings. -/
def single (id : Nat) (content : Content) (children : Forest) : Forest :=
  node id content children nil

/-- The numbers of all nodes, in the order in which they start on the page. -/
def ids : Forest → List Nat
  | nil => []
  | node i _ children next => i :: (ids children ++ ids next)

/-- The numbers given out anew, in the order in which the nodes start on the page, from `n` on;
also the first number that is left. -/
def renumber (n : Nat) : Forest → Forest × Nat
  | nil => (nil, n)
  | node _ c children next =>
    let inner := renumber (n + 1) children
    let later := renumber inner.2 next
    (node n c inner.1 later.1, later.2)

/-! ## Growing a page -/

/-- Puts `f content children` for the node with the given number. -/
def update? (id : Nat) (f : Content → Forest → Content × Forest) : Forest → Option Forest
  | nil => none
  | node i c children next =>
    match update? id f next with
    | some next => some (node i c children next)
    | none =>
      if i == id then
        let (c, children) := f c children
        some (node i c children next)
      else (update? id f children).map fun children => node i c children next

/-- Puts text at the end, joined to text that stands there; new text takes the number given. -/
def appendText (id : Nat) (cs : List Char) : Forest → Forest
  | nil => single id (.text cs) nil
  | node i (.text ds) children nil => node i (.text (ds ++ cs)) children nil
  | node i c children next => node i c children (appendText id cs next)

/-- Puts trees in front of the node with the given number. -/
def insertBefore? (id : Nat) (trees : Forest) : Forest → Option Forest
  | nil => none
  | node i c children next =>
    if i == id then some (trees ++ node i c children next)
    else
      match insertBefore? id trees next with
      | some next => some (node i c children next)
      | none => (insertBefore? id trees children).map fun children => node i c children next

/-- Puts text in front of the node with the given number, joined to text that stands there; new
text takes the number `new`. -/
def insertTextBefore? (id new : Nat) (cs : List Char) : Forest → Option Forest
  | nil => none
  | node i c children next =>
    if i == id then some (node new (.text cs) nil (node i c children next))
    else
      match c, next with
      | .text ds, node j d grandchildren later =>
        if j == id then
          some (node i (.text (ds ++ cs)) children (node j d grandchildren later))
        else (insertTextBefore? id new cs (node j d grandchildren later)).map (node i c children)
      | _, next =>
        match insertTextBefore? id new cs next with
        | some next => some (node i c children next)
        | none =>
          (insertTextBefore? id new cs children).map fun children => node i c children next

/-- Takes the tree of the node with the given number out; also the tree itself. -/
def extract? (id : Nat) : Forest → Option (Forest × Forest)
  | nil => none
  | node i c children next =>
    if i == id then some (single i c children, next)
    else
      match extract? id next with
      | some (tree, next) => some (tree, node i c children next)
      | none =>
        (extract? id children).map fun (tree, children) => (tree, node i c children next)

end Forest

end ReleaseListing.Html
