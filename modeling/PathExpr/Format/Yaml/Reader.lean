import PathExpr.Format.Yaml.Atom
import PathExpr.Format.Yaml.Node
import PathExpr.Value.Knot

/-!
# Reading YAML

The values of nodes are made from the root on.  A node is made once, whatever the
number of places that hold it: an atom at once, a collection as an empty one that
waits for its contents.  Collections are filled in the order in which they were
made, and what a collection holds is made when it is filled.
-/

namespace PathExpr.Format.Yaml

/-- What a node has been made into. -/
inductive Made where
  /-- An atom, and the node that it was made for; all words for no number are one atom. -/
  | atom (a : Atom) (node : Option Nat)
  /-- A collection, which has the number of its node. -/
  | part
  deriving Inhabited

/-- The construction of a document's value. -/
structure Building where
  graph : Graph
  made : List (Nat × Made)
  /-- The collections that are not filled yet. -/
  waiting : List Nat
  /-- The collections that are filled. -/
  parts : List (Nat × Part)

/-- A step of a construction. -/
abbrev Construction := StateT Building Reading

/-- Refuses the document. -/
def reject {α : Type} : Construction α := fun _ => malformed

/-- A node by its number. -/
def nodeAt (number : Nat) : Construction Node := do
  match (← get).graph[number]? with
  | some node => return node
  | none => reject

/-- Changes a node. -/
def changeNode (number : Nat) (change : Node → Node) : Construction Unit :=
  modify fun state => { state with graph := state.graph.modify number change }

/-! ## Merged mappings -/

/-- The entries of a mapping. -/
def entriesAt (number : Nat) : Construction (List (Nat × Nat)) := do
  match (← nodeAt number).content with
  | .mapping entries => return entries
  | _ => reject

/-- The entries that a merge key takes over, each of the mappings there being flattened first. -/
def takenOver (flatten : Nat → Construction Unit) (source : Nat) :
    Construction (List (Nat × Nat)) := do
  match (← nodeAt source).content with
  | .mapping _ => do
    flatten source
    entriesAt source
  | .sequence items => do
    let taken ← items.mapM fun item => do
      let _ ← entriesAt item
      flatten item
      entriesAt item
    return taken.reverse.flatten
  | .scalar _ => reject

/--
Goes through the entries of a mapping, of which it has `kept` some, and takes out
the merge keys, giving what they take over.  A key of the type of plain values
becomes a text.  A mapping that takes over from itself is flattened meanwhile, and
nothing is left to be done then.
-/
def takeMerges (flatten : Nat → Construction Unit) (number : Nat) :
    (kept : List (Nat × Nat)) → List (Nat × Nat) → Construction (List (Nat × Nat))
  | _, [] => return []
  | kept, (key, value) :: rest => do
    match (← nodeAt key).tag with
    | .merge => do
      let left := kept ++ rest
      changeNode number fun node => { node with content := .mapping left }
      let front ← takenOver flatten value
      if (← entriesAt number) = left then
        return front ++ (← takeMerges flatten number kept rest)
      else return front
    | .value => do
      changeNode key fun node => { node with tag := .str }
      takeMerges flatten number (kept ++ [(key, value)]) rest
    | _ => takeMerges flatten number (kept ++ [(key, value)]) rest

/--
Puts the entries that a mapping takes over in front of its own.  A merge key is
taken out before its mappings are flattened, so that the flattenings inside each
other are no more than there are merge keys.
-/
def flatten : (bound : Nat) → Nat → Construction Unit
  | 0, _ => reject
  | bound + 1, number => do
    let front ← takeMerges (flatten bound) number [] (← entriesAt number)
    if front.isEmpty then return ()
    else do
      let own ← entriesAt number
      changeNode number fun node => { node with content := .mapping (front ++ own) }

/-- The number of entries of a node. -/
def Node.width (node : Node) : Nat :=
  match node.content with
  | .mapping entries => entries.length
  | _ => 0

/-- The entries of a mapping after its merge keys have been followed. -/
def flatEntries (number : Nat) : Construction (List (Nat × Nat)) := do
  let bound := (← get).graph.foldl (fun total node => total + node.width) 0
  flatten (bound + 1) number
  entriesAt number

/-! ## Atoms -/

/--
The text of a scalar, or of the scalar that a mapping holds as its plain value, on
a way through the given nodes.  Mappings that hold each other so have no text, and
the stack runs out on the way.
-/
def plainText (graph : Graph) (way : List Nat) (number : Nat) : Reading String :=
  match found : graph[number]? with
  | some ⟨_, .scalar text⟩ => .ok text
  | some ⟨_, .mapping entries⟩ =>
    let isPlain := fun (entry : Nat × Nat) =>
      (graph[entry.1]?.map Node.tag) == some .value
    match entries.find? isPlain with
    | none => malformed
    | some (_, inner) =>
      if met : way.contains number then failWith (.tooDeep .plainValue)
      else
        have : unmet (List.range graph.length) (number :: way) <
            unmet (List.range graph.length) way :=
          unmet_cons_lt (List.mem_range.mpr (List.getElem?_eq_some_iff.mp found).1)
            (Bool.eq_false_iff.mpr met)
        plainText graph (number :: way) inner
  | _ => malformed
termination_by unmet (List.range graph.length) way

/-- The atom that a node stands for; a moment is looked for in the node's own text. -/
def atomAt (graph : Graph) (number : Nat) (node : Node) : Reading Made := do
  let text ← plainText graph [] number
  match node.tag, node.content with
  | .timestamp, .mapping _ => failWith (.notText "list")
  | tag, _ => do
    let a ← atomOf tag text
    return .atom a (if tag == .float && isNoNumber text then none else some number)

/-- Whether a value of the type is an atom. -/
def Tag.isAtom : Tag → Bool
  | .null => true
  | .bool => true
  | .int => true
  | .float => true
  | .binary => true
  | .timestamp => true
  | .str => true
  | _ => false

/-- Whether a value of the type has parts. -/
def Tag.isCollection : Tag → Bool
  | .seq => true
  | .map => true
  | .set => true
  | .omap => true
  | .pairs => true
  | _ => false

/-! ## Collections -/

/-- Makes a node, unless it has been made. -/
def make (number : Nat) : Construction Made := do
  let state ← get
  match state.made.lookup number with
  | some made => return made
  | none => do
    let node ← nodeAt number
    if node.tag.isCollection then do
      set { state with
        made := (number, .part) :: state.made
        waiting := state.waiting ++ [number] }
      return .part
    else if node.tag.isAtom then do
      let made ← atomAt state.graph number node
      set { state with made := (number, made) :: state.made }
      return made
    else reject

/-- Makes a node for a place in a collection. -/
def makeLink (number : Nat) : Construction Link := do
  match ← make number with
  | .atom a _ => return .atom a
  | .part => return .part number

/-- A key of a mapping: an atom, and the node that it was made for. -/
structure Key where
  atom : Atom
  node : Option Nat

/-- Whether two keys are one. -/
def Key.same (key other : Key) : Bool :=
  key.node == other.node || Value.sameKey key.atom.value other.atom.value

/-- Binds a key: its old place is kept and a new key comes last. -/
def bindKey (key : Key) (value : Link) : List (Key × Link) → List (Key × Link)
  | [] => [(key, value)]
  | (other, old) :: rest =>
    if other.same key then (other, value) :: rest else (other, old) :: bindKey key value rest

/-- Makes the entries of a mapping behind those that are bound; a key has no parts. -/
def makeEntries : (bound : List (Key × Link)) → List (Nat × Nat) →
    Construction (List (Key × Link))
  | bound, [] => return bound
  | bound, (key, value) :: rest => do
    match ← make key with
    | .part => reject
    | .atom a node => do
      let link ← makeLink value
      makeEntries (bindKey ⟨a, node⟩ link bound) rest

/-- Makes the pair of a mapping with one entry. -/
def makePair (number : Nat) : Construction (Link × Link) := do
  match ← entriesAt number with
  | [(key, value)] => do
    let key ← makeLink key
    let value ← makeLink value
    return (key, value)
  | _ => reject

/-- The contents of a collection. -/
def partAt (number : Nat) : Construction Part := do
  let node ← nodeAt number
  match node.tag, node.content with
  | .seq, .sequence items => return .list (← items.mapM makeLink)
  | .map, .mapping _ => do
    let entries ← makeEntries [] (← flatEntries number)
    return .map (entries.map fun entry => (entry.1.atom, entry.2))
  | .set, .mapping _ => do
    let entries ← makeEntries [] (← flatEntries number)
    return .set (entries.map fun entry => entry.1.atom)
  | .omap, .sequence items => return .pairs (← items.mapM makePair)
  | .pairs, .sequence items => return .pairs (← items.mapM makePair)
  | _, _ => reject

/-- Fills the collections that wait; each node waits once at most. -/
def fillAll : (bound : Nat) → Construction Unit
  | 0 => reject
  | bound + 1 => do
    let state ← get
    match state.waiting with
    | [] => return ()
    | number :: rest => do
      set { state with waiting := rest }
      let part ← partAt number
      modify fun state => { state with parts := (number, part) :: state.parts }
      fillAll bound

/-- The value of a graph of nodes with the given root. -/
def graphValue (root : Nat) (graph : Graph) : Reading Value := do
  let construction : Construction Link := do
    let link ← makeLink root
    fillAll (graph.length + 1)
    return link
  let (link, state) ← construction.run ⟨graph, [], [], []⟩
  return Value.ofParts state.parts link

/-- The value of a YAML document; an empty text is nothing. -/
def read (s : String) : Reading Value := do
  let cs := s.toList
  if !cs.all isAllowed then malformed
  else
    match ← graphOf? cs with
    | none => return .null
    | some (root, graph) => graphValue root graph

end PathExpr.Format.Yaml
