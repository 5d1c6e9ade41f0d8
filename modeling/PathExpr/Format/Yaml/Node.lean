import PathExpr.Format.Yaml.Scan
import PathExpr.Format.Yaml.Tag

/-!
# From tokens to nodes

A document is a graph of nodes: scalars, sequences and mappings, each with its
type, that hold other nodes by their numbers.  An anchor names the node that it
stands in front of, and an alias is the node so named.  The name is good from the
place on where the node begins, so that a node may hold itself.
-/

namespace PathExpr.Format.Yaml

/-- What a node holds. -/
inductive Content where
  | scalar (text : String)
  | sequence (items : List Nat)
  | mapping (entries : List (Nat × Nat))

/-- A part of a document. -/
structure Node where
  tag : Tag
  content : Content

/-- The nodes of a document; the number of a node is its place. -/
abbrev Graph := List Node

/-- What the reading of nodes carries along. -/
structure NodeState where
  tokens : List Token
  /-- The nodes that have begun. -/
  graph : Graph
  /-- The anchors met so far, with the numbers of their nodes. -/
  anchors : List (String × Nat)
  /-- The handles of tags and what they stand for. -/
  handles : List (String × String)

/-- A step in the reading of nodes. -/
abbrev NodeReading := StateT NodeState Reading

/-- Refuses the document. -/
def refuse {α : Type} : NodeReading α := fun _ => malformed

/-- The next token, which stays; a place that cannot be read is refused here. -/
def nextToken : NodeReading Token := do
  match (← get).tokens with
  | [] => refuse
  | .refused why :: _ => fun _ => .error why
  | token :: _ => return token

/-- Passes over the next token. -/
def dropToken : NodeReading Unit :=
  modify fun state => { state with tokens := state.tokens.drop 1 }

/-- Begins a node, which its anchor names from here on. -/
def place (anchor : Option String) (tag : Tag) (content : Content) : NodeReading Nat := do
  let state ← get
  let number := state.graph.length
  let anchors := match anchor with
    | some name => (name, number) :: state.anchors
    | none => state.anchors
  set { state with graph := state.graph ++ [Node.mk tag content], anchors := anchors }
  return number

/-- The node of nothing. -/
def emptyNode : NodeReading Nat :=
  place none .null (.scalar "")

/-- The handles that every document knows. -/
def standardHandles : List (String × String) := [("!", "!"), ("!!", standardLead)]

/-- An anchor and a tag in front of a node. -/
structure Properties where
  anchor : Option String
  /-- The full name of the tag. -/
  tag : Option String
  deriving Repr, DecidableEq

/-- An anchor, if one stands here. -/
def takeAnchor : NodeReading (Option String) := do
  match ← nextToken with
  | .anchor name => do
    dropToken
    return some name
  | _ => return none

/-- A tag, if one stands here, with its handle resolved. -/
def takeTag : NodeReading (Option (Option String × String)) := do
  match ← nextToken with
  | .tag handle suffix => do
    dropToken
    return some (handle, suffix)
  | _ => return none

/-- The full name of a tag. -/
def tagName : Option String × String → NodeReading String
  | (none, suffix) => return suffix
  | (some handle, suffix) => do
    match (← get).handles.lookup handle with
    | some lead => return lead ++ suffix
    | none => refuse

/-- The anchor and the tag here, in either order. -/
def takeProperties : NodeReading Properties := do
  match ← takeAnchor with
  | some name => do
    let tag ← takeTag
    return ⟨some name, ← tag.mapM tagName⟩
  | none => do
    let tag ← takeTag
    let anchor ← if tag.isSome then takeAnchor else pure none
    return ⟨anchor, ← tag.mapM tagName⟩

/-- Whether the tag leaves the type open. -/
def Properties.isOpen (properties : Properties) : Bool :=
  properties.tag.isNone || properties.tag == some "!"

/-- The type of a collection whose usual type is given. -/
def Properties.collectionTag (properties : Properties) (usual : Tag) : Tag :=
  if properties.isOpen then usual else Tag.ofName (properties.tag.getD "")

/-- The type of a scalar: its tag, or what its text suggests where it may suggest anything. -/
def Properties.scalarTag (properties : Properties) (isPlain : Bool) (text : String) : Tag :=
  match properties.tag with
  | none => if isPlain then Tag.ofPlain text else .str
  | some "!" => Tag.ofPlain text
  | some name => Tag.ofName name

/-- Refuses an anchor that another node has. -/
def checkAnchor (anchor : Option String) : NodeReading Unit := do
  match anchor with
  | none => return ()
  | some name => if ((← get).anchors.lookup name).isSome then refuse else return ()

/-- The node that an alias stands for. -/
def aliased (name : String) : NodeReading Nat := do
  match (← get).anchors.lookup name with
  | some number => return number
  | none => refuse

/-- Reads a collection, whose node begins in front of those in it. -/
def readCollection (properties : Properties) (usual : Tag) (read : NodeReading Content) :
    NodeReading Nat := do
  let number ← place properties.anchor (properties.collectionTag usual) (.scalar "")
  let content ← read
  modify fun state => { state with
    graph := state.graph.modify number fun node => { node with content := content } }
  return number

/-- Whether the token ends a part of a block mapping. -/
def Token.endsBlockPart : Token → Bool
  | .key => true
  | .value => true
  | .blockEnd => true
  | _ => false

/-- Whether the token ends an item of a block sequence. -/
def Token.endsBlockItem : Token → Bool
  | .blockEntry => true
  | .blockEnd => true
  | _ => false

/-- Whether the token ends an item of a sequence that is not indented. -/
def Token.endsFlushItem (token : Token) : Bool :=
  token.endsBlockItem || token.endsBlockPart

/-- Whether the token ends a value in a flow sequence. -/
def Token.endsFlowItem : Token → Bool
  | .flowEntry => true
  | .flowSequenceEnd => true
  | _ => false

/-- Whether the token ends a value in a flow mapping. -/
def Token.endsFlowMember : Token → Bool
  | .flowEntry => true
  | .flowMappingEnd => true
  | _ => false

/-- Whether the token is the mark of a value. -/
def Token.isValue : Token → Bool
  | .value => true
  | _ => false

/-- Whether the token is the mark of a key. -/
def Token.isKey : Token → Bool
  | .key => true
  | _ => false

mutual

/--
Reads a node.  `block` allows collections in block style, `flush` also sequences
whose items are not indented.
-/
def readNode (block flush : Bool) : Nat → NodeReading Nat
  | 0 => refuse
  | fuel + 1 => do
    match ← nextToken with
    | .alias name => do
      dropToken
      aliased name
    | _ => do
      let properties ← takeProperties
      -- What stands behind the anchor is looked at before the anchor itself.
      let _ ← nextToken
      checkAnchor properties.anchor
      readContent block flush properties fuel

/-- Reads a node behind its anchor and its tag. -/
def readContent (block flush : Bool) (properties : Properties) : Nat → NodeReading Nat
  | 0 => refuse
  | fuel + 1 => do
    match ← nextToken with
    | .scalar text isPlain => do
      dropToken
      place properties.anchor (properties.scalarTag isPlain text) (.scalar text)
    | .flowSequenceStart => do
      dropToken
      readCollection properties .seq (.sequence <$> readFlowItems true fuel)
    | .flowMappingStart => do
      dropToken
      readCollection properties .map (.mapping <$> readFlowMembers true fuel)
    | token => do
      match token, block, flush with
      | .blockEntry, _, true =>
        readCollection properties .seq (.sequence <$> readFlushItems fuel)
      | .blockSequenceStart, true, _ => do
        dropToken
        readCollection properties .seq (.sequence <$> readBlockItems fuel)
      | .blockMappingStart, true, _ => do
        dropToken
        readCollection properties .map (.mapping <$> readBlockMembers fuel)
      | _, _, _ =>
        if properties.anchor.isSome || properties.tag.isSome then
          place properties.anchor (properties.scalarTag true "") (.scalar "")
        else refuse

/-- Reads a node, or nothing before a token that satisfies the test. -/
def readOptional (ends : Token → Bool) (block flush : Bool) : Nat → NodeReading Nat
  | 0 => refuse
  | fuel + 1 => do
    if ends (← nextToken) then emptyNode else readNode block flush fuel

/-- Reads a value behind its mark, or nothing where there is no mark. -/
def readValuePart (ends : Token → Bool) (block flush : Bool) : Nat → NodeReading Nat
  | 0 => refuse
  | fuel + 1 => do
    if (← nextToken).isValue then do
      dropToken
      readOptional ends block flush fuel
    else emptyNode

/-- Reads the items of an indented sequence up to its end. -/
def readBlockItems : Nat → NodeReading (List Nat)
  | 0 => refuse
  | fuel + 1 => do
    match ← nextToken with
    | .blockEntry => do
      dropToken
      let item ← readOptional Token.endsBlockItem true false fuel
      return item :: (← readBlockItems fuel)
    | .blockEnd => do
      dropToken
      return []
    | _ => refuse

/-- Reads the items of a sequence that is not indented. -/
def readFlushItems : Nat → NodeReading (List Nat)
  | 0 => refuse
  | fuel + 1 => do
    match ← nextToken with
    | .blockEntry => do
      dropToken
      let item ← readOptional Token.endsFlushItem true false fuel
      return item :: (← readFlushItems fuel)
    | _ => return []

/-- Reads the members of a block mapping up to its end. -/
def readBlockMembers : Nat → NodeReading (List (Nat × Nat))
  | 0 => refuse
  | fuel + 1 => do
    match ← nextToken with
    | .key => do
      dropToken
      let key ← readOptional Token.endsBlockPart true true fuel
      let value ← readValuePart Token.endsBlockPart true true fuel
      return (key, value) :: (← readBlockMembers fuel)
    | .blockEnd => do
      dropToken
      return []
    | _ => refuse

/-- Passes over the mark between items, where `first` allows none. -/
def readFlowSeparator (first : Bool) (isEnd : Token → Bool) : NodeReading Bool := do
  let token ← nextToken
  if isEnd token then do
    dropToken
    return true
  else if first then return false
  else
    match token with
    | .flowEntry => do
      dropToken
      if isEnd (← nextToken) then do
        dropToken
        return true
      else return false
    | _ => refuse

/-- Reads the items of a flow sequence up to its end; a lone member is a mapping. -/
def readFlowItems (first : Bool) : Nat → NodeReading (List Nat)
  | 0 => refuse
  | fuel + 1 => do
    let isEnd : Token → Bool := fun
      | .flowSequenceEnd => true
      | _ => false
    if ← readFlowSeparator first isEnd then return []
    else if (← nextToken).isKey then do
      dropToken
      let member ← readCollection ⟨none, none⟩ .map do
        let ends := fun (token : Token) => token.isValue || token.endsFlowItem
        let key ← readOptional ends false false fuel
        let value ← readValuePart Token.endsFlowItem false false fuel
        return .mapping [(key, value)]
      return member :: (← readFlowItems false fuel)
    else do
      let item ← readNode false false fuel
      return item :: (← readFlowItems false fuel)

/-- Reads the members of a flow mapping up to its end. -/
def readFlowMembers (first : Bool) : Nat → NodeReading (List (Nat × Nat))
  | 0 => refuse
  | fuel + 1 => do
    let isEnd : Token → Bool := fun
      | .flowMappingEnd => true
      | _ => false
    if ← readFlowSeparator first isEnd then return []
    else if (← nextToken).isKey then do
      dropToken
      let ends := fun (token : Token) => token.isValue || token.endsFlowMember
      let key ← readOptional ends false false fuel
      let value ← readValuePart Token.endsFlowMember false false fuel
      return (key, value) :: (← readFlowMembers false fuel)
    else do
      let key ← readNode false false fuel
      let value ← emptyNode
      return (key, value) :: (← readFlowMembers false fuel)

end

/-- The directives at the head of a document: one version at most, and handles once each. -/
def readDirectives : Nat → (versioned : Bool) → List (String × String) →
    NodeReading (List (String × String))
  | 0, _, _ => refuse
  | fuel + 1, versioned, handles => do
    match ← nextToken with
    | .directive content => do
      dropToken
      match content with
      | .version major =>
        if versioned || major ≠ 1 then refuse else readDirectives fuel true handles
      | .handle name lead =>
        if (handles.lookup name).isSome then refuse
        else readDirectives fuel versioned ((name, lead) :: handles)
      | .other => readDirectives fuel versioned handles
    | _ => return handles

/-- Whether the token cannot begin the content of a document. -/
def Token.isDocumentLevel : Token → Bool
  | .directive _ => true
  | .documentStart => true
  | .documentEnd => true
  | .streamEnd => true
  | _ => false

/-- Passes over marks of a document's end. -/
def dropDocumentEnds : Nat → NodeReading Unit
  | 0 => return ()
  | fuel + 1 => do
    match ← nextToken with
    | .documentEnd => do
      dropToken
      dropDocumentEnds fuel
    | _ => return ()

/-- Reads the only document there is; an empty text has none. -/
def readDocument (fuel : Nat) : NodeReading (Option Nat) := do
  match ← nextToken with
  | .streamEnd => return none
  | .directive _ => explicit
  | .documentStart => explicit
  | _ => do
    let root ← readNode true false fuel
    finish root
where
  finish (root : Nat) : NodeReading (Option Nat) := do
    dropDocumentEnds fuel
    match ← nextToken with
    | .streamEnd => return some root
    | _ => do
      -- The head of another document is read before that document is refused.
      let _ ← readDirectives fuel false []
      refuse
  explicit : NodeReading (Option Nat) := do
    let handles ← readDirectives fuel false []
    modify fun state => { state with handles := handles ++ standardHandles }
    match ← nextToken with
    | .documentStart => do
      dropToken
      let root ← readOptional Token.isDocumentLevel true false fuel
      finish root
    | _ => refuse

/-- The nodes of a document and the number of its root, if it has any. -/
def graphOf? (cs : List Char) : Reading (Option (Nat × Graph)) := do
  let tokens := tokensOf cs
  let (root, state) ←
    (readDocument (4 * tokens.length + 16)).run ⟨tokens, [], [], standardHandles⟩
  return root.map fun root => (root, state.graph)

end PathExpr.Format.Yaml
