import CloudScaffold.Yaml.Node
import CloudScaffold.Yaml.Stream
/-!
# Documents

Nodes are read by the grammar of YAML, token by token. A node has its number before its parts are
read, so that an alias may stand inside the node that it stands for. A stream holds at most one
document.
-/
namespace CloudScaffold.Yaml

open Text

/-- What is known while a document is read. -/
structure Reading where
  stream : Stream
  nodes : Nodes := #[]
  /-- What the handles of tags stand for. -/
  handles : List (String × String) := []
  /-- The nodes that have an anchor. -/
  anchors : List (String × NodeId) := []
  /-- How many collections are open. -/
  depth : Nat := 0

abbrev Read (α : Type) := StateT Reading (Except Fault) α

/-- The handles that need no directive. -/
def defaultHandles : List (String × String) := [("!", "!"), ("!!", Tag.lead)]

/-- How many collections may stand inside one another. -/
def depthLimit : Nat := 490

/-- The next token. -/
def peekToken : Read Token := do
  let r ← get
  let (t, s) ← r.stream.peek
  set { r with stream := s }
  pure t

def dropToken : Read Unit := modify fun r => { r with stream := r.stream.drop }

/-- Adds a node. -/
def addNode (n : Node) : Read NodeId :=
  modifyGet fun r => (r.nodes.size, { r with nodes := r.nodes.push n })

/-- Adds an absent node. -/
def addAbsent : Read NodeId := addNode .absent

/-- The anchor and the tag before a node. -/
structure Properties where
  anchor : Option String := none
  /-- The tag as written: its handle and the rest. -/
  tag : Option (Option String × String) := none

def takeAnchor (p : Properties) : Read Properties := do
  match ← peekToken with
  | .anchor n => do
    dropToken
    pure { p with anchor := some n }
  | _ => pure p

def takeTagOf (p : Properties) : Read Properties := do
  match ← peekToken with
  | .tag h s => do
    dropToken
    pure { p with tag := some (h, s) }
  | _ => pure p

/-- The properties before a node, in either order. -/
def takeProperties : Read Properties := do
  match ← peekToken with
  | .anchor _ => takeTagOf (← takeAnchor {})
  | .tag _ _ => takeAnchor (← takeTagOf {})
  | _ => pure {}

/-- The tag of some properties in full. -/
def fullTag (p : Properties) : Read (Option String) := do
  match p.tag with
  | none => pure none
  | some (none, suffix) => pure (some suffix)
  | some (some handle, suffix) =>
    match (← get).handles.lookup handle with
    | some lead => pure (some (lead ++ suffix))
    | none => throw .grammar

/-- The tag that a node is marked with; the tag `!` marks nothing. -/
def marked (tag : Option String) : Option Tag :=
  match tag with
  | none | some "!" => none
  | some t => some (.ofUri t)

/-- The tag of a scalar. -/
def scalarTag (tag : Option String) (text : Points) (plain : Bool) : Tag :=
  match marked tag with
  | some t => t
  | none => if plain || tag.isSome then tagOfPlain text else .str

/-- Checks that no node has an anchor of this name yet. -/
def checkAnchor (anchor : Option String) : Read Unit := do
  let known := (← get).anchors
  if (anchor.bind fun n => known.lookup n).isSome then throw .reference

/-- Notes the number of a node with an anchor. -/
def noteAnchor (anchor : Option String) (node : NodeId) : Read Unit :=
  match anchor with
  | none => pure ()
  | some n => modify fun r => { r with anchors := (n, node) :: r.anchors }

/-- Adds a scalar. -/
def addScalar (anchor tag : Option String) (text : Points) (plain : Bool) : Read NodeId := do
  checkAnchor anchor
  let n ← addNode ⟨scalarTag tag text plain, .scalar text⟩
  noteAnchor anchor n
  pure n

/-- Adds a collection, and then reads its content. -/
def addCollection (anchor tag : Option String) (kind : Tag) (empty : Content)
    (read : Read Content) : Read NodeId := do
  checkAnchor anchor
  let n ← addNode ⟨(marked tag).getD kind, empty⟩
  noteAnchor anchor n
  modify fun r => { r with depth := r.depth + 1 }
  if depthLimit < (← get).depth then throw .tooDeep
  let content ← read
  modify fun r => { r with nodes := r.nodes.setContent n content, depth := r.depth - 1 }
  pure n

/-- The node that an alias stands for. -/
def nodeOfAlias (name : String) : Read NodeId := do
  match (← get).anchors.lookup name with
  | some n => pure n
  | none => throw .reference

/-- What a node may be where it stands. -/
structure Place where
  /-- Block collections may stand here. -/
  block : Bool
  /-- A sequence may stand here at the indentation of its key. -/
  indentless : Bool := false

mutual
/-- A node. -/
def readNode (place : Place) : Nat → Read NodeId
  | 0 => throw .grammar
  | fuel + 1 => do
    match ← peekToken with
    | .alias n => do
      dropToken
      nodeOfAlias n
    | _ => do
      let p ← takeProperties
      let tag ← fullTag p
      readContent place p.anchor tag fuel

/-- A node behind its properties. -/
def readContent (place : Place) (anchor tag : Option String) : Nat → Read NodeId
  | 0 => throw .grammar
  | fuel + 1 => do
    let sequence (read : Read (List NodeId)) : Read NodeId :=
      addCollection anchor tag .seq (.sequence []) (do pure (.sequence (← read)))
    let mapping (read : Read (List (NodeId × NodeId))) : Read NodeId :=
      addCollection anchor tag .map (.mapping []) (do pure (.mapping (← read)))
    let absent : Read NodeId :=
      if anchor.isSome || tag.isSome then addScalar anchor tag [] true else throw .grammar
    match ← peekToken with
    | .blockEntry => if place.indentless then sequence (readIndentless fuel) else absent
    | .scalar text plain => do
      dropToken
      addScalar anchor tag text plain
    | .flowSequenceStart => sequence (do dropToken; readFlowSequence true fuel)
    | .flowMappingStart => mapping (do dropToken; readFlowMapping true fuel)
    | .blockSequenceStart =>
      if place.block then sequence (do dropToken; readBlockSequence fuel) else absent
    | .blockMappingStart =>
      if place.block then mapping (do dropToken; readBlockMapping fuel) else absent
    | _ => absent

/-- A node, unless one of some tokens says that it is absent. -/
def readUnless (place : Place) (ends : Token → Bool) : Nat → Read NodeId
  | 0 => throw .grammar
  | fuel + 1 => do
    if ends (← peekToken) then addAbsent else readNode place fuel

/-- The items of a block sequence. -/
def readBlockSequence : Nat → Read (List NodeId)
  | 0 => throw .grammar
  | fuel + 1 => do
    match ← peekToken with
    | .blockEntry => do
      dropToken
      let item ← readUnless { block := true } (fun t => t == .blockEntry || t == .blockEnd) fuel
      let rest ← readBlockSequence fuel
      pure (item :: rest)
    | .blockEnd => do
      dropToken
      pure []
    | _ => throw .grammar

/-- The items of a sequence at the indentation of its key. -/
def readIndentless : Nat → Read (List NodeId)
  | 0 => throw .grammar
  | fuel + 1 => do
    match ← peekToken with
    | .blockEntry => do
      dropToken
      let item ← readUnless { block := true }
        (fun t => t == .blockEntry || t == .key || t == .value || t == .blockEnd) fuel
      let rest ← readIndentless fuel
      pure (item :: rest)
    | _ => pure []

/-- The entries of a block mapping. -/
def readBlockMapping : Nat → Read (List (NodeId × NodeId))
  | 0 => throw .grammar
  | fuel + 1 => do
    let place : Place := { block := true, indentless := true }
    let ends (t : Token) : Bool := t == .key || t == .value || t == .blockEnd
    match ← peekToken with
    | .key => do
      dropToken
      let key ← readUnless place ends fuel
      let value ← readValue place ends fuel
      let rest ← readBlockMapping fuel
      pure ((key, value) :: rest)
    | .blockEnd => do
      dropToken
      pure []
    | _ => throw .grammar

/-- The value behind a key, if there is one. -/
def readValue (place : Place) (ends : Token → Bool) : Nat → Read NodeId
  | 0 => throw .grammar
  | fuel + 1 => do
    match ← peekToken with
    | .value => do
      dropToken
      readUnless place ends fuel
    | _ => addAbsent

/-- The items of a flow sequence; a key among them makes a mapping of one entry. -/
def readFlowSequence (first : Bool) : Nat → Read (List NodeId)
  | 0 => throw .grammar
  | fuel + 1 => do
    let place : Place := { block := false }
    let ends (t : Token) : Bool := t == .flowEntry || t == .flowSequenceEnd
    let t ← readSeparator first .flowSequenceEnd
    match t with
    | .flowSequenceEnd => do
      dropToken
      pure []
    | .key => do
      dropToken
      let item ← addCollection none none .map (.mapping []) do
        let key ← readUnless place (fun t => t == .value || ends t) fuel
        let value ← readValue place ends fuel
        pure (.mapping [(key, value)])
      let rest ← readFlowSequence false fuel
      pure (item :: rest)
    | _ => do
      let item ← readNode place fuel
      let rest ← readFlowSequence false fuel
      pure (item :: rest)

/-- The entries of a flow mapping; a node among them that is no key has no value. -/
def readFlowMapping (first : Bool) : Nat → Read (List (NodeId × NodeId))
  | 0 => throw .grammar
  | fuel + 1 => do
    let place : Place := { block := false }
    let ends (t : Token) : Bool := t == .flowEntry || t == .flowMappingEnd
    let t ← readSeparator first .flowMappingEnd
    match t with
    | .flowMappingEnd => do
      dropToken
      pure []
    | .key => do
      dropToken
      let key ← readUnless place (fun t => t == .value || ends t) fuel
      let value ← readValue place ends fuel
      let rest ← readFlowMapping false fuel
      pure ((key, value) :: rest)
    | _ => do
      let key ← readNode place fuel
      let value ← addAbsent
      let rest ← readFlowMapping false fuel
      pure ((key, value) :: rest)

/-- The comma between two items of a flow collection, and the token behind it. -/
def readSeparator (first : Bool) (closing : Token) : Read Token := do
  let t ← peekToken
  if t == closing || first then pure t
  else if t == .flowEntry then do
    dropToken
    peekToken
  else throw .grammar
end

/-- Adds the handle of a directive to those of a document. -/
def noteHandle (handles : List (String × String)) (handle lead : String) :
    Read (List (String × String)) :=
  if (handles.lookup handle).isSome then throw .grammar else pure ((handle, lead) :: handles)

/-- The directives before a document: the handles of tags. -/
def readDirectives : Nat → Bool → List (String × String) → Read (List (String × String))
  | 0, _, handles => pure handles
  | fuel + 1, versioned, handles => do
    match ← peekToken with
    | .directive d => do
      dropToken
      match d with
      | .version major _ =>
        if versioned || major ≠ 1 then throw .grammar
        else readDirectives fuel true handles
      | .tagHandle handle lead => do
        readDirectives fuel versioned (← noteHandle handles handle lead)
      | .unknown => readDirectives fuel versioned handles
    | _ => pure handles

/-- Skips marks of the ends of documents. -/
def skipEnds : Nat → Read Unit
  | 0 => pure ()
  | fuel + 1 => do
    if (← peekToken) == .documentEnd then do
      dropToken
      skipEnds fuel

/-- The start of a document that is marked as such; whether there is one. -/
def readStart (fuel : Nat) : Read Bool := do
  skipEnds fuel
  if (← peekToken) == .streamEnd then pure false
  else do
    let handles ← readDirectives fuel false []
    if (← peekToken) == .documentStart then do
      dropToken
      modify fun r => { r with
        handles := handles ++ defaultHandles.filter fun h => (handles.lookup h.1).isNone }
      pure true
    else throw .grammar

def isDirective : Token → Bool
  | .directive _ => true
  | _ => false

/-- The content of a document that is marked. -/
def readMarked (fuel : Nat) : Read NodeId :=
  readUnless { block := true }
    (fun t => isDirective t || t == .documentStart || t == .documentEnd || t == .streamEnd) fuel

/-- The only document of a stream, if it has one: the node at its top. -/
def readStream (fuel : Nat) : Read (Option NodeId) := do
  let t ← peekToken
  let explicit := isDirective t || t == .documentStart || t == .streamEnd
  if !explicit then modify fun r => { r with handles := defaultHandles }
  let found ← if explicit then readStart fuel else pure true
  if !found then pure none
  else do
    let root ← if explicit then readMarked fuel else readNode { block := true } fuel
    if (← peekToken) == .documentEnd then dropToken
    if ← readStart fuel then throw .reference
    pure (some root)

/-- Whether a text may hold a character. -/
def isPrintable (c : Char) : Bool :=
  let n := c.toNat
  n == 9 || n == 10 || n == 13 || (0x20 ≤ n && n ≤ 0x7e) || n == 0x85 || (0xa0 ≤ n && n ≤ 0xd7ff)
    || (0xe000 ≤ n && n ≤ 0xfffd) || 0x10000 ≤ n

/-- The document of a text, if it has one. -/
def Document.ofText (text : String) : Except Fault (Option Document) := do
  let cs := text.toList
  if !cs.all isPrintable then throw .character
  let (root, r) ← (readStream (16 * (cs.length + 4))).run { stream := .ofChars cs }
  .ok (root.map fun n => { nodes := r.nodes, root := n })

end CloudScaffold.Yaml
