import ApiClient.Data.Yaml.Graph
import ApiClient.Data.Yaml.Token

/-! The nodes that the tokens of a text describe. An alias is the node of its anchor, which may be
one that it lies in. A text has at most one document. -/

namespace ApiClient.Yaml

/-! ## Reading tokens -/

/-- The tokens to come, the fault at their end, the handles of tags, the nodes so far, and those
among them that have an anchor. -/
structure NodeReader where
  tokens : List Token
  fault : Fault
  handles : List (String × String) := []
  graph : Graph := #[]
  anchors : List (String × Nat) := []

abbrev Reading := StateT NodeReader (Except Fault)

namespace Reading

def peek : Reading Token := do
  let reader ← get
  match reader.tokens with
  | [] => throw reader.fault
  | token :: _ => return token

def skip : Reading Unit :=
  modify fun reader => { reader with tokens := reader.tokens.tail }

/-- Go past a token, if it comes next. -/
def accept (token : Token) : Reading Bool := do
  if (← peek) = token then
    skip
    return true
  else return false

def comesOneOf (tokens : List Token) : Reading Bool := do
  return tokens.contains (← peek)

end Reading

open Reading

/-! ## Properties of nodes -/

structure Properties where
  anchor : Option String := none
  tag : Option (Option String × String) := none

/-- An anchor and a tag, in either order. -/
def properties : Reading Properties := do
  match ← peek with
  | .anchor anchor =>
    skip
    match ← peek with
    | .tag handle suffix =>
      skip
      return ⟨some anchor, some (handle, suffix)⟩
    | _ => return ⟨some anchor, none⟩
  | .tag handle suffix =>
    skip
    match ← peek with
    | .anchor anchor =>
      skip
      return ⟨some anchor, some (handle, suffix)⟩
    | _ => return ⟨none, some (handle, suffix)⟩
  | _ => return {}

/-- A written tag in full. Its handle must stand for something. -/
def fullTag : Option (Option String × String) → Reading (Option String)
  | none => return none
  | some (none, suffix) => return some suffix
  | some (some handle, suffix) => do
    match (← get).handles.find? (·.1 = handle) with
    | some (_, lead) => return some (lead ++ suffix)
    | none => throw .grammar

/-- Whether a node leaves its tag open. -/
def isOpen (tag : Option String) : Bool :=
  tag.isNone || tag == some "!"

def scalarTag (tag : Option String) (text : Text) (isPlain : Bool) : Tag :=
  match tag with
  | none => if isPlain then plainTag text else .str
  | some "!" => plainTag text
  | some tag => Tag.ofString tag

def collectionTag (tag : Option String) (default : Tag) : Tag :=
  if isOpen tag then default else Tag.ofString (tag.getD "")

/-! ## Making nodes -/

/-- An anchor can be set once. -/
def checkAnchor (anchor : Option String) : Reading Unit := do
  match anchor with
  | none => return ()
  | some anchor => if (← get).anchors.any (·.1 = anchor) then throw .reference

/-- A node with the next number. -/
def addNode (anchor : Option String) (node : Node) : Reading Nat := do
  let ⟨_, _, _, graph, anchors⟩ ← get
  match anchor with
  | none => modify fun reader => { reader with graph := graph.push node }
  | some anchor =>
    modify fun reader =>
      { reader with graph := graph.push node, anchors := (anchor, graph.size) :: anchors }
  return graph.size

def addScalar (tag : Tag) (text : Text) : Reading Nat :=
  addNode none ⟨tag, .scalar text⟩

/-- The node where none is written. -/
def addEmpty : Reading Nat :=
  addScalar .null []

/-- A collection, which has its number and its anchor before its parts are read. -/
def addCollection (anchor : Option String) (tag : Tag) (read : Reading Content) : Reading Nat := do
  let number ← addNode anchor ⟨tag, .list []⟩
  let content ← read
  modify fun reader => { reader with graph := reader.graph.setIfInBounds number ⟨tag, content⟩ }
  return number

/-- The node of an anchor. -/
def aliased (name : String) : Reading Nat := do
  match (← get).anchors.find? (·.1 = name) with
  | none => throw .reference
  | some (_, number) => return number

/-! ## Nodes -/

/-- Where a node stands decides which collections it can be. -/
inductive NodePlace where
  | flow
  | block
  | blockOrEntries
  deriving DecidableEq, Repr

/-- After an indicator a node may be missing, which shows in the token that follows. -/
def missing (followers : List Token) (read : Reading Nat) : Reading Nat := do
  if ← comesOneOf followers then addEmpty else read

mutual

def node : (fuel : Nat) → NodePlace → Reading Nat
  | 0, _ => throw .grammar
  | fuel + 1, place => do
    match ← peek with
    | .alias name =>
      skip
      aliased name
    | _ =>
      let ⟨anchor, tag⟩ ← properties
      let tag ← fullTag tag
      let first ← peek
      let list := fun (items : Reading (List Nat)) => do
        checkAnchor anchor
        addCollection anchor (collectionTag tag .seq) (.list <$> items)
      let map := fun (entries : Reading (List (Nat × Nat))) => do
        checkAnchor anchor
        addCollection anchor (collectionTag tag .map) (.map <$> entries)
      if place = .blockOrEntries ∧ first = .entry then list (bareItems fuel)
      else
        match place, first with
        | _, .scalar text isPlain =>
          checkAnchor anchor
          skip
          addNode anchor ⟨scalarTag tag text isPlain, .scalar text⟩
        | _, .flowListStart => list (do skip; flowItems fuel true)
        | _, .flowMapStart => map (do skip; flowEntries fuel true)
        | .block, .blockListStart | .blockOrEntries, .blockListStart =>
          list (do skip; blockItems fuel)
        | .block, .blockMapStart | .blockOrEntries, .blockMapStart =>
          map (do skip; blockEntries fuel)
        | _, _ =>
          if anchor.isNone ∧ tag.isNone then throw .grammar
          else
            checkAnchor anchor
            addNode anchor ⟨scalarTag tag [] true, .scalar []⟩

/-- The items of a list in a block, to the end of the block. -/
def blockItems : (fuel : Nat) → Reading (List Nat)
  | 0 => throw .grammar
  | fuel + 1 => do
    if ← accept .entry then
      let item ← missing [.entry, .blockEnd] (node fuel .block)
      return item :: (← blockItems fuel)
    else if ← accept .blockEnd then return []
    else throw .grammar

/-- The items of a list that is not indented further than the key it belongs to. -/
def bareItems : (fuel : Nat) → Reading (List Nat)
  | 0 => throw .grammar
  | fuel + 1 => do
    if ← accept .entry then
      let item ← missing [.entry, .key, .value, .blockEnd] (node fuel .block)
      return item :: (← bareItems fuel)
    else return []

def blockEntries : (fuel : Nat) → Reading (List (Nat × Nat))
  | 0 => throw .grammar
  | fuel + 1 => do
    let followers := [Token.key, .value, .blockEnd]
    if ← accept .key then
      let key ← missing followers (node fuel .blockOrEntries)
      let value ← if ← accept .value then missing followers (node fuel .blockOrEntries)
        else addEmpty
      return (key, value) :: (← blockEntries fuel)
    else if ← accept .blockEnd then return []
    else throw .grammar

/-- The items of a list in brackets. A key among them stands for a mapping of one entry. -/
def flowItems : (fuel : Nat) → (isFirst : Bool) → Reading (List Nat)
  | 0, _ => throw .grammar
  | fuel + 1, isFirst => do
    if ← accept .flowListEnd then return []
    else
      if !isFirst then
        if !(← accept .comma) then throw .grammar
      if ← accept .key then
        let followers := [Token.comma, .flowListEnd]
        let key ← missing (.value :: followers) (node fuel .flow)
        let value ← if ← accept .value then missing followers (node fuel .flow)
          else addEmpty
        let entry ← addNode none ⟨.map, .map [(key, value)]⟩
        return entry :: (← flowItems fuel false)
      else if ← accept .flowListEnd then return []
      else
        let item ← node fuel .flow
        return item :: (← flowItems fuel false)

def flowEntries : (fuel : Nat) → (isFirst : Bool) → Reading (List (Nat × Nat))
  | 0, _ => throw .grammar
  | fuel + 1, isFirst => do
    if ← accept .flowMapEnd then return []
    else
      if !isFirst then
        if !(← accept .comma) then throw .grammar
      if ← accept .key then
        let followers := [Token.comma, .flowMapEnd]
        let key ← missing (.value :: followers) (node fuel .flow)
        let value ← if ← accept .value then missing followers (node fuel .flow)
          else
            let _ ← peek
            addEmpty
        return (key, value) :: (← flowEntries fuel false)
      else if ← accept .flowMapEnd then return []
      else
        let key ← node fuel .flow
        let value ← addEmpty
        return (key, value) :: (← flowEntries fuel false)

end

/-! ## Documents -/

def standardHandles : List (String × String) :=
  [("!", "!"), ("!!", tagLead)]

structure DirectivesRead where
  hasVersion : Bool := false
  handles : List (String × String) := []

/-- The directives before a document. Each handle can be given once, and the version must begin
with one. -/
def directives : (fuel : Nat) → DirectivesRead → Reading DirectivesRead
  | 0, read => return read
  | fuel + 1, read => do
    match ← peek with
    | .directive directive =>
      skip
      match directive with
      | .version major _ =>
        if read.hasVersion ∨ major ≠ 1 then throw .grammar
        directives fuel { read with hasVersion := true }
      | .tag handle lead =>
        if read.handles.any (·.1 = handle) then throw .grammar
        directives fuel { read with handles := read.handles ++ [(handle, lead)] }
      | .other => directives fuel read
    | _ => return read

/-- What a document begins with, if the text goes on at all: directives, and a marker that must
follow where there are any. -/
def startDocument (fuel : Nat) : Reading Unit := do
  let ⟨_, handles⟩ ← directives fuel {}
  if ← accept .documentStart then
    modify fun reader => { reader with handles := handles ++ standardHandles }
  else throw .grammar

def skipDocumentEnds : (fuel : Nat) → Reading Unit
  | 0 => return ()
  | fuel + 1 => do
    if ← accept .documentEnd then skipDocumentEnds fuel else return ()

def isDirective : Token → Bool
  | .directive _ => true
  | _ => false

/-- Whether a token cannot be a part of a document. -/
def endsDocument (token : Token) : Bool :=
  isDirective token || [Token.documentStart, .documentEnd, .textEnd].contains token

/-- The root of the only document, if there is one. -/
def root (fuel : Nat) : Reading (Option Nat) := do
  let first ← peek
  if first = .textEnd then return none
  else
    let node ←
      if first = .documentStart ∨ isDirective first then
        startDocument fuel
        if endsDocument (← peek) then addEmpty else node fuel .block
      else
        modify fun reader => { reader with handles := standardHandles }
        node fuel .block
    skipDocumentEnds fuel
    if (← peek) = .textEnd then return some node
    else
      startDocument fuel
      throw .reference

/-- The nodes of a text, and the root among them, if there is one. The depth of nodes and the number
of their parts are bounded by the number of tokens. -/
def graphOf (text : List Char) : Except Fault (Option Nat × Graph) :=
  let ⟨tokens, fault⟩ := tokensOf text
  let reader : NodeReader := { tokens, fault := fault.getD .grammar }
  (fun (root, reader) => (root, reader.graph)) <$> (root (4 * tokens.length + 4)).run reader

end ApiClient.Yaml
