import Deduce.Tree.Basic
import Deduce.Yaml.Scalar
import Deduce.Yaml.Token.Stream

/-!
# Nodes of a document

Tokens of one document as a tree with tags. An alias stands for the very node it names, so that it
has to come behind it. Only as many tokens are needed as it takes to find the document's end.
-/

namespace Deduce.Yaml

/-- The stem of the tags of the format itself. -/
def coreStem : String := "tag:yaml.org,2002:"

def coreTag (name : String) : String := coreStem ++ name

def ScalarKind.tag : ScalarKind → String
  | string => coreTag "str"
  | null => coreTag "null"
  | bool => coreTag "bool"
  | int => coreTag "int"
  | float => coreTag "float"
  | timestamp => coreTag "timestamp"
  | merge => coreTag "merge"
  | value => coreTag "value"
  | sign => coreTag "yaml"

/-- Nodes are numbered in the order in which they end, so that the parts of a node have smaller numbers
than the node itself. Nodes of one number are one node. -/
inductive Node where
  | scalar (tag text : String) (number : Nat)
  | sequence (tag : String) (items : List Node) (number : Nat)
  | mapping (tag : String) (pairs : List (Node × Node)) (number : Nat)

namespace Node

def tag : Node → String
  | scalar tag .. | sequence tag .. | mapping tag .. => tag

def number : Node → Nat
  | scalar _ _ number | sequence _ _ number | mapping _ _ number => number

mutual

def tree : Node → Tree
  | scalar _ text _ => .scalar text
  | sequence _ items _ => .sequence (treeItems items)
  | mapping _ pairs _ => .mapping (treePairs pairs)

def treeItems : List Node → List Tree
  | [] => []
  | item :: rest => item.tree :: treeItems rest

def treePairs : List (Node × Node) → List (Tree × Tree)
  | [] => []
  | (key, value) :: rest => (key.tree, value.tree) :: treePairs rest

end

end Node

structure OpenDocument where
  stream : TokenStream
  /-- What the handles of tags stand for. -/
  handles : List (String × String)
  anchors : List (String × Node) := []
  /-- How many nodes have ended. -/
  count : Nat := 0

/-- A step of reading a document, which may find a fault. -/
abbrev NodeReader := StateT OpenDocument (Except Fault)

namespace NodeReader

def fail {α : Type} : NodeReader α := throw .malformed

/-- The next token; where there is none the stream's fault comes out. -/
def peek : NodeReader Token := do
  let stream := (← get).stream
  match stream.tokens with
  | token :: _ => return token
  | [] => throw stream.fault

def skip : NodeReader Unit :=
  modify fun c => { c with stream := ⟨c.stream.tokens.drop 1, c.stream.fault⟩ }

def accept (token : Token) : NodeReader Bool := do
  if (← peek) == token then
    skip
    return true
  else return false

def expect (token : Token) : NodeReader Unit := do
  unless ← accept token do fail

def anchor? : NodeReader (Option String) := do
  match ← peek with
  | .anchor name => skip; return some name
  | _ => return none

def resolveHandle (handle suffix : String) : NodeReader String := do
  match (← get).handles.find? (·.1 == handle) with
  | some (_, stem) => return stem ++ suffix
  | none => fail

def writtenTag? : NodeReader (Option (Option String × String)) := do
  match ← peek with
  | .tag handle suffix => skip; return some (handle, suffix)
  | _ => return none

/-- The anchor and the tag of a node, in either order. -/
def properties : NodeReader (Option String × Option (Option String × String)) := do
  match ← anchor? with
  | some name => return (some name, ← writtenTag?)
  | none =>
    match ← writtenTag? with
    | none => return (none, none)
    | some tag => return (← anchor?, some tag)

def fullTag : Option (Option String × String) → NodeReader (Option String)
  | none => return none
  | some (none, suffix) => return some suffix
  | some (some handle, suffix) => return some (← resolveHandle handle suffix)

/-- The tag of a scalar: its own, or what its text stands for if it is plain. A lone exclamation mark
asks for the same. -/
def scalarTag (tag : Option String) (plain : Bool) (text : String) : String :=
  match tag with
  | none => if plain then (ScalarKind.ofPlain text).tag else ScalarKind.string.tag
  | some "!" => (ScalarKind.ofPlain text).tag
  | some tag => tag

/-- The tag of a collection: its own, or the usual one. -/
def collectionTag (tag : Option String) (usual : String) : String :=
  match tag with
  | none | some "!" => coreTag usual
  | some tag => tag

/-- Whether a token ends an entry of a block collection, so that the entry is empty. -/
def endsEntry (token : Token) : Bool := token == .blockEntry || token == .blockEnd

def endsPart (token : Token) : Bool := token == .key || token == .value || token == .blockEnd

/-- Numbers a node that ends here. -/
def numbered (node : Nat → Node) : NodeReader Node := do
  let count := (← get).count
  modify fun d => { d with count := count + 1 }
  return node count

def emptyNode : NodeReader Node := numbered (.scalar ScalarKind.null.tag "")

/-- Numbers a node and remembers it under its anchor, which must be new. -/
def remember (anchor : Option String) (node : Nat → Node) : NodeReader Node := do
  let node ← numbered node
  if let some name := anchor then
    if (← get).anchors.any (·.1 == name) then fail
    modify fun d => { d with anchors := (name, node) :: d.anchors }
  return node

mutual

/-- A node. Block collections begin only where `block` holds, and a sequence at the column of the
mapping around it only where `indentless` holds. -/
def node (block indentless : Bool) : Nat → NodeReader Node
  | 0 => fail
  | steps + 1 => do
    if let .alias name ← peek then
      skip
      match (← get).anchors.find? (·.1 == name) with
      | some (_, named) => return named
      | none => fail
    else
      let (anchor, written) ← properties
      let tag ← fullTag written
      let token ← peek
      if let some name := anchor then
        if (← get).anchors.any (·.1 == name) then fail
      if indentless && token == .blockEntry then
        remember anchor (.sequence (collectionTag tag "seq") (← indentlessItems steps))
      else
        match token with
        | .scalar text plain =>
          skip
          remember anchor (.scalar (scalarTag tag plain text) text)
        | .flowSequenceStart =>
          skip
          remember anchor (.sequence (collectionTag tag "seq") (← flowItems true steps))
        | .flowMappingStart =>
          skip
          remember anchor (.mapping (collectionTag tag "map") (← flowPairs true steps))
        | .blockSequenceStart =>
          unless block do fail
          skip
          remember anchor (.sequence (collectionTag tag "seq") (← blockItems steps))
        | .blockMappingStart =>
          unless block do fail
          skip
          remember anchor (.mapping (collectionTag tag "map") (← blockPairs steps))
        | _ =>
          unless anchor.isSome || tag.isSome do fail
          remember anchor (.scalar (scalarTag tag true "") "")

def blockItems : Nat → NodeReader (List Node)
  | 0 => fail
  | steps + 1 => do
    if ← accept .blockEntry then
      let item ← if endsEntry (← peek) then emptyNode else node true false steps
      return item :: (← blockItems steps)
    else
      expect .blockEnd
      return []

/-- The entries of a sequence at the column of the mapping around it. -/
def indentlessItems : Nat → NodeReader (List Node)
  | 0 => fail
  | steps + 1 => do
    if ← accept .blockEntry then
      let next ← peek
      let item ←
        if next == .blockEntry || endsPart next then emptyNode else node true false steps
      return item :: (← indentlessItems steps)
    else return []

def blockPairs : Nat → NodeReader (List (Node × Node))
  | 0 => fail
  | steps + 1 => do
    if ← accept .blockEnd then return []
    expect .key
    let key ← if endsPart (← peek) then emptyNode else node true true steps
    let value ←
      if ← accept .value then
        if endsPart (← peek) then emptyNode else node true true steps
      else emptyNode
    return (key, value) :: (← blockPairs steps)

/-- The entries of a flow sequence, up to its end. A marked or completed key stands for a mapping of
one pair. -/
def flowItems (first : Bool) : Nat → NodeReader (List Node)
  | 0 => fail
  | steps + 1 => do
    if ← accept .flowSequenceEnd then return []
    unless first do expect .flowEntry
    if ← accept .key then
      let next ← peek
      let key ←
        if next == .value || next == .flowEntry || next == .flowSequenceEnd then emptyNode
        else node false false steps
      let value ←
        if ← accept .value then
          let next ← peek
          if next == .flowEntry || next == .flowSequenceEnd then emptyNode
          else node false false steps
        else emptyNode
      let item ← numbered (.mapping (coreTag "map") [(key, value)])
      return item :: (← flowItems false steps)
    else if ← accept .flowSequenceEnd then return []
    else
      let item ← node false false steps
      return item :: (← flowItems false steps)

def flowPairs (first : Bool) : Nat → NodeReader (List (Node × Node))
  | 0 => fail
  | steps + 1 => do
    if ← accept .flowMappingEnd then return []
    unless first do expect .flowEntry
    if ← accept .key then
      let next ← peek
      let key ←
        if next == .value || next == .flowEntry || next == .flowMappingEnd then emptyNode
        else node false false steps
      let value ←
        if ← accept .value then
          let next ← peek
          if next == .flowEntry || next == .flowMappingEnd then emptyNode
          else node false false steps
        else emptyNode
      return (key, value) :: (← flowPairs false steps)
    else if ← accept .flowMappingEnd then return []
    else
      let key ← node false false steps
      return (key, ← emptyNode) :: (← flowPairs false steps)

end

/-- The directives in front of a document: at most one version, which has to be 1, and one tag
directive for a handle. -/
def directives : Nat → Bool → List (String × String) → NodeReader (List (String × String))
  | 0, _, _ => fail
  | steps + 1, versioned, handles => do
    match ← peek with
    | .directive (.version major _) =>
      skip
      if versioned || major != 1 then fail
      directives steps true handles
    | .directive (.tag handle stem) =>
      skip
      if handles.any (·.1 == handle) then fail
      directives steps versioned (handles ++ [(handle, stem)])
    | .directive (.other _) =>
      skip
      directives steps versioned handles
    | _ => return handles

/-- The handles that every document has; a directive in front of it comes first. -/
def usualHandles : List (String × String) := [("!", "!"), ("!!", coreStem)]

/-- Whether a token cannot begin a node, so that a marked document is empty. -/
def endsDocument : Token → Bool
  | .directive _ | .documentStart | .documentEnd | .streamEnd => true
  | _ => false

def beginsUnmarked : Token → Bool
  | .directive _ | .documentStart | .streamEnd => false
  | _ => true

/-- The root of the next document, and none at the end of the stream. A mark of its end is passed. -/
def document? : NodeReader (Option Node) := do
  let steps := 2 * (← get).stream.tokens.length + 4
  if beginsUnmarked (← peek) then
    let root ← node true false steps
    let _ ← accept .documentEnd
    return some root
  else if (← peek) == .streamEnd then return none
  else
    let handles ← directives steps false []
    expect .documentStart
    modify fun c => { c with handles := handles ++ usualHandles }
    let root ← if endsDocument (← peek) then emptyNode else node true false steps
    let _ ← accept .documentEnd
    return some root

def onlyDocument? : NodeReader (Option Node) := do
  match ← document? with
  | none => return none
  | some root =>
    modify fun c => { c with stream := ⟨c.stream.tokens.dropWhile (· == .documentEnd), c.stream.fault⟩ }
    expect .streamEnd
    return some root

def runOn {α : Type} (reader : NodeReader α) (stream : TokenStream) : Except Fault α :=
  (reader.run { stream := stream, handles := usualHandles }).map Prod.fst

end NodeReader

/-- The first document of a stream, if there is one; nothing behind it is looked at. -/
def Node.ofFirst? (stream : TokenStream) : Except Fault (Option Node) :=
  NodeReader.document?.runOn stream

/-- The document of a stream that must not hold more than one. -/
def Node.ofOnly? (stream : TokenStream) : Except Fault (Option Node) :=
  NodeReader.onlyDocument?.runOn stream

end Deduce.Yaml

namespace Deduce

/-- The tree of the first document of a text. -/
def Tree.ofText (text : String) : Except Failure Tree :=
  match Yaml.Node.ofFirst? (.ofChars text.toList) with
  | .ok (some root) => .ok root.tree
  | .ok none => .error (.error .emptyDocument)
  | .error .malformed => .error (.error .malformedDocument)
  | .error (.defect d) => .error (.defect d)

end Deduce
