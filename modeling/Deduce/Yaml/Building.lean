import Deduce.Yaml.Data
import Deduce.Yaml.Merge

/-!
# Building data from nodes

A node stands for data of the kind that its tag names, and is built once, however often it is used. A
scalar is built where it is first met. A collection is only begun there, and its contents are built
after those of all collections that were begun before.
-/

namespace Deduce.Yaml

/-- What a node stands for: data, or the collection with a number. -/
inductive Part where
  | ready (d : Data)
  | collection (number : Nat)

inductive Contents where
  | list (items : List Part)
  | pairList (items : List (Part × Part))
  | set (items : List Data)
  | map (entries : List (Data × Part))

inductive CollectionKind where
  | list
  | map
  | set
  /-- A list of mappings of one pair each. -/
  | pairList
  deriving DecidableEq

def CollectionKind.ofTag? (tag : String) : Option CollectionKind :=
  if tag == coreTag "seq" then some list
  else if tag == coreTag "map" then some map
  else if tag == coreTag "set" then some set
  else if tag == coreTag "omap" || tag == coreTag "pairs" then some pairList
  else none

def Data.ofText (node : Node) (tag text : String) : Except Fault Data :=
  let checked (result : Except Defect Data) : Except Fault Data := result.mapError .defect
  if tag == coreTag "str" then .ok (.string text)
  else if tag == coreTag "null" then .ok .null
  else if tag == coreTag "bool" then checked ((boolOfScalar text).map .bool)
  else if tag == coreTag "int" then checked ((intOfScalar text).map .int)
  else if tag == coreTag "float" then
    checked ((floatOfScalar? text).map fun
      | some x => .ofDouble node.number x
      | none => .nan none)
  else if tag == coreTag "timestamp" then
    match node with
    | .scalar .. =>
      match Shape.timestamp? (Shape.dropLineFeed text.toList) with
      | none => .error (.defect .notTimestamp)
      | some t =>
        match t.resolve with
        | .ok (.inl d) => .ok (.date d)
        | .ok (.inr m) => .ok (.moment m)
        | .error part => .error (.defect (.dateOutOfRange part))
    | _ => .error (.defect .timestampNotText)
  else if tag == coreTag "binary" then
    match bytesOfScalar? text with
    | some b => .ok (.bytes b)
    | none => .error .malformed
  else .error .malformed

/-- What has been built and begun, and what has become of the nodes. -/
structure Building where
  changes : Changes := {}
  parts : List (Nat × Part) := []
  /-- The collections whose contents are still to be built, in the order in which they were begun. -/
  begun : List (CollectionKind × Node) := []

/-- A step of building, which may find a fault. -/
abbrev Builder := StateT Building (Except Fault)

namespace Builder

def fail {α : Type} : Builder α := throw .malformed

def remember (node : Node) (part : Part) : Builder Part := do
  modify fun b => { b with parts := (node.number, part) :: b.parts }
  return part

def part (node : Node) : Builder Part := do
  let b ← get
  match b.parts.find? (·.1 == node.number) with
  | some (_, part) => return part
  | none =>
    let tag := node.tagAfter b.changes
    match CollectionKind.ofTag? tag with
    | some kind =>
      set { b with begun := b.begun ++ [(kind, node)] }
      remember node (.collection node.number)
    | none =>
      match node.ownText? b.changes with
      | none => fail
      | some text => remember node (.ready (← Data.ofText node tag text))

/-- The key that a node stands for; a collection is none. -/
def key (node : Node) : Builder Data := do
  match ← part node with
  | .ready d => return d
  | .collection _ => fail

/-- The entries of a mapping, which is merged before. -/
def entries (node : Node) : Builder (List (Data × Part)) := do
  match node.merge? with
  | none => fail
  | some merged =>
    modify fun b => { b with changes := b.changes ++ merged.changes }
    merged.pairs.foldlM (fun found (k, v) => do
      let k ← key k
      return Data.putKey k (← part v) found) []

def items : Node → Builder (List Node)
  | .sequence _ items _ => return items
  | _ => fail

def onlyPair (node : Node) : Builder (Part × Part) := do
  match node.pairsAfter (← get).changes with
  | [(k, v)] =>
    let k ← part k
    return (k, ← part v)
  | _ => fail

def contents (kind : CollectionKind) (node : Node) : Builder Contents := do
  match kind with
  | .list => return .list (← (← items node).mapM part)
  | .pairList => return .pairList (← (← items node).mapM onlyPair)
  | .set => return .set (Data.setOrder ((← entries node).map Prod.fst))
  | .map => return .map (← entries node)

/-- The contents of all collections that have been begun, and of those begun meanwhile. -/
def finish : Nat → Builder (List (Nat × Contents))
  | 0 => fail
  | steps + 1 => do
    let b ← get
    match b.begun with
    | [] => return []
    | (kind, node) :: rest =>
      set { b with begun := rest }
      let found ← contents kind node
      return (node.number, found) :: (← finish steps)

end Builder

/-- The data of a part, collections put together down to a depth. -/
def Part.data (found : List (Nat × Contents)) : Nat → Part → Data
  | _, .ready d => d
  | 0, .collection _ => .null
  | depth + 1, .collection number =>
    match (found.find? (·.1 == number)).map Prod.snd with
    | none => .null
    | some (.list items) => .list (items.map (Part.data found depth))
    | some (.pairList items) =>
      .pairList (items.map fun (a, b) => (a.data found depth, b.data found depth))
    | some (.set items) => .set items
    | some (.map entries) => .map (entries.map fun (k, v) => (k, v.data found depth))

namespace Data

/-- The data of a root. Its number bounds the number of collections and their depth. -/
def ofNode (root : Node) : Except Fault Data :=
  let steps := root.number + 2
  let build : Builder Data := do
    let part ← Builder.part root
    return part.data (← Builder.finish steps) steps
  (build.run {}).map Prod.fst

/-- The data of the only document of a stream; an empty stream holds nothing. -/
def ofStream (stream : TokenStream) : Except Fault Data :=
  match Node.ofOnly? stream with
  | .error fault => .error fault
  | .ok none => .ok null
  | .ok (some root) => ofNode root

end Data

end Deduce.Yaml
