import Deduce.Yaml.Node

/-!
# Merging mappings

A mapping takes over the pairs of the mappings under its merge signs, which stand in front of its own.
Merging changes the nodes themselves, wherever else they are used: sources are merged first, and a
value sign among the keys becomes an ordinary key.
-/

namespace Deduce.Yaml

structure Changes where
  /-- Mappings that have been merged. -/
  merged : List Nat := []
  /-- Value signs that have become ordinary keys. -/
  ordinary : List Nat := []

namespace Changes

def append (a b : Changes) : Changes := ⟨a.merged ++ b.merged, a.ordinary ++ b.ordinary⟩

instance : Append Changes := ⟨append⟩

end Changes

structure Merged where
  pairs : List (Node × Node)
  changes : Changes

namespace Node

def isTagged (kind : ScalarKind) (node : Node) : Bool := node.tag == kind.tag

/-- The sources in the order in which their pairs are taken over. -/
def joinSources (sources : List Merged) : Merged :=
  ⟨sources.flatMap Merged.pairs, sources.foldl (fun changes s => changes ++ s.changes) {}⟩

/-- Merges the mapping with a number and pairs. Of several sources in a sequence the last comes first;
what is no mapping cannot be merged. -/
def mergePairs : Nat → Nat → List (Node × Node) → Option Merged
  | 0, _, _ => none
  | steps + 1, number, pairs => do
    let source (node : Node) : Option Merged :=
      match node with
      | mapping _ inner number => mergePairs steps number inner
      | _ => none
    let sources ← (pairs.filter fun (key, _) => key.isTagged .merge).mapM fun (_, value) =>
      match value with
      | sequence _ items _ => do
        let found ← items.mapM source
        return joinSources found.reverse
      | value => source value
    let own := pairs.filter fun (key, _) => !key.isTagged .merge
    let signs := (own.filter fun (key, _) => key.isTagged .value).map fun (key, _) => key.number
    let taken := joinSources sources
    return ⟨taken.pairs ++ own, taken.changes ++ ⟨[number], signs⟩⟩

def merge? : Node → Option Merged
  | mapping _ pairs number => mergePairs (number + 1) number pairs
  | _ => none

def tagAfter (changes : Changes) (node : Node) : String :=
  if changes.ordinary.contains node.number then ScalarKind.string.tag else node.tag

def pairsAfter (changes : Changes) (node : Node) : List (Node × Node) :=
  match node with
  | mapping _ pairs number =>
    if changes.merged.contains number then (node.merge?.map Merged.pairs).getD pairs else pairs
  | _ => []

/-- The text of a scalar, or of the value under the value sign of a mapping. -/
def ownTextWithin (changes : Changes) : Nat → Node → Option String
  | _, scalar _ text _ => some text
  | _, sequence .. => none
  | 0, mapping .. => none
  | steps + 1, node =>
    match (node.pairsAfter changes).find? fun (key, _) =>
        key.tagAfter changes == ScalarKind.value.tag with
    | some (_, value) => ownTextWithin changes steps value
    | none => none

def ownText? (changes : Changes) (node : Node) : Option String :=
  ownTextWithin changes (node.number + 1) node

end Node

end Deduce.Yaml
