import Deduce.Rule.Line
import Deduce.Yaml.Node

/-!
# Rule tables

A document of rules is a sequence of mappings with the attributes `name`, `description`, `conditions`,
`facts` and `actions`, each at most once and in any order. Reading stops at the first thing that
cannot be accepted.
-/

namespace Deduce

/-- The rules in the order of the document; no two have one name. -/
abbrev RuleTable := List Rule

/-- The conditions behind those already read, all without a combinator. Two equalities of one fact
in an AND set can never hold both. -/
def conditionsFrom (schema : Schema) (isAnd : Bool) (done : List Condition) :
    List Tree → Except Failure (List Condition)
  | [] => .ok done
  | tree :: rest =>
    match readCondition schema tree with
    | .error failure => .error failure
    | .ok (.combinator _) => .error (.error .misplacedCombinator)
    | .ok (.condition c) =>
      if isAnd && c.operator == .equal &&
          done.any (fun previous => previous.id == c.id && previous.operator == .equal) then
        .error (.error (.contradictoryEqualities c.id))
      else conditionsFrom schema isAnd (done ++ [c]) rest

/-- A condition set; the first line may say how the conditions are joined. -/
def conditionSetOf (schema : Schema) : List Tree → Except Failure ConditionSet
  | [] => .ok ⟨true, []⟩
  | tree :: rest =>
    match readCondition schema tree with
    | .error failure => .error failure
    | .ok (.combinator isAnd) => (conditionsFrom schema isAnd [] rest).map (ConditionSet.mk isAnd)
    | .ok (.condition c) => (conditionsFrom schema true [c] rest).map (ConditionSet.mk true)

def readConditions (schema : Schema) (tree : Tree) : Except Failure ConditionSet :=
  match tree.items? with
  | none => .error (.error .notConditionList)
  | some items => conditionSetOf schema items

def factsFrom (schema : Schema) (done : List Fact) : List Tree → Except Failure (List Fact)
  | [] => .ok done
  | tree :: rest =>
    match readFact schema tree with
    | .error failure => .error failure
    | .ok fact =>
      if done.any (·.id == fact.id) then .error (.error (.repeatedFact fact.id))
      else factsFrom schema (done ++ [fact]) rest

def readFacts (schema : Schema) (tree : Tree) : Except Failure (List Fact) :=
  match tree.items? with
  | none => .error (.error .notFactList)
  | some items => factsFrom schema [] items

def actionsFrom (done : List Action) : List Tree → Except Failure (List Action)
  | [] => .ok done
  | tree :: rest =>
    match readAction tree with
    | .error failure => .error failure
    | .ok action =>
      if done.any (·.text == action.text) then .error (.error (.repeatedAction action.text))
      else actionsFrom (done ++ [action]) rest

def readActions (tree : Tree) : Except Failure (List Action) :=
  match tree.items? with
  | none => .error (.error .notActionList)
  | some items => actionsFrom [] items

inductive Attribute where
  | name
  | description
  | conditions
  | facts
  | actions
  deriving DecidableEq

namespace Attribute

def all : List Attribute := [name, description, conditions, facts, actions]

def key : Attribute → String
  | name => "name"
  | description => "description"
  | conditions => "conditions"
  | facts => "facts"
  | actions => "actions"

def ofKey? (key : String) : Option Attribute := all.find? (·.key == key)

end Attribute

/-- The attributes of a rule that have been read. An attribute without text is there all the same. -/
structure Draft where
  name : Option (Option String) := none
  description : Option (Option String) := none
  conditions : Option ConditionSet := none
  facts : Option (List Fact) := none
  actions : Option (List Action) := none
  deriving DecidableEq

namespace Draft

def has (draft : Draft) : Attribute → Bool
  | .name => draft.name.isSome
  | .description => draft.description.isSome
  | .conditions => draft.conditions.isSome
  | .facts => draft.facts.isSome
  | .actions => draft.actions.isSome

def set (schema : Schema) (draft : Draft) (value : Tree) :
    Attribute → Except Failure Draft
  | .name => .ok { draft with name := some value.text? }
  | .description => .ok { draft with description := some value.text? }
  | .conditions => (readConditions schema value).map fun set => { draft with conditions := some set }
  | .facts => (readFacts schema value).map fun facts => { draft with facts := some facts }
  | .actions => (readActions value).map fun actions => { draft with actions := some actions }

/-- The draft with one pair more of the rule described by `context`. -/
def add (schema : Schema) (context : String) (draft : Draft) (key value : Tree) :
    Except Failure Draft :=
  match key.text? with
  | none => .error (.error (.unknownAttribute none context))
  | some name =>
    match Attribute.ofKey? name with
    | none => .error (.error (.unknownAttribute (some name) context))
    | some found =>
      if draft.has found then .error (.error (.repeatedAttribute name context))
      else atPlace (.readingRule context) (draft.set schema value found)

def addAll (schema : Schema) (context : String) :
    Draft → List (Tree × Tree) → Except Failure Draft
  | draft, [] => .ok draft
  | draft, (key, value) :: rest =>
    match draft.add schema context key value with
    | .error failure => .error failure
    | .ok draft => draft.addAll schema context rest

/-- The rule of a draft. It is final if one of its conditions asks whether a fact is known. -/
def rule (context : String) (draft : Draft) : Except Failure Rule :=
  match draft.name.join with
  | none => .error (.error (.missingName context))
  | some name => .ok
    { name := name
      description := draft.description.join
      conditionSet := draft.conditions
      facts := draft.facts
      actions := draft.actions
      isFinal := draft.conditions.any fun set => set.conditions.any (·.operator.isPresenceCheck) }

end Draft

def readRule (schema : Schema) (tree : Tree) : Except Failure Rule :=
  match tree.pairs? with
  | none => .error (.error (.notRule tree.flowText))
  | some pairs =>
    match ({} : Draft).addAll schema tree.flowText pairs with
    | .error failure => .error failure
    | .ok draft => draft.rule tree.flowText

namespace RuleTable

def readFrom (schema : Schema) (done : RuleTable) : List Tree → Except Failure RuleTable
  | [] => .ok done
  | tree :: rest =>
    match readRule schema tree with
    | .error failure => .error failure
    | .ok rule =>
      if done.any (·.name == rule.name) then .error (.error (.repeatedRule rule.name))
      else readFrom schema (done ++ [rule]) rest

def ofTree (schema : Schema) (tree : Tree) : Except Failure RuleTable :=
  match tree.items? with
  | none => .error (.error .notRuleList)
  | some items => readFrom schema [] items

def ofText (schema : Schema) (text : String) : Except Failure RuleTable :=
  (Tree.ofText text).bind (ofTree schema)

def find? (table : RuleTable) (name : String) : Option Rule := List.find? (·.name == name) table

end RuleTable

end Deduce
