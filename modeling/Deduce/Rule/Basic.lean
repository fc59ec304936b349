import Deduce.Value

/-!
# Rules

A rule deduces facts and triggers actions when its conditions hold. A rule that checks whether facts
are known is final: its turn comes once the other rules add no more facts.
-/

namespace Deduce

/-- A condition on the fact `id`; a presence check has no value. -/
structure Condition where
  id : String
  operator : Operator
  value : Option Value := none
  deriving DecidableEq

def Condition.text (c : Condition) : String :=
  match c.value with
  | none => c.id ++ " " ++ c.operator.name
  | some value => c.id ++ " " ++ c.operator.name ++ " " ++ value.text

/-- Conditions that hold all together, or of which one has to. -/
structure ConditionSet where
  isAnd : Bool
  conditions : List Condition
  deriving DecidableEq

structure Fact where
  id : String
  value : Value
  deriving DecidableEq

def Fact.text (f : Fact) : String := f.id ++ " = " ++ f.value.text

inductive ActionKind where
  | field
  | fieldGroup
  | block
  | player
  deriving DecidableEq

namespace ActionKind

def all : List ActionKind := [field, fieldGroup, block, player]

def name : ActionKind → String
  | field => "Field"
  | fieldGroup => "FieldGroup"
  | block => "Block"
  | player => "Player"

def order : ActionKind → Nat
  | field => 0
  | fieldGroup => 1
  | block => 2
  | player => 3

def ofName? (name : String) : Option ActionKind := all.find? (·.name == name)

end ActionKind

structure Action where
  kind : ActionKind
  id : String
  deriving DecidableEq

namespace Action

def text (a : Action) : String := a.kind.name ++ " " ++ a.id

/-- Actions come by kind, and within a kind by the code points of their ids. -/
def before (a b : Action) : Bool :=
  a.kind.order < b.kind.order || (a.kind.order == b.kind.order && a.id ≤ b.id)

end Action

structure Rule where
  name : String
  description : Option String := none
  conditionSet : Option ConditionSet := none
  facts : Option (List Fact) := none
  actions : Option (List Action) := none
  isFinal : Bool := false
  deriving DecidableEq

namespace Rule

def conditions (r : Rule) : List Condition :=
  match r.conditionSet with
  | none => []
  | some set => set.conditions

def asserted (r : Rule) : List Fact := r.facts.getD []

def triggered (r : Rule) : List Action := r.actions.getD []

end Rule

end Deduce
