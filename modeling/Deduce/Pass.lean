import Deduce.Outcome
import Deduce.Rule.Table

/-!
# A pass over the rules

Each rule of the phase is evaluated once, in order. The facts of a rule that fires are known to the
rules behind it; a fact that was known keeps its value. Rules of the other phase and undecided ones
remain.
-/

namespace Deduce

/-- A rule's outcome on the facts that were known when its turn came. -/
structure Evaluation where
  rule : Rule
  known : Facts
  outcome : Outcome
  deriving DecidableEq

/-- The facts and actions of the rules that fired, in order, and the rules that remain. -/
structure PassResult where
  facts : List Fact
  actions : List Action
  remaining : RuleTable
  deriving DecidableEq

/-- What was evaluated in a pass, up to a failure if there was one. -/
structure Pass where
  evaluations : List Evaluation
  result : Except Failure PassResult

namespace PassResult

def empty : PassResult := ⟨[], [], []⟩

/-- The result with a rule in front that remains. -/
def keep (rule : Rule) (result : PassResult) : PassResult :=
  { result with remaining := rule :: result.remaining }

/-- The result with a rule in front that fired. -/
def fire (rule : Rule) (result : PassResult) : PassResult :=
  { result with
    facts := rule.asserted ++ result.facts
    actions := rule.triggered ++ result.actions }

@[simp] theorem facts_keep (rule : Rule) (result : PassResult) :
    (result.keep rule).facts = result.facts := rfl

@[simp] theorem actions_keep (rule : Rule) (result : PassResult) :
    (result.keep rule).actions = result.actions := rfl

@[simp] theorem remaining_keep (rule : Rule) (result : PassResult) :
    (result.keep rule).remaining = rule :: result.remaining := rfl

@[simp] theorem facts_fire (rule : Rule) (result : PassResult) :
    (result.fire rule).facts = rule.asserted ++ result.facts := rfl

@[simp] theorem actions_fire (rule : Rule) (result : PassResult) :
    (result.fire rule).actions = rule.triggered ++ result.actions := rfl

@[simp] theorem remaining_fire (rule : Rule) (result : PassResult) :
    (result.fire rule).remaining = result.remaining := rfl

end PassResult

namespace Pass

def after (evaluation : Evaluation) (change : PassResult → PassResult) (pass : Pass) : Pass :=
  ⟨evaluation :: pass.evaluations, pass.result.map change⟩

@[simp] theorem evaluations_after (evaluation : Evaluation) (change : PassResult → PassResult)
    (pass : Pass) : (pass.after evaluation change).evaluations = evaluation :: pass.evaluations := rfl

@[simp] theorem result_after (evaluation : Evaluation) (change : PassResult → PassResult)
    (pass : Pass) : (pass.after evaluation change).result = pass.result.map change := rfl

def ofRules (isFinal : Bool) (known : Facts) : RuleTable → Pass
  | [] => ⟨[], .ok .empty⟩
  | rule :: rest =>
    if rule.isFinal != isFinal then
      let pass := ofRules isFinal known rest
      ⟨pass.evaluations, pass.result.map (PassResult.keep rule)⟩
    else
      match rule.outcome known with
      | .error failure => ⟨[], .error failure⟩
      | .ok .unknown =>
        (ofRules isFinal known rest).after ⟨rule, known, .unknown⟩ (PassResult.keep rule)
      | .ok .fails => (ofRules isFinal known rest).after ⟨rule, known, .fails⟩ id
      | .ok .holds =>
        (ofRules isFinal (known.learnAll rule.asserted) rest).after ⟨rule, known, .holds⟩
          (PassResult.fire rule)

end Pass

end Deduce
