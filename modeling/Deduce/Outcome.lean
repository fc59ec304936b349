import Deduce.Facts

/-!
# Outcomes of rules

A condition holds, fails or is unknown: a comparison with a fact that is not known yet is unknown
rather than failed, and so is a rule that depends on it. Presence checks are never unknown.
-/

namespace Deduce

inductive Outcome where
  | holds
  | fails
  | unknown
  deriving DecidableEq

namespace Outcome

def ofBool (b : Bool) : Outcome := if b then holds else fails

def name : Outcome → String
  | holds => "true"
  | fails => "false"
  | unknown => "unknown"

end Outcome

namespace Condition

def outcome (known : Facts) (c : Condition) : Except Failure Outcome :=
  let fact? := known.find? c.id
  match c.operator with
  | .isDefined => .ok (.ofBool fact?.isSome)
  | .notDefined => .ok (.ofBool fact?.isNone)
  | op =>
    match fact? with
    | none => .ok .unknown
    | some fact =>
      match c.value with
      | none => .error (.error (.noConditionValue c))
      | some value =>
        ((fact.value.compare op value).mapError (Failure.evaluating c)).map Outcome.ofBool

def isWaiting (known : Facts) (c : Condition) : Bool :=
  !c.operator.isPresenceCheck && !known.has c.id

end Condition

/-- The outcome of conditions none of which waits, up to the first that fails. -/
def outcomeOfEach (known : Facts) : List Condition → Except Failure Outcome
  | [] => .ok .holds
  | c :: rest =>
    match c.outcome known with
    | .error failure => .error failure
    | .ok .fails => .ok .fails
    | .ok _ => outcomeOfEach known rest

/-- All conditions have to hold. While one waits for its fact none is evaluated. -/
def outcomeOfAll (known : Facts) (conditions : List Condition) : Except Failure Outcome :=
  if conditions.any (Condition.isWaiting known) then .ok .unknown else outcomeOfEach known conditions

/-- One condition has to hold; conditions behind the first that holds are not evaluated. -/
def outcomeOfAny (known : Facts) : List Condition → Except Failure Outcome
  | [] => .ok .fails
  | c :: rest =>
    match c.outcome known with
    | .error failure => .error failure
    | .ok .holds => .ok .holds
    | .ok .fails => outcomeOfAny known rest
    | .ok .unknown =>
      match outcomeOfAny known rest with
      | .ok .fails => .ok .unknown
      | result => result

def ConditionSet.outcome (known : Facts) (set : ConditionSet) : Except Failure Outcome :=
  if set.isAnd then outcomeOfAll known set.conditions else outcomeOfAny known set.conditions

/-- The outcome of a rule; one without conditions holds. -/
def Rule.outcome (known : Facts) (r : Rule) : Except Failure Outcome :=
  match r.conditionSet with
  | none => .ok .holds
  | some set => atPlace (.rule r.name) (set.outcome known)

end Deduce
