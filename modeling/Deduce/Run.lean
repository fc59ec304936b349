import Deduce.Journal
import Deduce.Pass

/-!
# Running rules to the end

Passes are repeated until no rule is left or nothing more can be learned. A pass of the normal phase
that adds no fact begins the final phase, and one of the final phase that adds none ends the run. The
passes of a run are kept, whether it succeeds or fails.
-/

namespace Deduce

/-- Actions in the order in which they came up, each once. -/
def collect (actions : List Action) (more : List Action) : List Action :=
  more.foldl (fun found action =>
    if found.any (·.text == action.text) then found else found ++ [action]) actions

def sortActions (actions : List Action) : List Action := actions.mergeSort Action.before

/-- What is known and open between two passes. -/
structure State where
  known : Facts
  actions : List Action := []
  remaining : RuleTable
  isFinal : Bool := false
  passes : Nat := 0
  deriving DecidableEq

/-- What a completed pass led to: its result, the facts known then, and how many of them are new. -/
structure Progress where
  result : PassResult
  known : Facts
  added : Nat
  deriving DecidableEq

structure Round where
  isFinal : Bool
  evaluations : List Evaluation
  /-- None when the pass failed or its facts could not be established. -/
  progress : Option Progress
  deriving DecidableEq

/-- The passes of a run, and the state in which it ended. -/
structure Run where
  rounds : List Round
  outcome : Except Failure State

namespace State

def pass (s : State) : Pass := Pass.ofRules s.isFinal s.known s.remaining

/-- What the pass of a state leads to, once its facts are established. -/
def progress (s : State) : Except Failure Progress :=
  match s.pass.result with
  | .error failure => .error failure
  | .ok result =>
    (s.known.establish result.facts).map fun (known, added) => ⟨result, known, added⟩

def after (s : State) (p : Progress) : State :=
  ⟨p.known, collect s.actions p.result.actions, p.result.remaining, s.isFinal, s.passes + 1⟩

def isDone (s : State) (added : Nat) : Bool := s.remaining.isEmpty || (s.isFinal && added == 0)

/-- The state from which the next pass starts: a pass that added nothing begins the final phase. -/
def advance (s : State) (added : Nat) : State := { s with isFinal := s.isFinal || added == 0 }

/-- Runs from a state with at most `allowed` passes more; `limit` is the number allowed in all. -/
def runWithin (limit : Nat) : Nat → State → Run
  | 0, _ => ⟨[], .error (.error (.notConverged limit))⟩
  | allowed + 1, s =>
    match s.progress with
    | .error failure => ⟨[⟨s.isFinal, s.pass.evaluations, none⟩], .error failure⟩
    | .ok p =>
      let round : Round := ⟨s.isFinal, s.pass.evaluations, some p⟩
      let next := s.after p
      if next.isDone p.added then ⟨[round], .ok next⟩
      else
        let run := runWithin limit allowed (next.advance p.added)
        ⟨round :: run.rounds, run.outcome⟩

end State

def passLimit (table : RuleTable) : Nat := 2 * table.length + 1

namespace RuleTable

def run (table : RuleTable) (known : Facts) : Run :=
  State.runWithin (passLimit table) (passLimit table) { known := known, remaining := table }

end RuleTable

namespace Run

def evaluations (run : Run) : List Evaluation := run.rounds.flatMap Round.evaluations

def fired (run : Run) : List Rule :=
  (run.evaluations.filter (·.outcome == .holds)).map Evaluation.rule

def roundEntries (number : Nat) (round : Round) : Journal :=
  let evaluated := round.evaluations.map fun e => Entry.ruleEvaluated e.rule.name e.outcome
  match round.progress with
  | none => evaluated
  | some p =>
    evaluated ++
      [.passEnded number round.isFinal p.added p.result.actions.length p.result.remaining.length]

def entriesFrom (number : Nat) : List Round → Journal
  | [] => []
  | round :: rest => roundEntries number round ++ entriesFrom (number + 1) rest

def journal (run : Run) : Journal :=
  entriesFrom 1 run.rounds ++
    match run.outcome with
    | .error _ => []
    | .ok s => [.runFinished s.passes s.known.length s.actions.length]

end Run

/-- The result of a run: facts in the order of the schema, actions by kind and id. -/
structure Results where
  facts : Entries Native
  actions : List Action
  passes : Nat

namespace Results

def ofState (schema : Schema) (s : State) : Results :=
  ⟨schema.natives fun id => (s.known.find? id).map Fact.value, sortActions s.actions, s.passes⟩

def get (results : Results) (id : String) (default : Native) : Native :=
  (results.facts.get? id).getD default

def triggers (results : Results) (kindName id : String) : Except Error Bool :=
  (ActionKind.ofName kindName).map fun kind =>
    results.actions.any fun a => a.kind == kind && a.id == id

end Results

end Deduce
