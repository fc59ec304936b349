import Deduce.Proofs.Results
import Deduce.Proofs.Run
import Deduce.Proofs.Typing.Reading
import Deduce.Proofs.Typing.Supplied

/-!
# Where results come from

What a run returns is what was supplied, and what the rules that fired assert and trigger. The first
value of a fact stands, supplied ones before all others. Nothing of it is lost between the passes or
on the way to the results, since only declared facts are ever known.
-/

namespace Deduce

variable {schema : Schema}

/-- The facts have declared ids and the declared types. Their values may still be ill formed. -/
def Facts.Declared (schema : Schema) (facts : Facts) : Prop :=
  ∀ fact ∈ facts, schema.get? fact.id = some fact.value.type

namespace Facts

variable {known : Facts}

theorem WellTyped.declared (typed : known.WellTyped schema) : known.Declared schema :=
  fun fact member => (typed fact member).declared

theorem Declared.learnAll (declared : known.Declared schema) {facts : List Fact}
    (new : Declared schema facts) : (known.learnAll facts).Declared schema := by
  intro fact member
  rcases mem_learnAll member with old | learned
  · exact declared fact old
  · exact new fact learned

theorem Declared.find (declared : known.Declared schema) {id : String} {fact : Fact}
    (found : known.find? id = some fact) : schema.get? id = some fact.value.type := by
  rw [← id_of_find? found]
  exact declared fact (List.mem_of_find?_eq_some found)

theorem Declared.mem_ids (declared : known.Declared schema) {id : String}
    (present : known.has id = true) : id ∈ schema.ids := by
  obtain ⟨fact, found⟩ := Option.isSome_iff_exists.mp present
  exact schema.mem_ids.mpr ⟨_, declared.find found⟩

end Facts

theorem Schema.knownFrom_declared {supplied : Supplied} {known : Facts}
    (h : schema.knownFrom supplied = .ok known) : known.Declared schema := by
  intro fact member
  obtain ⟨native, _, coerced⟩ := (mem_knownFrom h).mp member
  exact (accept_eq_ok (coerce_eq_ok coerced)).1

/-- The results show the known facts: each has its native there and has the declared type. -/
structure Results.Shows (results : Results) (schema : Schema) (known : Facts) : Prop where
  natives : ∀ id, results.facts.get? id = (known.find? id).map fun fact => fact.value.native
  types : ∀ id fact, known.find? id = some fact → schema.get? id = some fact.value.type

namespace Results

/-- Declared facts are not lost when they are put in the order of the schema. -/
theorem shows_ofState {s : State} (declared : s.known.Declared schema) :
    (ofState schema s).Shows schema s.known := by
  refine ⟨fun id => ?_, fun id fact => declared.find⟩
  rw [get?_facts]
  cases present : s.known.has id with
  | true => rw [if_pos (declared.mem_ids present)]
  | false => simp [Facts.find?_eq_none.mpr present]

theorem mem_keys_ofState {s : State} (declared : s.known.Declared schema) (id : String) :
    id ∈ (ofState schema s).facts.keys ↔ s.known.has id = true := by
  rw [keys_facts, List.mem_filter]
  exact ⟨And.right, fun present => ⟨declared.mem_ids present, present⟩⟩

theorem mem_actions_ofState {s : State} (action : Action) :
    action ∈ (ofState schema s).actions ↔ action ∈ s.actions :=
  (List.mergeSort_perm _ _).mem_iff

end Results

namespace Course

variable {s last : State} {run : Run}

theorem known_eq_learnAll (course : Course s run) (ended : run.outcome = .ok last) :
    last.known = s.known.learnAll (run.fired.flatMap Rule.asserted) :=
  course.known_eq ended

theorem fired_subset (course : Course s run) (ended : run.outcome = .ok last) :
    run.fired ⊆ s.remaining := by
  intro rule fired
  obtain ⟨e, evaluated, _, rfl⟩ := mem_firedIn.mp fired
  exact (course.evaluated ended evaluated).1

/-- What a rule that fired asserts holds in the end, also where what was known at the start is not
well typed. -/
theorem holds_of_fired (course : Course s run) (ended : run.outcome = .ok last)
    (wellTyped : s.remaining.WellTyped schema) {rule : Rule} (fired : rule ∈ run.fired)
    {fact : Fact} (asserted : fact ∈ rule.asserted) : last.known.Holds fact := by
  obtain ⟨e, evaluated, holds, rfl⟩ := mem_firedIn.mp fired
  obtain ⟨now, p, visit, turn⟩ := course.exists_visit ended evaluated
  obtain ⟨swept, established⟩ := State.progress_eq_ok visit.progressed
  have produced := swept.mem_facts.mpr ⟨e, turn, holds, asserted⟩
  obtain ⟨found, present, equal⟩ := Facts.holds_of_establish
    ((wellTyped.subset visit.among).asserts.facts swept.sources) established fact produced
  exact ⟨found, visit.submap fact.id found present, equal⟩

theorem actions_eq (course : Course s run) (ended : run.outcome = .ok last) :
    last.actions = collect s.actions (run.fired.flatMap Rule.triggered) := by
  induction course with
  | failed => cases ended
  | ended progressed =>
    cases ended
    rw [Run.fired_single, ← (State.progress_eq_ok progressed).1.actions_eq]
    rfl
  | continued progressed _ _ ih =>
    rw [ih ended, Run.fired_cons, List.flatMap_append, collect_append,
      ← (State.progress_eq_ok progressed).1.actions_eq]
    rfl

theorem mem_actions (course : Course s run) (ended : run.outcome = .ok last) (action : Action) :
    action ∈ last.actions ↔ action ∈ s.actions ∨ ∃ rule ∈ run.fired, action ∈ rule.triggered := by
  rw [course.actions_eq ended, mem_collect, List.mem_flatMap]

end Course

/-- The results are what was supplied and what the rules that fired say, in the order in which they
were evaluated. -/
structure Results.Exact (results : Results) (schema : Schema) (supplied : Supplied)
    (fired : List Rule) : Prop where
  order : results.facts.keys.Sublist schema.ids
  ids : ∀ id, id ∈ results.facts.keys ↔
    (∃ value, schema.Takes supplied id value) ∨ ∃ rule ∈ fired, ∃ fact ∈ rule.asserted, fact.id = id
  given : ∀ id value, schema.Takes supplied id value → results.facts.get? id = some value.native
  /-- The first assertion of a fact that was not supplied gives its value. -/
  deduced : ∀ id fact, (¬ ∃ value, schema.Takes supplied id value) →
    Facts.find? (fired.flatMap Rule.asserted) id = some fact →
      results.facts.get? id = some fact.value.native
  /-- All assertions of a fact are equal to its value. -/
  equal : ∀ rule ∈ fired, ∀ fact ∈ rule.asserted, ∃ value : Value,
    schema.get? fact.id = some value.type ∧ results.facts.get? fact.id = some value.native ∧
      value.compare .equal fact.value = .ok true
  actions : ∀ action, action ∈ results.actions ↔ ∃ rule ∈ fired, action ∈ rule.triggered

namespace Engine

variable {engine : Engine} {tree : Tree} {supplied : Supplied} {results : Results}

theorem shows_of_returned (accepted : RuleTable.ofTree engine.schema tree = .ok engine.rules)
    (returned : (engine.run (some supplied)).2 = .ok results) :
    ∃ start last, engine.schema.knownFrom supplied = .ok start ∧
      (engine.rules.run start).outcome = .ok last ∧
      results = Results.ofState engine.schema last ∧ last.known.Declared engine.schema := by
  obtain ⟨start, last, known, ended, rfl⟩ := run_eq_ok returned
  refine ⟨start, last, known, ended, rfl, ?_⟩
  have course := engine.rules.run_course start
  have fired := (RuleTable.ofTree_wellTyped accepted).subset (course.fired_subset ended)
  rw [course.known_eq_learnAll ended]
  exact (Schema.knownFrom_declared known).learnAll fired.asserts.flatMap_asserted.declared

/-- A run returns exactly what was supplied and what the rules that fired in it say. -/
theorem run_exact (accepted : RuleTable.ofTree engine.schema tree = .ok engine.rules)
    (distinct : supplied.keys.Nodup) (returned : (engine.run (some supplied)).2 = .ok results) :
    ∃ run, engine.runOn supplied = .ok run ∧
      results.Exact engine.schema supplied run.fired := by
  obtain ⟨start, last, known, ended, rfl, declared⟩ := shows_of_returned accepted returned
  have course := engine.rules.run_course start
  have shown := Results.shows_ofState declared
  have whole := course.known_eq_learnAll ended
  refine ⟨engine.rules.run start, by simp only [runOn, known, Except.map], ?_⟩
  constructor
  case order =>
    rw [Results.keys_facts]
    exact List.filter_sublist
  case ids =>
    intro id
    rw [Results.mem_keys_ofState declared, whole, Facts.has_learnAll, Bool.or_eq_true,
      Schema.has_knownFrom known]
    apply or_congr_right
    simp
  case given =>
    intro id value taken
    have found := course.grown ended id _ (Schema.find?_knownFrom distinct known taken)
    rw [shown.natives, found]
    rfl
  case deduced =>
    intro id fact absent first
    have missing : start.find? id = none := by
      rw [← Schema.has_knownFrom known, Bool.not_eq_true] at absent
      exact Facts.find?_eq_none.mpr absent
    rw [shown.natives, whole, Facts.find?_learnAll, missing, Option.none_or, first]
    rfl
  case equal =>
    intro rule fired fact asserted
    obtain ⟨found, present, equal⟩ :=
      course.holds_of_fired ended (RuleTable.ofTree_wellTyped accepted) fired asserted
    refine ⟨found.value, shown.types _ _ present, ?_, equal⟩
    rw [shown.natives, present]
    rfl
  case actions =>
    intro action
    rw [Results.mem_actions_ofState, course.mem_actions ended]
    simp

def assertedTwice : Engine where
  schema := ⟨"facts", [("D", .decimal), ("S", .string)], by decide⟩
  rules := [
    { name := "long"
      conditionSet := some ⟨true, [⟨"S", .equal, some ⟨.string, some (.string "go")⟩⟩]⟩
      facts := some [⟨"D", ⟨.decimal, some (.decimal (.finite false 150 (-2)))⟩⟩] },
    { name := "short"
      conditionSet := some ⟨true,
        [⟨"D", .lessThan, some ⟨.decimal, some (.decimal (.finite false 2 0))⟩⟩]⟩
      facts := some [⟨"D", ⟨.decimal, some (.decimal (.finite false 15 (-1)))⟩⟩]
      actions := some [⟨.field, "less"⟩] },
    { name := "behind"
      conditionSet := some ⟨true,
        [⟨"D", .greaterThan, some ⟨.decimal, some (.decimal (.finite false 2 0))⟩⟩]⟩
      actions := some [⟨.field, "more"⟩] }]

/-- The first form of the number is returned, and the action of the rule that did not fire is not. -/
theorem assertedTwice_exact :
    ∃ results run, (assertedTwice.run (some [("S", .string "go")])).2 = .ok results ∧
      assertedTwice.runOn [("S", .string "go")] = .ok run ∧
      results.facts = [("D", .decimal (.finite false 150 (-2))), ("S", .string "go")] ∧
      results.Exact assertedTwice.schema [("S", .string "go")] run.fired ∧
      run.fired = assertedTwice.rules.take 2 := by
  have accepted : RuleTable.ofTree assertedTwice.schema (.sequence [
      .mapping [(.scalar "name", .scalar "long"),
        (.scalar "conditions", .sequence [.scalar "S == go"]),
        (.scalar "facts", .sequence [.scalar "D = 1.50"])],
      .mapping [(.scalar "name", .scalar "short"),
        (.scalar "conditions", .sequence [.scalar "D < 2"]),
        (.scalar "facts", .sequence [.scalar "D = 1.5"]),
        (.scalar "actions", .sequence [.scalar "Field less"])],
      .mapping [(.scalar "name", .scalar "behind"),
        (.scalar "conditions", .sequence [.scalar "D > 2"]),
        (.scalar "actions", .sequence [.scalar "Field more"])]]) = .ok assertedTwice.rules := rfl
  have returned : (assertedTwice.run (some [("S", .string "go")])).2 = .ok _ := rfl
  obtain ⟨run, ran, exact⟩ := run_exact accepted (by decide) returned
  have same := Except.ok.inj ran
  refine ⟨_, run, returned, ran, rfl, exact, ?_⟩
  rw [← same]
  rfl

end Engine

end Deduce
