import Deduce.Proofs.Coercion
import Deduce.Proofs.Convergence
import Deduce.Proofs.LeastModel

/-!
# Running again

What a run returns can be supplied again as it is. Where final rules assert nothing, the facts returned
are closed under the rules, so that a second run finds nothing to add: it returns the same after a pass
of each phase.
-/

namespace Deduce

variable {schema : Schema}

namespace Results

variable {s : State}

theorem mem_facts {id : String} {native : Native} :
    (id, native) ∈ (ofState schema s).facts ↔
      id ∈ schema.ids ∧ ∃ fact, s.known.find? id = some fact ∧ fact.value.native = native := by
  simp only [ofState, Schema.natives, List.mem_filterMap, Option.map_map, Option.map_eq_some_iff,
    Function.comp, Prod.mk.injEq]
  constructor
  · rintro ⟨id', declared, fact, found, rfl, rfl⟩
    exact ⟨declared, fact, found, rfl⟩
  · rintro ⟨declared, fact, found, rfl⟩
    exact ⟨id, declared, fact, found, rfl, rfl⟩

theorem facts_wellFormed : Supplied.IsWellFormed (ofState schema s).facts := by
  rintro ⟨id, native⟩ member
  obtain ⟨_, fact, _, rfl⟩ := mem_facts.mp member
  exact fact.value.native_isWellFormed

/-- Supplied again, the facts returned become the facts that were known. -/
theorem exists_knownFrom (typed : s.known.WellTyped schema) :
    ∃ start, schema.knownFrom (ofState schema s).facts = .ok start ∧ start.find? = s.known.find? := by
  let value? (id : String) : Option Value := (s.known.find? id).map Fact.value
  have admitted (id : String) (value : Value) (known : value? id = some value) :
      schema.Admits id value := by
    obtain ⟨fact, found, rfl⟩ := Option.map_eq_some_iff.mp known
    exact (typed.find found).2
  have distinct : ((schema.factsOf value?).map Fact.id).Nodup := by
    rw [Schema.ids_factsOf]
    exact schema.distinct.filter _
  refine ⟨_, Schema.knownFrom_natives admitted, funext fun id => Option.ext fun fact => ?_⟩
  rw [Facts.find?_eq_some distinct, Schema.mem_factsOf]
  constructor
  · rintro ⟨⟨_, known⟩, rfl⟩
    obtain ⟨other, found, same⟩ := Option.map_eq_some_iff.mp known
    rw [found, Fact.ext (Facts.id_of_find? found) same]
  · intro found
    have known : value? fact.id = some fact.value := by
      simp only [value?, Facts.id_of_find? found, found, Option.map_some]
    have declared := schema.mem_ids.mpr ⟨_, (admitted fact.id fact.value known).declared⟩
    exact ⟨⟨declared, known⟩, Facts.id_of_find? found⟩

end Results

namespace Facts

variable {known more : Facts}

theorem ids_of_find? (same : known.find? = more.find?) : known.ids = more.ids := by
  ext id
  rw [mem_ids, mem_ids, has, has, same]

/-- A map that extends another one and lies within it has the same facts. -/
theorem find?_of_submap_within (grown : known.Submap more) (within : more.Within known) :
    more.find? = known.find? := by
  funext id
  cases found : more.find? id with
  | none =>
    cases found' : known.find? id with
    | none => rfl
    | some fact =>
      rw [grown id fact found'] at found
      cases found
  | some fact =>
    obtain ⟨old, present, _⟩ := within id fact found
    rw [id_of_find? found] at present
    rw [present, ← found, grown id old present]

end Facts

/-- On facts that are closed the normal phase finds nothing. -/
theorem Course.settles_closed {table : RuleTable} {start : Facts} {run : Run}
    (course : Course { known := start, remaining := table } run)
    (wellTyped : table.WellTyped schema) (supported : table.Supported schema false)
    (closed : table.Closed schema start start) :
    ∃ t, t.Saturated schema table start ∧ run.SettlesAt t ∧ t.known.find? = start.find? := by
  have inv := RuleTable.saturating_start wellTyped closed.typed
  rcases course.settles inv wellTyped supported with ⟨t, saturated, settles⟩ | ⟨_, none, _⟩
  · exact ⟨t, saturated, settles,
      Facts.find?_of_submap_within saturated.grown (saturated.least start closed)⟩
  · exact absurd ⟨start, closed⟩ none

/-- A run that adds no fact takes a pass for each phase at most. -/
theorem Course.passes_le {table : RuleTable} {start : Facts} {run : Run} {last : State}
    (course : Course { known := start, remaining := table } run) (ended : run.outcome = .ok last)
    (same : last.known.find? = start.find?) : last.passes ≤ 2 := by
  have added : run.added = 0 := by
    rw [course.added_eq, course.reached_eq ended, Facts.ids_of_find? same, Finset.sdiff_self,
      Finset.card_empty]
  have few := course.length_rounds_le_added
  rw [added] at few
  rw [course.passes_eq ended]
  simpa using few

/-- Closed facts stay closed when they are put in another order. -/
theorem RuleTable.Closed.of_find? {table : RuleTable} {start known more : Facts}
    (closed : table.Closed schema start known) (typed : more.WellTyped schema)
    (same : more.find? = known.find?) : table.Closed schema more more := by
  constructor
  case typed => exact typed
  case start => exact (Facts.Submap.refl more).within typed typed
  case rules =>
    intro rule member normal holds fact asserted
    rw [Rule.outcome_eq_of_find? same] at holds
    obtain ⟨found, present, equal⟩ := closed.rules rule member normal holds fact asserted
    exact ⟨found, by rw [same, present], equal⟩

namespace Engine

variable {engine : Engine} {tree : Tree} {supplied : Supplied} {results : Results}

/-- Where final rules assert nothing and all comparisons are supported, a run on the facts that a run
has returned succeeds with the same facts and actions, in at most two passes. -/
theorem run_again (accepted : RuleTable.ofTree engine.schema tree = .ok engine.rules)
    (supported : ∀ isFinal, engine.rules.Supported engine.schema isFinal)
    (silent : engine.rules.FinalSilent) (wellFormed : supplied.IsWellFormed)
    (returned : (engine.run (some supplied)).2 = .ok results) :
    ∃ again, (engine.run (some results.facts)).2 = .ok again ∧ again.facts = results.facts ∧
      again.actions = results.actions ∧ again.passes ≤ 2 := by
  have wellTyped := RuleTable.ofTree_wellTyped accepted
  obtain ⟨start, last, coerced, ended, rfl⟩ := run_eq_ok returned
  have typed := Schema.knownFrom_wellTyped wellFormed coerced
  have course := engine.rules.run_course start
  have inv := RuleTable.saturating_start wellTyped typed
  rcases course.settles inv wellTyped (supported false) with ⟨t, saturated, settles⟩ | stops
  · obtain ⟨last', ended', known, distinct, actions⟩ :=
      settles.ends_of_silent saturated (supported true) silent
    rw [ended, Except.ok.injEq] at ended'
    subst ended'
    have closed := saturated.closed typed
    rw [← known] at closed actions
    -- the second run starts on the same facts in the order of the schema, which are closed already
    obtain ⟨start', coerced', same⟩ := Results.exists_knownFrom closed.typed
    have typed' := Schema.knownFrom_wellTyped Results.facts_wellFormed coerced'
    have course' := engine.rules.run_course start'
    obtain ⟨t', saturated', settles', found⟩ := course'.settles_closed wellTyped (supported false)
      (closed.of_find? typed' same)
    obtain ⟨again, ended', known', distinct', actions'⟩ :=
      settles'.ends_of_silent saturated' (supported true) silent
    rw [← known'] at found actions'
    have unchanged : again.known.find? = last.known.find? := found.trans same
    refine ⟨Results.ofState engine.schema again, ?_, ?_, ?_, ?_⟩
    · rw [run_of_accepted coerced', ended']
      rfl
    · simp only [Results.ofState, unchanged]
    · apply sortActions_eq distinct' distinct
      intro action
      rw [actions, actions']
      simp only [Rule.outcome_eq_of_find? unchanged]
    · exact course'.passes_le ended' found
  · obtain ⟨_, _, _, _, failed⟩ := stops
    rw [ended] at failed
    cases failed

def backAndForth : Engine where
  schema := ⟨"facts", [("A", .decimal), ("B", .decimal)], by decide⟩
  rules := [
    { name := "back"
      conditionSet := some ⟨true,
        [⟨"B", .equal, some ⟨.decimal, some (.decimal (.finite false 2 0))⟩⟩]⟩
      facts := some [⟨"A", ⟨.decimal, some (.decimal (.finite false 10 (-1)))⟩⟩]
      actions := some [⟨.field, "back"⟩] },
    { name := "forth"
      conditionSet := some ⟨true,
        [⟨"A", .lessThan, some ⟨.decimal, some (.decimal (.finite false 2 0))⟩⟩]⟩
      facts := some [⟨"B", ⟨.decimal, some (.decimal (.finite false 200 (-2)))⟩⟩] },
    { name := "last"
      conditionSet := some ⟨true, [⟨"B", .isDefined, none⟩]⟩
      actions := some [⟨.block, "done"⟩]
      isFinal := true }]

/-- The second run takes a pass less, and the number that was supplied keeps its three places. -/
theorem backAndForth_again :
    ∃ results again, (backAndForth.run (some [("A", .decimal (.finite false 1000 (-3)))])).2 =
        .ok results ∧
      results.facts = [("A", .decimal (.finite false 1000 (-3))),
        ("B", .decimal (.finite false 200 (-2)))] ∧ results.passes = 3 ∧
      (backAndForth.run (some results.facts)).2 = .ok again ∧ again.facts = results.facts ∧
      again.actions = results.actions ∧ again.passes ≤ 2 := by
  have accepted : RuleTable.ofTree backAndForth.schema (.sequence [
      .mapping [(.scalar "name", .scalar "back"),
        (.scalar "conditions", .sequence [.scalar "B == 2"]),
        (.scalar "facts", .sequence [.scalar "A = 1.0"]),
        (.scalar "actions", .sequence [.scalar "Field back"])],
      .mapping [(.scalar "name", .scalar "forth"),
        (.scalar "conditions", .sequence [.scalar "A < 2"]),
        (.scalar "facts", .sequence [.scalar "B = 2.00"])],
      .mapping [(.scalar "name", .scalar "last"), (.scalar "conditions", .sequence [.scalar "&B"]),
        (.scalar "actions", .sequence [.scalar "Block done"])]]) = .ok backAndForth.rules := rfl
  have wellFormed : Supplied.IsWellFormed [("A", .decimal (.finite false 1000 (-3)))] := .singleton trivial
  have returned : ∃ results, (backAndForth.run
      (some [("A", .decimal (.finite false 1000 (-3)))])).2 = .ok results ∧
      results.facts = [("A", .decimal (.finite false 1000 (-3))),
        ("B", .decimal (.finite false 200 (-2)))] ∧ results.passes = 3 := ⟨_, rfl, rfl, rfl⟩
  obtain ⟨results, returned, facts, passes⟩ := returned
  obtain ⟨again, ended, rest⟩ := run_again accepted (by decide) (by decide) wellFormed returned
  exact ⟨results, again, returned, facts, passes, ended, rest⟩

end Engine

end Deduce
