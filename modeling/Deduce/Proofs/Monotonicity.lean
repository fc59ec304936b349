import Deduce.Proofs.Coercion
import Deduce.Proofs.LeastModel

/-!
# More supplied facts

What is closed under the rules and contains some facts contains fewer of them as well. Where no rule
is final, supplying more facts therefore loses no conclusion and no contradiction, although the two
runs decide the rules at different times.
-/

namespace Deduce

variable {schema : Schema} {table : RuleTable} {start more : Facts}

namespace Supplied

structure Within (schema : Schema) (supplied more : Supplied) : Prop where
  taken : ∀ id value, schema.Takes supplied id value →
    ∃ other, schema.Takes more id other ∧ other.compare .equal value = .ok true
  refused : ∀ entry ∈ supplied, ∀ failure, schema.coerce entry.1 entry.2 = .error failure →
    entry ∈ more

variable {supplied more : Supplied}

theorem Within.accepts (within : supplied.Within schema more) (accepts : schema.Accepts more) :
    schema.Accepts supplied := by
  rw [Schema.accepts_iff] at accepts ⊢
  intro entry member
  cases coerced : schema.coerce entry.1 entry.2 with
  | ok value? => exact ⟨value?, rfl⟩
  | error failure =>
    obtain ⟨value?, coerced'⟩ := accepts entry (within.refused entry member failure coerced)
    rw [coerced] at coerced'
    cases coerced'

theorem Within.known (within : supplied.Within schema more) (distinct : more.keys.Nodup)
    (coerced : schema.knownFrom supplied = .ok start) {start' : Facts}
    (coerced' : schema.knownFrom more = .ok start') : start.Within start' := by
  intro id fact found
  have member := (Schema.mem_knownFrom coerced).mp (List.mem_of_find?_eq_some found)
  obtain ⟨other, taken, equal⟩ := within.taken fact.id fact.value member
  exact ⟨_, Schema.find?_knownFrom distinct coerced' taken, equal⟩

end Supplied

theorem RuleTable.Closed.of_within {map : Facts} (closed : table.Closed schema more map)
    (within : start.Within more) (typed : start.WellTyped schema)
    (typed' : more.WellTyped schema) : table.Closed schema start map :=
  ⟨closed.typed, within.trans closed.start typed typed' closed.typed, closed.rules⟩

theorem State.Saturated.within {t t' : State} (inv : t.Saturated schema table start)
    (inv' : t'.Saturated schema table more) (within : start.Within more)
    (typed : start.WellTyped schema) (typed' : more.WellTyped schema) :
    t.known.Within t'.known :=
  inv.least t'.known ((inv'.closed typed').of_within within typed typed')

structure State.Below (schema : Schema) (s s' : State) : Prop where
  typed : s.known.WellTyped schema
  known : s.known.Within s'.known
  actions : s.actions ⊆ s'.actions
  distinct : s.actions.Nodup
  distinct' : s'.actions.Nodup

namespace RuleTable

theorem FinalSilent.of_normal (normal : ∀ rule ∈ table, rule.isFinal = false) :
    table.FinalSilent := by
  intro rule member final
  rw [normal rule member] at final
  cases final

theorem Supported.of_normal (normal : ∀ rule ∈ table, rule.isFinal = false) :
    table.Supported schema true := by
  intro rule member final
  rw [normal rule member] at final
  cases final

/-- Without final rules a run fails if no map is closed, and otherwise returns what its normal phase
has found. -/
theorem run_of_normal (normal : ∀ rule ∈ table, rule.isFinal = false)
    (wellTyped : table.WellTyped schema) (supported : table.Supported schema false)
    (typed : start.WellTyped schema) :
    (¬ (∃ map, table.Closed schema start map) ∧ ∃ failure, (table.run start).outcome = .error failure) ∨
      ∃ t last : State, t.Saturated schema table start ∧ (table.run start).outcome = .ok last ∧
        last.known = t.known ∧ last.actions.Nodup ∧
        ∀ action, action ∈ last.actions ↔
          ∃ rule ∈ table, rule.outcome t.known = .ok .holds ∧ action ∈ rule.triggered := by
  have course := table.run_course start
  rcases course.settles (saturating_start wellTyped typed) wellTyped supported with
    ⟨t, inv, settles⟩ | ⟨_, none, _, _, failed⟩
  · obtain ⟨last, returned⟩ :=
      settles.ends_of_silent inv (.of_normal normal) (.of_normal normal)
    exact .inr ⟨t, last, inv, returned⟩
  · exact .inl ⟨none, _, failed⟩

theorem run_below (normal : ∀ rule ∈ table, rule.isFinal = false)
    (wellTyped : table.WellTyped schema) (supported : table.Supported schema false)
    (typed : start.WellTyped schema) (typed' : more.WellTyped schema)
    (within : start.Within more) :
    (∃ failure, (table.run more).outcome = .error failure) ∨
      ∃ last last' : State, (table.run start).outcome = .ok last ∧
        (table.run more).outcome = .ok last' ∧ last.Below schema last' := by
  rcases run_of_normal normal wellTyped supported typed' with
    ⟨_, failed⟩ | ⟨t', last', inv', ended', known', distinct', actions'⟩
  · exact .inl failed
  rcases run_of_normal normal wellTyped supported typed with
    ⟨none, _⟩ | ⟨t, last, inv, ended, known, distinct, actions⟩
  · -- the facts that the larger run ends with are closed for the smaller one
    exact absurd ⟨t'.known, (inv'.closed typed').of_within within typed typed'⟩ none
  · have conclusions := inv.within inv' within typed typed'
    refine .inr ⟨last, last', ended, ended', ?_⟩
    constructor
    case typed => exact known ▸ inv.typed.known
    case known =>
      rw [known, known']
      exact conclusions
    case actions =>
      intro action triggered
      obtain ⟨rule, member, holds, declared⟩ := (actions action).mp triggered
      have holds' := Rule.outcome_mono (wellTyped rule member)
        (supported rule member (normal rule member)) (normal rule member) inv.typed.known
        inv'.typed.known conclusions holds (by decide)
      exact (actions' action).mpr ⟨rule, member, holds', declared⟩
    case distinct => exact distinct
    case distinct' => exact distinct'

end RuleTable

/-- Each fact of the results is there with an equal value, and the actions come up there in the same
order among others. -/
structure Results.Within (schema : Schema) (results results' : Results) : Prop where
  facts : ∀ id ∈ results.facts.keys, ∃ v w : Value, schema.get? id = some v.type ∧
    results.facts.get? id = some v.native ∧ results'.facts.get? id = some w.native ∧
    w.compare .equal v = .ok true
  actions : results.actions.Sublist results'.actions

theorem State.Below.results {s s' : State} (below : s.Below schema s') :
    Results.Within schema (.ofState schema s) (.ofState schema s') := by
  constructor
  case facts =>
    intro id member
    rw [Results.keys_facts, List.mem_filter] at member
    obtain ⟨declared, present⟩ := member
    obtain ⟨fact, found⟩ := Option.isSome_iff_exists.mp present
    obtain ⟨other, found', equal⟩ := below.known id fact found
    rw [Facts.id_of_find? found] at found'
    refine ⟨fact.value, other.value, (below.typed.find found).2.declared, ?_, ?_, equal⟩
    · rw [Results.get?_facts, if_pos declared, found]
      rfl
    · rw [Results.get?_facts, if_pos declared, found']
      rfl
  case actions => exact sortActions_sublist below.distinct below.distinct' below.actions

namespace Engine

variable {engine : Engine} {tree : Tree} {supplied more : Supplied}

/-- Where no rule is final and all comparisons are supported, a run on more facts fails if the run on
fewer does, and returns no less if it succeeds. -/
theorem run_mono (accepted : RuleTable.ofTree engine.schema tree = .ok engine.rules)
    (normal : ∀ rule ∈ engine.rules, rule.isFinal = false)
    (supported : engine.rules.Supported engine.schema false)
    (wellFormed : supplied.IsWellFormed) (wellFormed' : more.IsWellFormed)
    (distinct : more.keys.Nodup) (within : supplied.Within engine.schema more) :
    ((∃ failure, (engine.run (some supplied)).2 = .error failure) →
      ∃ failure, (engine.run (some more)).2 = .error failure) ∧
    ∀ results results', (engine.run (some supplied)).2 = .ok results →
      (engine.run (some more)).2 = .ok results' → results.Within engine.schema results' := by
  cases coerced' : engine.schema.knownFrom more with
  | error e =>
    have refused := run_of_refused coerced'
    exact ⟨fun _ => ⟨_, refused⟩, fun _ _ _ returned => by cases refused.symm.trans returned⟩
  | ok start' =>
    obtain ⟨start, coerced⟩ := within.accepts ⟨start', coerced'⟩
    have runs := RuleTable.run_below normal (RuleTable.ofTree_wellTyped accepted) supported
      (Schema.knownFrom_wellTyped wellFormed coerced)
      (Schema.knownFrom_wellTyped wellFormed' coerced') (within.known distinct coerced coerced')
    rw [run_of_accepted coerced, run_of_accepted coerced']
    rcases runs with ⟨failure, failed⟩ | ⟨last, last', ended, ended', below⟩
    · rw [failed]
      exact ⟨fun _ => ⟨failure, rfl⟩, fun _ _ _ returned => by cases returned⟩
    · rw [ended, ended']
      constructor
      · rintro ⟨failure, failed⟩
        cases failed
      · rintro _ _ ⟨⟩ ⟨⟩
        exact below.results

def priced : Engine where
  schema := ⟨"facts", [("D", .decimal), ("S", .string), ("R", .int)], by decide⟩
  rules := [
    { name := "hello"
      conditionSet := some ⟨false, [⟨"S", .equal, some ⟨.string, some (.string "go")⟩⟩,
        ⟨"R", .greaterThan, some ⟨.int, some (.int 5)⟩⟩]⟩
      actions := some [⟨.field, "hello"⟩] },
    { name := "cheap"
      conditionSet := some ⟨true,
        [⟨"D", .lessThan, some ⟨.decimal, some (.decimal (.finite false 2 0))⟩⟩]⟩
      facts := some [⟨"R", ⟨.int, some (.int 1)⟩⟩]
      actions := some [⟨.block, "cheap"⟩] }]

/-- On fewer facts the first rule waits, and in the end fails; on more facts it holds at once. -/
theorem priced_mono :
    ∃ results results', (priced.run (some [("D", .decimal (.finite false 15 (-1)))])).2 =
        .ok results ∧
      (priced.run (some [("S", .string "go"), ("D", .decimal (.finite false 150 (-2)))])).2 =
        .ok results' ∧
      ⟨.field, "hello"⟩ ∉ results.actions ∧ ⟨.field, "hello"⟩ ∈ results'.actions ∧
      results.Within priced.schema results' := by
  have accepted : RuleTable.ofTree priced.schema (.sequence [
      .mapping [(.scalar "name", .scalar "hello"),
        (.scalar "conditions", .sequence [.scalar "or", .scalar "S == go", .scalar "R > 5"]),
        (.scalar "actions", .sequence [.scalar "Field hello"])],
      .mapping [(.scalar "name", .scalar "cheap"),
        (.scalar "conditions", .sequence [.scalar "D < 2"]),
        (.scalar "facts", .sequence [.scalar "R = 1"]),
        (.scalar "actions", .sequence [.scalar "Block cheap"])]]) = .ok priced.rules := rfl
  have wellFormed : Supplied.IsWellFormed [("D", .decimal (.finite false 15 (-1)))] := .singleton trivial
  have wellFormed' : Supplied.IsWellFormed
      [("S", .string "go"), ("D", .decimal (.finite false 150 (-2)))] := by
    intro entry member
    rcases List.mem_pair.mp member with rfl | rfl <;> trivial
  have within : Supplied.Within priced.schema [("D", .decimal (.finite false 15 (-1)))]
      [("S", .string "go"), ("D", .decimal (.finite false 150 (-2)))] := by
    constructor
    case taken =>
      rintro id value ⟨native, member, taken⟩
      cases List.mem_singleton.mp member
      cases taken
      have present : ("D", Native.decimal (.finite false 150 (-2))) ∈
          [("S", .string "go"), ("D", .decimal (.finite false 150 (-2)))] := by simp
      exact ⟨_, ⟨_, present, rfl⟩, rfl⟩
    case refused =>
      intro entry member e refused
      rw [List.mem_singleton.mp member] at refused
      cases refused
  have returned : (priced.run (some [("D", .decimal (.finite false 15 (-1)))])).2 = .ok _ := rfl
  have returned' : (priced.run (some
      [("S", .string "go"), ("D", .decimal (.finite false 150 (-2)))])).2 = .ok _ := rfl
  obtain ⟨_, mono⟩ := run_mono accepted (by decide) (by decide) wellFormed wellFormed' (by decide)
    within
  exact ⟨_, _, returned, returned', mem_sortActions.not.mpr (by decide),
    mem_sortActions.mpr (by decide), mono _ _ returned returned'⟩

end Engine

end Deduce
