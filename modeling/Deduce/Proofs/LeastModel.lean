import Deduce.Proofs.NormalPhase
import Deduce.Proofs.Provenance
import Deduce.Proofs.Safety

/-!
# The least closed map

The normal phase computes the least map that is closed under its rules, and fails if there is none.
Final rules that assert nothing leave it as it is and add their actions.
-/

namespace Deduce

def RuleTable.FinalSilent (table : RuleTable) : Prop :=
  ∀ rule ∈ table, rule.isFinal = true → rule.asserted = []

instance (table : RuleTable) : Decidable table.FinalSilent :=
  inferInstanceAs (Decidable (∀ rule ∈ table, rule.isFinal = true → rule.asserted = []))

variable {schema : Schema} {table : RuleTable} {start : Facts}

theorem RuleTable.FinalSilent.subset (silent : table.FinalSilent) {rules : RuleTable}
    (among : rules ⊆ table) : rules.FinalSilent :=
  fun rule member => silent rule (among member)

theorem State.exists_progress_of_silent {s : State} (final : s.isFinal = true)
    (typed : s.WellTyped schema) (supported : s.remaining.Supported schema true)
    (silent : s.remaining.FinalSilent) :
    ∃ p, s.progress = .ok p ∧ p.known = s.known ∧ p.added = 0 := by
  have nothing {evaluations : List Evaluation} {result : PassResult}
      (swept : Sweep s.isFinal s.known s.remaining evaluations result) : result.facts = [] := by
    rw [List.eq_nil_iff_forall_not_mem]
    intro fact produced
    obtain ⟨e, evaluated, _, asserted⟩ := swept.mem_facts.mp produced
    obtain ⟨member, phase, _⟩ := swept.evaluated evaluated
    rw [silent e.rule member (phase.trans final)] at asserted
    cases asserted
  cases progressed : s.progress with
  | ok p =>
    obtain ⟨swept, established⟩ := progress_eq_ok progressed
    rw [nothing swept, Facts.establish, Except.ok.injEq, Prod.mk.injEq] at established
    exact ⟨p, rfl, established.1.symm, established.2.symm⟩
  | error failure =>
    obtain ⟨result, _, new, _, swept, member, _⟩ :=
      contradiction_of_progress typed (final ▸ supported) progressed
    rw [nothing swept] at member
    cases member

/-- Final rules that assert nothing get one pass. -/
theorem Course.ends_of_silent {s : State} {run : Run} (course : Course s run)
    (final : s.isFinal = true) (typed : s.WellTyped schema)
    (supported : s.remaining.Supported schema true) (silent : s.remaining.FinalSilent) :
    ∃ last, run.outcome = .ok last ∧ last.known = s.known ∧ (s.actions.Nodup → last.actions.Nodup) ∧
      ∀ action, action ∈ last.actions ↔ action ∈ s.actions ∨ ∃ rule ∈ s.remaining,
        rule.isFinal = true ∧ rule.outcome s.known = .ok .holds ∧ action ∈ rule.triggered := by
  obtain ⟨p, progressed, same, nothing⟩ :=
    State.exists_progress_of_silent final typed supported silent
  cases course with
  | failed failed =>
    rw [progressed] at failed
    cases failed
  | continued progressed' unfinished =>
    rw [progressed, Except.ok.injEq] at progressed'
    subst progressed'
    exact absurd nothing ((State.isDone_eq_false unfinished).2 final)
  | ended progressed' done =>
    rw [progressed, Except.ok.injEq] at progressed'
    subst progressed'
    refine ⟨s.after p, rfl, same, nodup_collect, fun action => ?_⟩
    have swept := (State.progress_eq_ok progressed).1
    have unchanged := (State.known_eq_of_progress progressed).symm.trans same
    refine mem_collect.trans (or_congr_right (swept.mem_actions.trans ?_))
    constructor
    · rintro ⟨e, evaluated, holds, triggered⟩
      obtain ⟨member, phase, answered, _⟩ := swept.evaluated evaluated
      rw [swept.known_eq unchanged evaluated, holds] at answered
      exact ⟨e.rule, member, phase.trans final, answered, triggered⟩
    · rintro ⟨rule, member, phase, holds, triggered⟩
      obtain ⟨e, evaluated, rfl, _⟩ := swept.evaluates member (phase.trans final.symm)
      have answered := (swept.evaluated evaluated).2.2.1
      rw [swept.known_eq unchanged evaluated, holds, Except.ok.injEq] at answered
      exact ⟨e, evaluated, answered.symm, triggered⟩

/-- The run returns what the normal phase has found, with the actions of all rules that hold. -/
theorem Run.SettlesAt.ends_of_silent {run : Run} {t : State} (settles : run.SettlesAt t)
    (inv : t.Saturated schema table start) (supported : table.Supported schema true)
    (silent : table.FinalSilent) :
    ∃ last, run.outcome = .ok last ∧ last.known = t.known ∧ last.actions.Nodup ∧
      ∀ action, action ∈ last.actions ↔
        ∃ rule ∈ table, rule.outcome t.known = .ok .holds ∧ action ∈ rule.triggered := by
  have stays (rule : Rule) (final : rule.isFinal = true) : rule ∈ t.remaining ↔ rule ∈ table := by
    have members := congrArg (rule ∈ ·) inv.finals
    simpa [List.mem_filter, final] using members
  have whole (action : Action) :
      (∃ rule ∈ table, rule.outcome t.known = .ok .holds ∧ action ∈ rule.triggered) ↔
        action ∈ t.actions ∨ ∃ rule ∈ t.remaining, rule.isFinal = true ∧
          rule.outcome t.known = .ok .holds ∧ action ∈ rule.triggered := by
    rw [inv.mem_actions]
    constructor
    · rintro ⟨rule, member, rest⟩
      cases phase : rule.isFinal with
      | false => exact .inl ⟨rule, member, phase, rest⟩
      | true => exact .inr ⟨rule, (stays rule phase).mpr member, phase, rest⟩
    · rintro (⟨rule, member, _, rest⟩ | ⟨rule, member, _, rest⟩)
      · exact ⟨rule, member, rest⟩
      · exact ⟨rule, inv.among member, rest⟩
  rcases settles.rest with ⟨none, ended⟩ | ⟨_, later, course, ended⟩
  · refine ⟨t, ended, rfl, inv.distinct, fun action => ?_⟩
    rw [whole, none]
    simp
  · obtain ⟨last, ended', known, distinct, actions⟩ := course.ends_of_silent rfl
      (inv.typed.inPhase true) (supported.subset inv.among) (silent.subset inv.among)
    refine ⟨last, ended.symm.trans ended', known, distinct inv.distinct, fun action => ?_⟩
    rw [whole, actions]

/-- The results show the facts, with the actions of the rules that hold on them. -/
structure Results.Concludes (results : Results) (schema : Schema) (table : RuleTable)
    (known : Facts) : Prop where
  shows : results.Shows schema known
  order : results.facts.keys.Sublist schema.ids
  actions : ∀ action, action ∈ results.actions ↔
    ∃ rule ∈ table, rule.outcome known = .ok .holds ∧ action ∈ rule.triggered

namespace Engine

/-- A run fails in its normal phase if and only if no map is closed, and tells the contradiction unless
an integer was supplied with too many digits. Otherwise the normal phase ends on the least closed map,
which a run with silent final rules returns, along with the actions of the rules that hold on it. -/
theorem run_least_closed {engine : Engine} {tree : Tree}
    (accepted : RuleTable.ofTree engine.schema tree = .ok engine.rules)
    (supported : engine.rules.Supported engine.schema false) {supplied : Supplied}
    (wellFormed : supplied.IsWellFormed) {start : Facts}
    (coerced : engine.schema.knownFrom supplied = .ok start) :
    ((engine.rules.run start).StopsEarly ∧
        (∃ established new, (engine.run (some supplied)).2 =
          .error (.contradiction established new)) ↔
      ¬ ∃ map, engine.rules.Closed engine.schema start map) ∧
    (supplied.IsWritable →
      ((engine.rules.run start).StopsEarly ∧
          (∃ established new, (engine.run (some supplied)).2 =
            .error (.error (.establishedFact established new))) ↔
        ¬ ∃ map, engine.rules.Closed engine.schema start map)) ∧
    ((∃ map, engine.rules.Closed engine.schema start map) →
      ∃ known, (engine.rules.run start).normalFacts? = some known ∧
        engine.rules.Closed engine.schema start known ∧
        (∀ map, engine.rules.Closed engine.schema start map → known.Within map) ∧
        (engine.rules.Supported engine.schema true → engine.rules.FinalSilent →
          ∃ results, (engine.run (some supplied)).2 = .ok results ∧
            results.Concludes engine.schema engine.rules known)) := by
  have wellTyped := RuleTable.ofTree_wellTyped accepted
  have typed := Schema.knownFrom_wellTyped wellFormed coerced
  have outcome := run_of_accepted coerced
  have course := engine.rules.run_course start
  rcases course.settles (RuleTable.saturating_start wellTyped typed) wellTyped supported with
    ⟨t, inv, settles⟩ | ⟨stops, none, established, new, failed⟩
  · have closed := inv.closed typed
    have passed {failed : Prop} : ((engine.rules.run start).StopsEarly ∧ failed) ↔
        ¬ ∃ map, engine.rules.Closed engine.schema start map :=
      iff_of_false (fun stopped => settles.passed stopped.1) (not_not.mpr ⟨t.known, closed⟩)
    refine ⟨passed, fun _ => passed, fun _ => ⟨t.known, settles.facts, closed, inv.least, ?_⟩⟩
    intro supported' silent
    obtain ⟨last, ended, known, _, actions⟩ := settles.ends_of_silent inv supported' silent
    rw [ended] at outcome
    refine ⟨_, outcome, ?_⟩
    constructor
    case shows =>
      rw [← known]
      exact Results.shows_ofState (known ▸ inv.typed.known.declared)
    case order =>
      rw [Results.keys_facts]
      exact List.filter_sublist
    case actions =>
      intro action
      rw [Results.mem_actions_ofState, actions]
  · have raised : (engine.run (some supplied)).2 = .error (.contradiction established new) := by
      rw [outcome, failed]
      rfl
    refine ⟨iff_of_true ⟨stops, _, _, raised⟩ none, fun written => ?_, fun closed => absurd closed none⟩
    refine iff_of_true ⟨stops, established, new, ?_⟩ none
    rw [raised]
    -- what is established and what is new would have to be an integer that was supplied
    obtain ⟨e, told, _⟩ | ⟨_, fact, stems, overlong⟩ :=
      course.outcome_mayFail ⟨typed, wellTyped⟩ failed
    · rcases Failure.contradiction_cases established new with same | ⟨untold, _⟩
      · rw [same]
      · rw [untold] at told
        cases told
    · rw [isWritable_of_stemsFrom accepted written coerced stems] at overlong
      cases overlong

/-- Two rules in a chain, declared against it, and a final rule that triggers an action. -/
def chained : Engine where
  schema := ⟨"facts", [("A", .int), ("B", .int), ("C", .int)], by decide⟩
  rules := [
    { name := "second"
      conditionSet := some ⟨true, [⟨"B", .greaterThan, some ⟨.int, some (.int 1)⟩⟩]⟩
      facts := some [⟨"C", ⟨.int, some (.int 3)⟩⟩] },
    { name := "first"
      conditionSet := some ⟨true, [⟨"A", .equal, some ⟨.int, some (.int 1)⟩⟩]⟩
      facts := some [⟨"B", ⟨.int, some (.int 2)⟩⟩] },
    { name := "last"
      conditionSet := some ⟨true, [⟨"C", .isDefined, none⟩]⟩
      actions := some [⟨.field, "done"⟩]
      isFinal := true }]

theorem chained_least_closed :
    ∃ results, (chained.run (some [("A", .int 1)])).2 = .ok results ∧
      results.facts = [("A", .int 1), ("B", .int 2), ("C", .int 3)] ∧
      results.actions = [⟨.field, "done"⟩] ∧ results.passes = 4 ∧
      results.Concludes chained.schema chained.rules [⟨"A", ⟨.int, some (.int 1)⟩⟩,
        ⟨"B", ⟨.int, some (.int 2)⟩⟩, ⟨"C", ⟨.int, some (.int 3)⟩⟩] ∧
      ∀ map, chained.rules.Closed chained.schema [⟨"A", ⟨.int, some (.int 1)⟩⟩] map →
        Facts.Within [⟨"A", ⟨.int, some (.int 1)⟩⟩, ⟨"B", ⟨.int, some (.int 2)⟩⟩,
          ⟨"C", ⟨.int, some (.int 3)⟩⟩] map := by
  have accepted : RuleTable.ofTree chained.schema (.sequence [
      .mapping [(.scalar "name", .scalar "second"),
        (.scalar "conditions", .sequence [.scalar "B > 1"]),
        (.scalar "facts", .sequence [.scalar "C = 3"])],
      .mapping [(.scalar "name", .scalar "first"),
        (.scalar "conditions", .sequence [.scalar "A == 1"]),
        (.scalar "facts", .sequence [.scalar "B = 2"])],
      .mapping [(.scalar "name", .scalar "last"), (.scalar "conditions", .sequence [.scalar "&C"]),
        (.scalar "actions", .sequence [.scalar "Field done"])]]) = .ok chained.rules := rfl
  have wellFormed : Supplied.IsWellFormed [("A", .int 1)] := .singleton trivial
  have returned : (chained.run (some [("A", .int 1)])).2 = .ok (Results.ofState chained.schema {
      known := [⟨"A", ⟨.int, some (.int 1)⟩⟩, ⟨"B", ⟨.int, some (.int 2)⟩⟩,
        ⟨"C", ⟨.int, some (.int 3)⟩⟩]
      remaining := []
      actions := [⟨.field, "done"⟩]
      isFinal := true
      passes := 4 }) := rfl
  obtain ⟨stops, _, otherwise⟩ := run_least_closed accepted (by decide) wellFormed rfl
  have closed : ∃ map, chained.rules.Closed chained.schema [⟨"A", ⟨.int, some (.int 1)⟩⟩] map := by
    by_contra none
    obtain ⟨_, _, failed⟩ := (stops.mpr none).2
    rw [returned] at failed
    cases failed
  obtain ⟨known, facts, _, least, concludes⟩ := otherwise closed
  cases facts
  obtain ⟨results, returned', concludes⟩ := concludes (by decide) (by decide)
  cases returned.symm.trans returned'
  exact ⟨_, returned, rfl, List.mergeSort_singleton _, rfl, concludes, least⟩

def fixing : Engine where
  schema := ⟨"facts", [("N", .int)], by decide⟩
  rules := [{ name := "a", facts := some [⟨"N", ⟨.int, some (.int 1)⟩⟩] }]

/-- No map has both numbers, but the run breaks down where it should tell the contradiction. -/
theorem fixing_contradiction_untold :
    RuleTable.ofTree fixing.schema (.sequence [.mapping [(.scalar "name", .scalar "a"),
        (.scalar "facts", .sequence [.scalar "N = 1"])]]) = .ok fixing.rules ∧
      fixing.rules.Supported fixing.schema false ∧
      Supplied.IsWellFormed [("N", .int overlongNumber)] ∧
      fixing.schema.knownFrom [("N", .int overlongNumber)] =
        .ok [⟨"N", ⟨.int, some (.int overlongNumber)⟩⟩] ∧
      (¬ ∃ map, fixing.rules.Closed fixing.schema [⟨"N", ⟨.int, some (.int overlongNumber)⟩⟩] map) ∧
      (fixing.run (some [("N", .int overlongNumber)])).2 = .error (.defect (.tooManyDigits none)) ∧
      ∀ established new, (fixing.run (some [("N", .int overlongNumber)])).2 ≠
        .error (.error (.establishedFact established new)) := by
  have overlong := isWritable_overlongNumber
  have other := overlongNumber_ne_one
  generalize overlongNumber = i at overlong other ⊢
  have accepted : RuleTable.ofTree fixing.schema (.sequence [.mapping [(.scalar "name", .scalar "a"),
      (.scalar "facts", .sequence [.scalar "N = 1"])]]) = .ok fixing.rules := rfl
  have supported : fixing.rules.Supported fixing.schema false := by decide
  have wellFormed : Supplied.IsWellFormed [("N", .int i)] := .singleton trivial
  have coerced : fixing.schema.knownFrom [("N", .int i)] = .ok [⟨"N", ⟨.int, some (.int i)⟩⟩] := by
    have taken : ∀ type ∈ fixing.schema.get? "N", Native.isTaken (.int i) type = true := by
      intro type declared
      cases declared
      rfl
    simp only [Schema.knownFrom, Schema.coerce_eq (.inr taken)]
    rfl
  have course := fixing.rules.run_course [⟨"N", ⟨.int, some (.int i)⟩⟩]
  have broken : State.progress { known := [⟨"N", ⟨.int, some (.int i)⟩⟩], remaining := fixing.rules } =
      .error (.defect (.tooManyDigits none)) :=
    congrArg (Except.map _) (Facts.establish_overlong "N" overlong other)
  have stopped := course.stopsEarly rfl broken
  have failed : (fixing.run (some [("N", .int i)])).2 = .error (.defect (.tooManyDigits none)) := by
    rw [run_of_accepted coerced, stopped.2]
    rfl
  refine ⟨accepted, supported, wellFormed, coerced, ?_, failed, fun established new => by simp [failed]⟩
  have wellTyped := RuleTable.ofTree_wellTyped accepted
  have typed := Schema.knownFrom_wellTyped wellFormed coerced
  rcases course.settles (RuleTable.saturating_start wellTyped typed) wellTyped supported with
    ⟨t, _, settles⟩ | ⟨_, none, _⟩
  · exact absurd stopped.1 settles.passed
  · exact none

end Engine

end Deduce
