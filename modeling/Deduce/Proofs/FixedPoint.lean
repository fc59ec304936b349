import Deduce.Proofs.NormalPhase
import Deduce.Proofs.Provenance

/-!
# What runs stop at

A run that succeeds stops when its rules have no more to say: those of the normal phase that were
never decided are unknown on what that phase has found, and the final ones on what is returned. Only
what final rules add can decide a rule too late for its turn.
-/

namespace Deduce

def Run.LeavesOpen (run : Run) (rule : Rule) : Prop :=
  ∀ e ∈ run.evaluations, e.rule = rule → e.outcome = .unknown

instance (run : Run) (rule : Rule) : Decidable (run.LeavesOpen rule) :=
  inferInstanceAs (Decidable (∀ e ∈ run.evaluations, e.rule = rule → e.outcome = .unknown))

/-- A rule has one outcome on two maps unless one of its conditions is on a fact that only the larger
one has. -/
theorem Rule.exists_new_condition {rule : Rule} {known more : Facts} (submap : known.Submap more)
    (differ : rule.outcome known ≠ rule.outcome more) :
    ∃ c ∈ rule.conditions, known.has c.id = false ∧ more.has c.id = true := by
  by_contra none
  push Not at none
  have same (c : Condition) (member : c ∈ rule.conditions) :
      known.find? c.id = more.find? c.id := by
    cases found : known.find? c.id with
    | some fact => exact (submap c.id fact found).symm
    | none =>
      have absent := none c member (Facts.find?_eq_none.mp found)
      exact (Facts.find?_eq_none.mpr (by simpa using absent)).symm
  apply differ
  apply outcome_congr
  · intro c member
    exact Condition.outcome_eq_of_find? (same c member)
  · intro c member
    rw [Facts.has, Facts.has, same c member]

/-- The phases of a run that succeeds: on the facts `settled` the normal phase ends, and `later` are
the evaluations of the final phase. -/
structure Run.Phases (run : Run) (last : State) (settled : Facts) (later : List Evaluation) :
    Prop where
  facts : run.normalFacts? = some settled
  behind : later <:+ run.evaluations
  finals : ∀ e ∈ later, e.rule.isFinal = true
  known : last.known = settled.behind later
  waiting : ∀ rule ∈ last.remaining, rule.isFinal = false → rule.outcome settled = .ok .unknown

namespace Course

variable {s last : State} {run : Run}

theorem remaining_of_open (course : Course s run) (ended : run.outcome = .ok last) {rule : Rule}
    (member : rule ∈ s.remaining) (leftOpen : run.LeavesOpen rule) : rule ∈ last.remaining := by
  induction course with
  | failed => cases ended
  | ended progressed =>
    cases ended
    apply (State.progress_eq_ok progressed).1.mem_remaining_of_open member
    rw [Run.LeavesOpen, Run.evaluations_single] at leftOpen
    exact leftOpen
  | continued progressed _ _ ih =>
    rw [Run.LeavesOpen, Run.evaluations_cons] at leftOpen
    apply ih ended
    · apply (State.progress_eq_ok progressed).1.mem_remaining_of_open member
      intro e evaluated
      exact leftOpen e (List.mem_append_left _ evaluated)
    · intro e evaluated
      exact leftOpen e (List.mem_append_right _ evaluated)

theorem remaining_subset (course : Course s run) (ended : run.outcome = .ok last) :
    last.remaining ⊆ s.remaining := by
  induction course with
  | failed => cases ended
  | ended progressed =>
    cases ended
    exact (State.progress_eq_ok progressed).1.sublist.subset
  | continued progressed _ _ ih =>
    exact List.Subset.trans (ih ended) (State.progress_eq_ok progressed).1.sublist.subset

theorem isFinal_of_final (course : Course s run) (ended : run.outcome = .ok last)
    (final : s.isFinal = true) : ∀ e ∈ run.evaluations, e.rule.isFinal = true := by
  intro e evaluated
  obtain ⟨now, p, visit, turn⟩ := course.exists_visit ended evaluated
  have swept := (State.progress_eq_ok visit.progressed).1
  exact (swept.evaluated turn).2.1.trans (visit.phase final)

theorem final_waiting (course : Course s run) (ended : run.outcome = .ok last) {rule : Rule}
    (member : rule ∈ last.remaining) (final : rule.isFinal = true) :
    rule.outcome last.known = .ok .unknown := by
  induction course with
  | failed => cases ended
  | @ended s p progressed done =>
    cases ended
    simp only [State.isDone, State.after, Bool.or_eq_true, List.isEmpty_iff, Bool.and_eq_true,
      beq_iff_eq] at done member
    rcases done with none | ⟨phase, nothing⟩
    · rw [none] at member
      cases member
    · exact (State.waiting_of_progress progressed nothing).2 rule member (final.trans phase.symm)
  | continued _ _ _ ih => exact ih ended

/-- The normal phase ends with a pass that added nothing, unless it has decided all rules. -/
theorem phases (course : Course s run) (ended : run.outcome = .ok last)
    (normal : s.isFinal = false) : ∃ settled later, run.Phases last settled later := by
  induction course with
  | failed => cases ended
  | @ended s p progressed done =>
    cases ended
    have none : p.result.remaining = [] := by
      simpa [State.isDone, State.after, normal] using done
    refine ⟨p.known, [], ?_, List.nil_suffix, by simp, rfl, ?_⟩
    · exact Run.normalFacts?_of_finals normal rfl (by simp)
    · intro rule member
      rw [State.after, none] at member
      cases member
  | @continued s p run progressed unfinished course ih =>
    by_cases nothing : p.added = 0
    · have final : ((s.after p).advance p.added).isFinal = true := by
        simp [State.advance, nothing]
      refine ⟨p.known, run.evaluations, ?_, List.suffix_append _ _,
        course.isFinal_of_final ended final, course.known_eq ended, ?_⟩
      · exact Run.normalFacts?_of_finals normal rfl (course.rounds_of_final final)
      · intro rule member phase
        exact (State.waiting_of_progress progressed nothing).2 rule
          (course.remaining_subset ended member) (phase.trans normal.symm)
    · have still : ((s.after p).advance p.added).isFinal = false := by
        simp [State.advance, State.after, normal, nothing]
      obtain ⟨settled, later, phases⟩ := ih ended still
      exact ⟨settled, later, Run.normalFacts?_cons phases.facts,
        phases.behind.trans (List.suffix_append _ _), phases.finals, phases.known, phases.waiting⟩

end Course

namespace Engine

/-- A rule that was never decided in a run that succeeds is unknown at the end of its phase. On the
facts returned it is decided only where a final rule that fired has added the fact of one of its
conditions. -/
theorem run_reaches_fixed_point {engine : Engine} {tree : Tree}
    (accepted : RuleTable.ofTree engine.schema tree = .ok engine.rules) {supplied : Supplied}
    {results : Results} (returned : (engine.run (some supplied)).2 = .ok results) :
    ∃ run settled last, engine.runOn supplied = .ok run ∧ run.outcome = .ok last ∧
      run.normalFacts? = some settled ∧ results.Shows engine.schema last.known ∧
      ∀ rule ∈ engine.rules, run.LeavesOpen rule →
        (rule.isFinal = false → rule.outcome settled = .ok .unknown) ∧
        (rule.isFinal = true → rule.outcome last.known = .ok .unknown) ∧
        (rule.outcome last.known ≠ .ok .unknown → rule.isFinal = false ∧
          ∃ c ∈ rule.conditions, settled.has c.id = false ∧
            ∃ final ∈ run.fired, final.isFinal = true ∧
              ∃ fact ∈ final.asserted, last.known.find? c.id = some fact) := by
  obtain ⟨start, last, known, ended, rfl, declared⟩ := shows_of_returned accepted returned
  have course := engine.rules.run_course start
  obtain ⟨settled, later, phases⟩ := course.phases ended rfl
  refine ⟨engine.rules.run start, settled, last, ?_, ended, phases.facts,
    Results.shows_ofState declared, fun rule member leftOpen => ?_⟩
  · simp only [runOn, known, Except.map]
  have remains := course.remaining_of_open ended member leftOpen
  have waiting := phases.waiting rule remains
  have final := course.final_waiting ended remains
  refine ⟨waiting, final, fun decided => ?_⟩
  have normal : rule.isFinal = false := by
    by_contra isFinal
    exact decided (final (by simpa using isFinal))
  have submap : settled.Submap last.known := by
    rw [phases.known]
    exact Facts.submap_behind settled later
  obtain ⟨c, condition, missing, present⟩ :=
    Rule.exists_new_condition submap (waiting normal ▸ decided.symm)
  obtain ⟨fact, found⟩ := Option.isSome_iff_exists.mp present
  refine ⟨normal, c, condition, missing, ?_⟩
  -- the fact is none of those settled, so that a rule of the final phase has asserted it
  have added : Facts.find? ((firedIn later).flatMap Rule.asserted) c.id = some fact := by
    rw [phases.known, Facts.behind, Facts.find?_learnAll, Facts.find?_eq_none.mpr missing] at found
    exact found
  obtain ⟨source, fired, asserted⟩ := List.mem_flatMap.mp (List.mem_of_find?_eq_some added)
  obtain ⟨e, evaluated, holds, rfl⟩ := mem_firedIn.mp fired
  refine ⟨e.rule, ?_, phases.finals e evaluated, fact, asserted, found⟩
  exact mem_firedIn.mpr ⟨e, phases.behind.subset evaluated, holds, rfl⟩

/-- The default for `F` comes too late for the rule that asks for its value. -/
def lateDefault : Engine where
  schema := ⟨"facts", [("F", .int)], by decide⟩
  rules := [
    { name := "late"
      conditionSet := some ⟨true, [⟨"F", .equal, some ⟨.int, some (.int 1)⟩⟩]⟩
      actions := some [⟨.field, "one"⟩] },
    { name := "default"
      conditionSet := some ⟨true, [⟨"F", .notDefined, none⟩]⟩
      facts := some [⟨"F", ⟨.int, some (.int 1)⟩⟩]
      isFinal := true }]

/-- The rule left open would hold on the facts returned, for a fact of the final rule. -/
theorem lateDefault_reaches_fixed_point :
    ∃ run settled last, ∃ rule ∈ lateDefault.rules, lateDefault.runOn [] = .ok run ∧
      run.outcome = .ok last ∧ run.LeavesOpen rule ∧ rule.outcome settled = .ok .unknown ∧
      rule.outcome last.known = .ok .holds ∧ ∃ c ∈ rule.conditions, settled.has c.id = false ∧
        ∃ final ∈ run.fired, final.isFinal = true ∧
          ∃ fact ∈ final.asserted, last.known.find? c.id = some fact := by
  have accepted : RuleTable.ofTree lateDefault.schema (.sequence [
      .mapping [(.scalar "name", .scalar "late"),
        (.scalar "conditions", .sequence [.scalar "F == 1"]),
        (.scalar "actions", .sequence [.scalar "Field one"])],
      .mapping [(.scalar "name", .scalar "default"),
        (.scalar "conditions", .sequence [.scalar "!F"]),
        (.scalar "facts", .sequence [.scalar "F = 1"])]]) = .ok lateDefault.rules := rfl
  have returned : (lateDefault.run (some [])).2 = .ok _ := rfl
  obtain ⟨run, settled, last, ran, ended, _, _, reached⟩ :=
    run_reaches_fixed_point accepted returned
  obtain rfl : lateDefault.rules.run [] = run := Except.ok.inj ran
  have known : last.known = [⟨"F", ⟨.int, some (.int 1)⟩⟩] := by
    cases ended
    rfl
  have leftOpen : Run.LeavesOpen (lateDefault.rules.run []) lateDefault.rules[0] := by decide
  obtain ⟨waiting, _, late⟩ := reached lateDefault.rules[0] List.mem_cons_self leftOpen
  have holds : Rule.outcome last.known lateDefault.rules[0] = .ok .holds := by
    rw [known]
    rfl
  exact ⟨_, settled, last, _, List.mem_cons_self, rfl, ended, leftOpen, waiting rfl, holds,
    (late (by simp [holds])).2⟩

end Engine

end Deduce
