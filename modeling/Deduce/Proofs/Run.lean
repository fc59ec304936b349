import Deduce.Proofs.Pass

/-!
# Runs pass by pass

A run is a course of passes from a state until one fails or the run is done. The limit on passes is
never met: a pass that does not change the phase and is not the last one decides a rule.
-/

namespace Deduce

/-- The run from a state, with no bound on its passes. -/
inductive Course : State → Run → Prop where
  | failed {s failure} : s.progress = .error failure →
      Course s ⟨[⟨s.isFinal, s.pass.evaluations, none⟩], .error failure⟩
  | ended {s p} : s.progress = .ok p → (s.after p).isDone p.added = true →
      Course s ⟨[⟨s.isFinal, s.pass.evaluations, some p⟩], .ok (s.after p)⟩
  | continued {s p run} : s.progress = .ok p → (s.after p).isDone p.added = false →
      Course ((s.after p).advance p.added) run →
      Course s ⟨⟨s.isFinal, s.pass.evaluations, some p⟩ :: run.rounds, run.outcome⟩

namespace State

variable {s : State} {p : Progress}

theorem progress_eq_ok (h : s.progress = .ok p) :
    Sweep s.isFinal s.known s.remaining s.pass.evaluations p.result ∧
      s.known.establish p.result.facts = .ok (p.known, p.added) := by
  unfold progress at h
  split at h
  · cases h
  · rename_i result swept
    obtain ⟨⟨known, added⟩, established, rfl⟩ := map_eq_ok.mp h
    exact ⟨Pass.ofRules_sweep swept, established⟩

theorem progress_of_pass {result : PassResult} {all : Facts} {added : Nat}
    (swept : s.pass.result = .ok result)
    (established : s.known.establish result.facts = .ok (all, added)) :
    s.progress = .ok ⟨result, all, added⟩ := by
  simp only [progress, swept, established, Except.map]

theorem progress_eq_error {failure : Failure} (h : s.progress = .error failure) :
    s.pass.result = .error failure ∨ ∃ result,
      Sweep s.isFinal s.known s.remaining s.pass.evaluations result ∧
      s.known.establish result.facts = .error failure := by
  unfold progress at h
  split at h
  · rename_i failed
    cases h
    exact .inl failed
  · rename_i result swept
    exact .inr ⟨result, Pass.ofRules_sweep swept, map_eq_error.mp h⟩

theorem known_eq_of_progress (h : s.progress = .ok p) :
    p.known = s.known.learnAll p.result.facts :=
  (Facts.establish_eq_ok (progress_eq_ok h).2).1

theorem submap_of_progress (h : s.progress = .ok p) : s.known.Submap p.known := by
  rw [known_eq_of_progress h]
  exact Facts.submap_learnAll _ _

theorem length_remaining_lt (h : s.progress = .ok p) (learned : p.added ≠ 0) :
    p.result.remaining.length < s.remaining.length := by
  obtain ⟨swept, established⟩ := progress_eq_ok h
  apply swept.length_lt_of_facts
  intro nothing
  rw [nothing, Facts.establish, Except.ok.injEq, Prod.mk.injEq] at established
  exact learned established.2.symm

theorem isDone_eq_false (h : (s.after p).isDone p.added = false) :
    p.result.remaining ≠ [] ∧ (s.isFinal = true → p.added ≠ 0) := by
  simp only [isDone, after, Bool.or_eq_false_iff, Bool.and_eq_false_iff, List.isEmpty_eq_false_iff,
    beq_eq_false_iff_ne] at h
  refine ⟨h.1, fun final => h.2.resolve_left ?_⟩
  simp [final]

/-- The most passes that may come: one for each rule, and one in the normal phase for its end. -/
def passesLeft (s : State) : Nat := s.remaining.length + if s.isFinal then 0 else 1

theorem passesLeft_pos (startable : s.isFinal = true → s.remaining ≠ []) : 0 < s.passesLeft := by
  cases final : s.isFinal with
  | false => simp [passesLeft, final]
  | true =>
    have filled := List.length_pos_iff.mpr (startable final)
    simpa [passesLeft, final] using filled

theorem passesLeft_advance_lt (h : s.progress = .ok p)
    (unfinished : (s.after p).isDone p.added = false) :
    ((s.after p).advance p.added).passesLeft < s.passesLeft := by
  have learned := (isDone_eq_false unfinished).2
  have notMore := (progress_eq_ok h).1.sublist.length_le
  have fewer := length_remaining_lt h
  simp only [passesLeft, advance, after]
  by_cases new : p.added = 0
  · have normal : s.isFinal = false := by
      by_contra final
      exact learned (by simpa using final) new
    simp only [new, normal, Bool.false_or, BEq.rfl, if_true]
    simp
    omega
  · simp only [beq_eq_false_iff_ne.mpr new, Bool.or_false]
    have decided := fewer new
    omega

theorem runWithin_course {limit allowed : Nat} (enough : s.passesLeft ≤ allowed)
    (startable : s.isFinal = true → s.remaining ≠ []) :
    Course s (s.runWithin limit allowed) := by
  induction allowed generalizing s with
  | zero =>
    have positive := passesLeft_pos startable
    omega
  | succ allowed ih =>
    unfold runWithin
    split
    · rename_i failed
      exact .failed failed
    · rename_i p progressed
      dsimp only
      split
      · rename_i done
        exact .ended progressed done
      · rename_i open'
        have unfinished : (s.after p).isDone p.added = false := by simpa using open'
        have decreasing := passesLeft_advance_lt progressed unfinished
        exact .continued progressed unfinished
          (ih (by omega) fun _ => (isDone_eq_false unfinished).1)

end State

structure State.WellTyped (schema : Schema) (s : State) : Prop where
  known : s.known.WellTyped schema
  remaining : s.remaining.WellTyped schema

theorem RuleTable.WellTyped.subset {schema : Schema} {table rules : RuleTable}
    (h : table.WellTyped schema) (fewer : rules ⊆ table) : rules.WellTyped schema :=
  fun rule member => h rule (fewer member)

theorem RuleTable.AssertsTyped.facts {schema : Schema} {table : RuleTable}
    (h : table.AssertsTyped schema) {facts : List Fact}
    (sources : ∀ fact ∈ facts, ∃ rule ∈ table, fact ∈ rule.asserted) :
    Facts.WellTyped schema facts := by
  intro fact member
  obtain ⟨rule, known, asserted⟩ := sources fact member
  exact h rule known fact asserted

theorem RuleTable.AssertsTyped.flatMap_asserted {schema : Schema} {rules : RuleTable}
    (h : rules.AssertsTyped schema) : Facts.WellTyped schema (rules.flatMap Rule.asserted) := by
  apply h.facts
  intro fact member
  exact List.mem_flatMap.mp member

theorem Sweep.sources {isFinal : Bool} {known : Facts} {rules : RuleTable}
    {evaluations : List Evaluation} {result : PassResult}
    (swept : Sweep isFinal known rules evaluations result) :
    ∀ fact ∈ result.facts, ∃ rule ∈ rules, fact ∈ rule.asserted := by
  intro fact member
  obtain ⟨e, evaluated, _, asserted⟩ := swept.mem_facts.mp member
  exact ⟨e.rule, (swept.evaluated evaluated).1, asserted⟩

namespace State

variable {schema : Schema} {s : State} {p : Progress}

theorem WellTyped.produced (typed : s.WellTyped schema) {evaluations : List Evaluation}
    {result : PassResult} (swept : Sweep s.isFinal s.known s.remaining evaluations result) :
    Facts.WellTyped schema result.facts :=
  typed.remaining.asserts.facts swept.sources

theorem WellTyped.after (typed : s.WellTyped schema) (h : s.progress = .ok p) :
    (s.after p).WellTyped schema := by
  have swept := (progress_eq_ok h).1
  constructor
  · simp only [State.after, known_eq_of_progress h]
    exact typed.known.learnAll (typed.produced swept)
  · exact typed.remaining.subset swept.sublist.subset

theorem WellTyped.inPhase (typed : s.WellTyped schema) (isFinal : Bool) :
    State.WellTyped schema { s with isFinal := isFinal } :=
  ⟨typed.known, typed.remaining⟩

end State

def Fact.StemsFrom (start : Facts) (table : RuleTable) (fact : Fact) : Prop :=
  fact ∈ start ∨ ∃ rule ∈ table, fact ∈ rule.asserted

structure State.StemsFrom (start : Facts) (table : RuleTable) (s : State) : Prop where
  known : ∀ fact ∈ s.known, fact.StemsFrom start table
  remaining : s.remaining ⊆ table

namespace State.StemsFrom

variable {schema : Schema} {start : Facts} {table : RuleTable} {s : State} {p : Progress}

theorem refl (s : State) : s.StemsFrom s.known s.remaining :=
  ⟨fun _ member => .inl member, List.Subset.refl _⟩

theorem produced (stems : s.StemsFrom start table) {evaluations : List Evaluation} {result : PassResult}
    (swept : Sweep s.isFinal s.known s.remaining evaluations result) :
    ∀ fact ∈ result.facts, ∃ rule ∈ table, fact ∈ rule.asserted := by
  intro fact member
  obtain ⟨rule, source, asserted⟩ := swept.sources fact member
  exact ⟨rule, stems.remaining source, asserted⟩

theorem learned (stems : s.StemsFrom start table) {evaluations : List Evaluation} {result : PassResult}
    (swept : Sweep s.isFinal s.known s.remaining evaluations result) :
    ∀ fact ∈ s.known.learnAll result.facts, fact.StemsFrom start table := by
  intro fact member
  rcases Facts.mem_learnAll member with old | new
  · exact stems.known fact old
  · exact .inr (stems.produced swept fact new)

theorem after (stems : s.StemsFrom start table) (h : s.progress = .ok p) :
    (s.after p).StemsFrom start table := by
  have swept := (progress_eq_ok h).1
  constructor
  · simp only [State.after, known_eq_of_progress h]
    exact stems.learned swept
  · exact List.Subset.trans swept.sublist.subset stems.remaining

theorem inPhase (stems : s.StemsFrom start table) (isFinal : Bool) :
    State.StemsFrom start table { s with isFinal := isFinal } :=
  ⟨stems.known, stems.remaining⟩

theorem wellTyped (stems : s.StemsFrom start table) (typed : start.WellTyped schema)
    (rules : table.WellTyped schema) : s.WellTyped schema := by
  refine ⟨fun fact member => ?_, rules.subset stems.remaining⟩
  rcases stems.known fact member with old | ⟨rule, source, asserted⟩
  · exact typed fact old
  · exact (rules rule source).asserted fact asserted

end State.StemsFrom

/-- A run fails with the pass of a state that it has come to. -/
theorem Course.exists_failed {s : State} {run : Run} (course : Course s run) {start : Facts}
    {table : RuleTable} (stems : s.StemsFrom start table) {failure : Failure}
    (h : run.outcome = .error failure) :
    ∃ t : State, t.StemsFrom start table ∧ t.progress = .error failure := by
  induction course with
  | failed progressed =>
    cases h
    exact ⟨_, stems, progressed⟩
  | ended => cases h
  | continued progressed _ _ ih => exact ih ((stems.after progressed).inPhase _) h

namespace Run

variable (round : Round)

@[simp] theorem evaluations_single (outcome : Except Failure State) :
    evaluations ⟨[round], outcome⟩ = round.evaluations := by
  simp [evaluations]

@[simp] theorem evaluations_cons (run : Run) :
    evaluations ⟨round :: run.rounds, run.outcome⟩ = round.evaluations ++ run.evaluations := rfl

@[simp] theorem fired_single (outcome : Except Failure State) :
    fired ⟨[round], outcome⟩ = firedIn round.evaluations := by
  rw [fired, evaluations_single]
  rfl

@[simp] theorem fired_cons (run : Run) :
    fired ⟨round :: run.rounds, run.outcome⟩ = firedIn round.evaluations ++ run.fired :=
  firedIn_append round.evaluations run.evaluations

end Run

namespace State

variable {s : State} {p : Progress}

theorem known_behind (h : s.progress = .ok p) : p.known = s.known.behind s.pass.evaluations := by
  rw [known_eq_of_progress h]
  exact (progress_eq_ok h).1.learnAll_facts

/-- When a pass has added nothing, the rules of its phase that remain are unknown on what is known. -/
theorem waiting_of_progress (h : s.progress = .ok p) (nothing : p.added = 0) :
    p.known = s.known ∧ ∀ rule ∈ p.result.remaining, rule.isFinal = s.isFinal →
      rule.outcome p.known = .ok .unknown := by
  obtain ⟨swept, established⟩ := progress_eq_ok h
  have same : p.known = s.known := by
    rw [nothing] at established
    rw [known_eq_of_progress h]
    exact Facts.learnAll_eq_of_establish established
  refine ⟨same, fun rule member phase => ?_⟩
  rcases swept.open_of_remaining member with other | ⟨e, evaluated, rfl, unknown⟩
  · exact absurd phase other
  · have answered := (swept.evaluated evaluated).2.2.1
    rw [swept.known_eq ((known_eq_of_progress h).symm.trans same) evaluated, unknown] at answered
    rw [same]
    exact answered

end State

namespace RuleTable

theorem run_course (table : RuleTable) (known : Facts) :
    Course { known := known, remaining := table } (table.run known) := by
  apply State.runWithin_course
  · simp only [State.passesLeft, passLimit]
    simp
    omega
  · intro final
    cases final

end RuleTable

/-- On its way from `s` to `last` a run makes a pass in the state `now`. -/
structure Course.Visits (s last now : State) (p : Progress) : Prop where
  progressed : now.progress = .ok p
  phase : s.isFinal = true → now.isFinal = true
  among : now.remaining ⊆ s.remaining
  rest : last = now.after p ∨
    ∃ run, Course ((now.after p).advance p.added) run ∧ run.outcome = .ok last

namespace Course

variable {s last : State} {run : Run}

/-- A run knows in the end what it knew at the start and what the rules that fired assert, the first
fact of an id standing. -/
theorem known_eq (course : Course s run) (ended : run.outcome = .ok last) :
    last.known = s.known.behind run.evaluations := by
  induction course with
  | failed => cases ended
  | @ended s p progressed done =>
    cases ended
    rw [Run.evaluations_single]
    exact State.known_behind progressed
  | continued progressed unfinished course ih =>
    rw [Run.evaluations_cons, Facts.behind_append, ← State.known_behind progressed]
    exact ih ended

theorem grown (course : Course s run) (ended : run.outcome = .ok last) :
    s.known.Submap last.known := by
  rw [course.known_eq ended]
  exact Facts.submap_behind _ _

/-- Each rule has its turn in one of the passes. -/
theorem exists_visit (course : Course s run) (ended : run.outcome = .ok last) {e : Evaluation}
    (member : e ∈ run.evaluations) :
    ∃ now p, Visits s last now p ∧ e ∈ now.pass.evaluations := by
  induction course with
  | failed => cases ended
  | @ended s p progressed done =>
    cases ended
    rw [Run.evaluations_single] at member
    exact ⟨s, p, ⟨progressed, id, List.Subset.refl _, .inl rfl⟩, member⟩
  | @continued s p run progressed unfinished course ih =>
    rcases List.mem_append.mp member with turn | later
    · exact ⟨s, p, ⟨progressed, id, List.Subset.refl _, .inr ⟨run, course, ended⟩⟩, turn⟩
    · obtain ⟨now, p', visit, turn⟩ := ih ended later
      have fewer := (State.progress_eq_ok progressed).1.sublist.subset
      refine ⟨now, p', ⟨visit.progressed, ?_, List.Subset.trans visit.among fewer, visit.rest⟩, turn⟩
      intro final
      exact visit.phase (by simp [State.advance, State.after, final])

theorem Visits.submap {now : State} {p : Progress} (visit : Visits s last now p) :
    p.known.Submap last.known := by
  rcases visit.rest with rfl | ⟨run, course, ended⟩
  · exact Facts.Submap.refl _
  · exact course.grown ended

theorem evaluated (course : Course s run) (ended : run.outcome = .ok last) {e : Evaluation}
    (member : e ∈ run.evaluations) :
    e.rule ∈ s.remaining ∧ e.rule.outcome e.known = .ok e.outcome := by
  obtain ⟨now, p, visit, turn⟩ := course.exists_visit ended member
  obtain ⟨among, _, answered, _⟩ := (State.progress_eq_ok visit.progressed).1.evaluated turn
  exact ⟨visit.among among, answered⟩

theorem submap (course : Course s run) (ended : run.outcome = .ok last) {e : Evaluation}
    (member : e ∈ run.evaluations) : e.known.Submap last.known := by
  obtain ⟨now, p, visit, turn⟩ := course.exists_visit ended member
  have afterwards := ((State.progress_eq_ok visit.progressed).1.submap turn).2
  rw [← State.known_eq_of_progress visit.progressed] at afterwards
  exact afterwards.trans visit.submap

theorem has_of_progress {p : Progress} (h : s.progress = .ok p) {id : String}
    (present : p.known.has id = true) : s.known.has id = true ∨
      ∃ rule ∈ s.remaining, rule.isFinal = s.isFinal ∧ ∃ fact ∈ rule.asserted, fact.id = id := by
  rw [State.known_eq_of_progress h, Facts.has_learnAll, Bool.or_eq_true] at present
  refine present.imp_right fun produced => ?_
  obtain ⟨fact, member, same⟩ := List.any_eq_true.mp produced
  have swept := (State.progress_eq_ok h).1
  obtain ⟨e, evaluated, _, asserted⟩ := swept.mem_facts.mp member
  obtain ⟨known, phase, _⟩ := swept.evaluated evaluated
  exact ⟨e.rule, known, phase, fact, asserted, by simpa using same⟩

theorem has_of_final (course : Course s run) (ended : run.outcome = .ok last)
    (final : s.isFinal = true) {id : String} (present : last.known.has id = true) :
    s.known.has id = true ∨
      ∃ rule ∈ s.remaining, rule.isFinal = true ∧ ∃ fact ∈ rule.asserted, fact.id = id := by
  induction course with
  | failed => cases ended
  | ended progressed =>
    cases ended
    simpa only [final] using has_of_progress progressed present
  | @continued s p run progressed unfinished course ih =>
    rcases ih ended (by simp [State.advance, State.after, final]) with
      earlier | ⟨rule, member, rest⟩
    · simpa only [final] using has_of_progress progressed earlier
    · have fewer := (State.progress_eq_ok progressed).1.sublist
      exact .inr ⟨rule, fewer.subset member, rest⟩

end Course

inductive Failure.OfRun : Failure → Prop where
  | defect {d} : OfRun (.defect d)
  | unsupported {type op} : OfRun (.error (.unsupportedOperation type op))
  | typesDiffer {v w} : OfRun (.error (.typesDiffer v w))
  | unset {type} : OfRun (.error (.unsetOperand type))
  | contradiction {established new} : OfRun (.error (.establishedFact established new))
  | rule {e name} : OfRun (.error (.within e (.rule name)))

section Failures

variable {failure : Failure}

theorem Failure.OfRun.quoting {e : Error} (h : (Failure.error e).OfRun) (values : List Value) :
    (Failure.quoting values e).OfRun := by
  unfold Failure.quoting
  split
  · exact h
  · exact .defect

theorem Value.compare_ofRun {op : Operator} {v w : Value} (h : v.compare op w = .error failure) :
    failure.OfRun := by
  unfold compare at h
  split_ifs at h
  · cases h
    exact .unsupported
  · cases h
    exact Failure.OfRun.typesDiffer.quoting _
  · split at h
    · rename_i a b _ _
      cases holds : (a.relate b).holds op with
      | error d =>
        rw [holds] at h
        cases h
        exact .defect
      | ok answer =>
        rw [holds] at h
        cases h
    · cases h
      exact .unset

theorem Facts.establish_ofRun {known : Facts} {facts : List Fact}
    (h : known.establish facts = .error failure) : failure.OfRun := by
  induction facts generalizing known with
  | nil => cases h
  | cons fact rest ih =>
    simp only [establish] at h
    split at h
    · exact ih (map_eq_error.mp h)
    · split at h
      · rename_i failed
        cases h
        exact Value.compare_ofRun failed
      · exact ih h
      · cases h
        exact Failure.OfRun.contradiction.quoting _

theorem Rule.outcome_ofRun {rule : Rule} {known : Facts} (h : rule.outcome known = .error failure) :
    failure.OfRun := by
  obtain ⟨_, _, inner, _, rfl⟩ := outcome_eq_error h
  cases inner with
  | error e => exact .rule
  | defect d => exact .defect

theorem State.progress_ofRun {s : State} (h : s.progress = .error failure) : failure.OfRun := by
  rcases progress_eq_error h with failed | ⟨_, _, failed⟩
  · obtain ⟨rule, _, _, _, _, failed⟩ := Pass.ofRules_eq_error failed
    exact rule.outcome_ofRun failed
  · exact Facts.establish_ofRun failed

theorem Course.outcome_ofRun {s : State} {run : Run} (course : Course s run)
    (h : run.outcome = .error failure) : failure.OfRun := by
  obtain ⟨t, _, failed⟩ := course.exists_failed (.refl s) h
  exact t.progress_ofRun failed

end Failures

end Deduce
