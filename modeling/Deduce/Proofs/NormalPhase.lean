import Deduce.Proofs.Results
import Deduce.Proofs.Run

/-!
# The normal phase

Passes of the normal phase add no fact that a closed map lacks, and end with a map that is closed
itself. A rule that has been decided stays decided as it was, so that what it asserts and triggers is
there in the end if and only if it holds in the end.
-/

namespace Deduce

/-- A map with the facts known at the start and those of every rule of the normal phase that holds
on it. -/
structure RuleTable.Closed (schema : Schema) (table : RuleTable) (start map : Facts) : Prop where
  typed : map.WellTyped schema
  start : start.Within map
  rules : ∀ rule ∈ table, rule.isFinal = false → rule.outcome map = .ok .holds →
    ∀ fact ∈ rule.asserted, map.Holds fact

def RuleTable.Supported (schema : Schema) (isFinal : Bool) (table : RuleTable) : Prop :=
  ∀ rule ∈ table, rule.isFinal = isFinal → rule.Supported schema

instance (schema : Schema) (isFinal : Bool) (table : RuleTable) :
    Decidable (table.Supported schema isFinal) :=
  inferInstanceAs (Decidable (∀ rule ∈ table, rule.isFinal = isFinal → rule.Supported schema))

variable {schema : Schema} {table : RuleTable} {start map : Facts}

namespace RuleTable

theorem Supported.subset {isFinal : Bool} (supported : table.Supported schema isFinal)
    {rules : RuleTable} (among : rules ⊆ table) : rules.Supported schema isFinal :=
  fun rule member => supported rule (among member)

theorem Closed.subset (closed : table.Closed schema start map) {rules : RuleTable}
    (among : rules ⊆ table) : rules.Closed schema start map :=
  ⟨closed.typed, closed.start, fun rule member => closed.rules rule (among member)⟩

end RuleTable

theorem Sweep.held_of_closed {known : Facts} {rules : RuleTable} {evaluations : List Evaluation}
    {result : PassResult} (swept : Sweep false known rules evaluations result)
    (wellTyped : rules.WellTyped schema) (supported : rules.Supported schema false)
    (typed : known.WellTyped schema) (closed : rules.Closed schema start map)
    (within : known.Within map) : ∀ fact ∈ result.facts, map.Holds fact := by
  induction swept with
  | finish =>
    intro fact member
    cases member
  | otherPhase _ _ ih | leftOpen _ _ _ ih | dropped _ _ _ ih =>
    exact ih (wellTyped.subset (List.subset_cons_self _ _))
      (supported.subset (List.subset_cons_self _ _)) typed
      (closed.subset (List.subset_cons_self _ _)) within
  | @fired known rule rest evaluations result phase holds _ ih =>
    have ruleTyped := wellTyped rule List.mem_cons_self
    -- the rule holds on the closed map as well, which therefore has its facts
    have held : ∀ fact ∈ rule.asserted, map.Holds fact :=
      closed.rules rule List.mem_cons_self phase
        (Rule.outcome_mono ruleTyped (supported rule List.mem_cons_self phase) phase typed
          closed.typed within holds (by decide))
    have later := ih (wellTyped.subset (List.subset_cons_self _ _))
      (supported.subset (List.subset_cons_self _ _)) (typed.learnAll ruleTyped.asserted)
      (closed.subset (List.subset_cons_self _ _)) (within.learnAll held)
    intro fact member
    rw [PassResult.facts_fire, List.mem_append] at member
    exact member.elim (held fact) (later fact)

namespace State

variable {s : State} {p : Progress}

/-- Where comparisons are supported, a pass fails only on a contradiction. -/
theorem contradiction_of_progress (typed : s.WellTyped schema)
    (supported : s.remaining.Supported schema s.isFinal) {failure : Failure}
    (h : s.progress = .error failure) :
    ∃ result established new, failure = .contradiction established new ∧
      Sweep s.isFinal s.known s.remaining s.pass.evaluations result ∧ new ∈ result.facts ∧
      (s.known.learnAll result.facts).find? new.id = some established ∧
      established.value.compare .equal new.value = .ok false := by
  rcases progress_eq_error h with failed | ⟨result, swept, failed⟩
  · obtain ⟨rule, member, phase, learned, sources, failed⟩ := Pass.ofRules_eq_error failed
    have known := typed.known.learnAll (typed.remaining.asserts.facts sources)
    obtain ⟨o, answered⟩ :=
      Rule.exists_outcome (typed.remaining rule member) (supported rule member phase) known
    rw [answered] at failed
    cases failed
  · obtain ⟨front, new, back, established, split, same, _, stands, differs⟩ :=
      Facts.establish_eq_error typed.known (typed.produced swept) failed
    exact ⟨result, established, new, same, swept, by simp [split], stands, differs⟩

/-- Below a closed map there is nothing to contradict. -/
theorem exists_progress (normal : s.isFinal = false) (typed : s.WellTyped schema)
    (supported : s.remaining.Supported schema false) (closed : s.remaining.Closed schema start map)
    (within : s.known.Within map) : ∃ p, s.progress = .ok p := by
  cases progressed : s.progress with
  | ok p => exact ⟨p, rfl⟩
  | error failure =>
    obtain ⟨result, established, new, _, swept, member, stands, differs⟩ :=
      contradiction_of_progress typed (normal ▸ supported) progressed
    have typedNew := typed.produced swept new member
    have typedAll := typed.known.learnAll (typed.produced swept)
    rw [normal] at swept
    have held := swept.held_of_closed typed.remaining supported typed.known closed within
    have admitted := (typedAll.find stands).2
    have above := (Facts.within_iff typedAll closed.typed).mp (within.learnAll held)
    obtain ⟨found, present, agrees⟩ := above new.id established stands
    obtain ⟨found', present', agrees'⟩ :=
      (Facts.holds_iff closed.typed typedNew).mp (held new member)
    rw [present, Option.some.injEq] at present'
    have equal := agrees.symm.trans (present' ▸ agrees')
    rw [(Value.compare_equal_iff admitted.wellFormed typedNew.wellFormed).mpr equal] at differs
    cases differs

end State

/-- The rule is decided, and if it holds, what it asserts and triggers is there. -/
def State.Reflects (s : State) (rule : Rule) : Prop :=
  ∃ o, rule.outcome s.known = .ok o ∧ o ≠ .unknown ∧
    (o = .holds → (∀ fact ∈ rule.asserted, s.known.Holds fact) ∧ rule.triggered ⊆ s.actions)

/-- What is true between two passes of the normal phase: what is known lies between the facts of the
start and every closed map, each rule still waits or is reflected, and no action came from
elsewhere. -/
structure State.Saturating (schema : Schema) (table : RuleTable) (start : Facts) (s : State) :
    Prop where
  normal : s.isFinal = false
  typed : s.WellTyped schema
  grown : start.Submap s.known
  least : ∀ map, table.Closed schema start map → s.known.Within map
  among : s.remaining ⊆ table
  finals : s.remaining.filter (·.isFinal) = table.filter (·.isFinal)
  decided : ∀ rule ∈ table, rule ∈ s.remaining ∨ rule.isFinal = false ∧ s.Reflects rule
  sound : ∀ action ∈ s.actions, ∃ rule ∈ table, rule.isFinal = false ∧
    rule.outcome s.known = .ok .holds ∧ action ∈ rule.triggered
  distinct : s.actions.Nodup

theorem RuleTable.saturating_start (wellTyped : table.WellTyped schema)
    (typed : start.WellTyped schema) :
    State.Saturating schema table start { known := start, remaining := table } where
  normal := rfl
  typed := ⟨typed, wellTyped⟩
  grown := Facts.Submap.refl start
  least := fun _ closed => closed.start
  among := List.Subset.refl table
  finals := rfl
  decided := fun _ member => .inl member
  sound := fun _ member => by cases member
  distinct := List.nodup_nil

namespace State

variable {s : State} {p : Progress}

theorem outcome_stays {rule : Rule} (wellTyped : rule.WellTyped schema)
    (supported : rule.Supported schema) (normal : rule.isFinal = false)
    (typed : s.WellTyped schema) (h : s.progress = .ok p) {o : Outcome}
    (answered : rule.outcome s.known = .ok o) (decided : o ≠ .unknown) :
    rule.outcome p.known = .ok o := by
  have typed' := (typed.after h).known
  have within := (submap_of_progress h).within typed.known typed'
  exact Rule.outcome_mono wellTyped supported normal typed.known typed' within answered decided

theorem outcome_after (inv : s.Saturating schema table start)
    (supported : table.Supported schema false) (h : s.progress = .ok p) {e : Evaluation}
    (member : e ∈ s.pass.evaluations) (decided : e.outcome ≠ .unknown) :
    e.rule ∈ table ∧ e.rule.isFinal = false ∧ e.rule.outcome p.known = .ok e.outcome := by
  have swept := (progress_eq_ok h).1
  obtain ⟨present, phase, answered, before, after, split, seen⟩ := swept.evaluated member
  have produced := inv.typed.produced swept
  have typedSeen : e.known.WellTyped schema := by
    rw [seen]
    apply inv.typed.known.learnAll
    intro fact new
    exact produced fact (split ▸ List.mem_append_left _ new)
  have typedAll := (inv.typed.after h).known
  have later : e.known.Submap p.known := by
    rw [known_eq_of_progress h]
    exact (swept.submap member).2
  have known := inv.among present
  rw [inv.normal] at phase
  exact ⟨known, phase, Rule.outcome_mono (inv.typed.remaining e.rule present)
    (supported e.rule known phase) phase typedSeen typedAll (later.within typedSeen typedAll)
    answered decided⟩

theorem Reflects.after {rule : Rule} (reflected : s.Reflects rule)
    (wellTyped : rule.WellTyped schema) (supported : rule.Supported schema)
    (normal : rule.isFinal = false)
    (typed : s.WellTyped schema) (h : s.progress = .ok p) : (s.after p).Reflects rule := by
  obtain ⟨o, answered, decided, there⟩ := reflected
  have typed' := typed.after h
  have within := (submap_of_progress h).within typed.known typed'.known
  refine ⟨o, outcome_stays wellTyped supported normal typed h answered decided, decided, ?_⟩
  intro holds
  obtain ⟨held, triggered⟩ := there holds
  constructor
  · intro fact member
    exact (held fact member).within within typed.known typed'.known (wellTyped.asserted fact member)
  · intro action member
    exact mem_collect.mpr (.inl (triggered member))

theorem reflects_evaluated (inv : s.Saturating schema table start)
    (supported : table.Supported schema false) (h : s.progress = .ok p) {e : Evaluation}
    (member : e ∈ s.pass.evaluations) (decided : e.outcome ≠ .unknown) :
    (s.after p).Reflects e.rule := by
  obtain ⟨swept, established⟩ := progress_eq_ok h
  obtain ⟨_, _, answered⟩ := outcome_after inv supported h member decided
  refine ⟨e.outcome, answered, decided, fun holds => ⟨?_, ?_⟩⟩
  · intro fact asserted
    have produced := swept.mem_facts.mpr ⟨e, member, holds, asserted⟩
    exact Facts.holds_of_establish (inv.typed.produced swept) established fact produced
  · intro action triggered
    exact mem_collect.mpr (.inr (swept.mem_actions.mpr ⟨e, member, holds, triggered⟩))

theorem Saturating.after (inv : s.Saturating schema table start)
    (wellTyped : table.WellTyped schema) (supported : table.Supported schema false)
    (h : s.progress = .ok p) :
    (s.after p).Saturating schema table start := by
  have swept := (progress_eq_ok h).1
  have all := known_eq_of_progress h
  have finals : p.result.remaining.filter (·.isFinal) = s.remaining.filter (·.isFinal) := by
    apply swept.remaining_filter
    intro e member _
    exact (swept.evaluated member).2.1.trans inv.normal
  constructor
  case normal => exact inv.normal
  case typed => exact inv.typed.after h
  case grown => exact inv.grown.trans (submap_of_progress h)
  case least =>
    intro map closed
    have held := (inv.normal ▸ swept).held_of_closed inv.typed.remaining
      (supported.subset inv.among) inv.typed.known (closed.subset inv.among) (inv.least map closed)
    simp only [State.after, all]
    exact (inv.least map closed).learnAll held
  case among => exact List.Subset.trans swept.sublist.subset inv.among
  case finals => exact finals.trans inv.finals
  case decided =>
    intro rule member
    rcases inv.decided rule member with waiting | ⟨normal, reflected⟩
    · cases phase : rule.isFinal with
      | true =>
        have stays : rule ∈ s.remaining.filter (·.isFinal) := List.mem_filter.mpr ⟨waiting, phase⟩
        rw [← finals] at stays
        exact .inl (List.mem_of_mem_filter stays)
      | false =>
        obtain ⟨e, evaluated, rfl, stays⟩ := swept.evaluates waiting (phase.trans inv.normal.symm)
        by_cases unknown : e.outcome = .unknown
        · exact .inl (stays unknown)
        · exact .inr ⟨rfl, reflects_evaluated inv supported h evaluated unknown⟩
    · exact .inr ⟨normal, reflected.after (wellTyped rule member) (supported rule member normal)
        normal inv.typed h⟩
  case sound =>
    intro action member
    rcases mem_collect.mp member with old | new
    · obtain ⟨rule, known, normal, holds, triggered⟩ := inv.sound action old
      have holds' := outcome_stays (wellTyped rule known) (supported rule known normal) normal
        inv.typed h holds (by decide)
      exact ⟨rule, known, normal, holds', triggered⟩
    · obtain ⟨e, evaluated, holds, triggered⟩ := swept.mem_actions.mp new
      obtain ⟨known, normal, answered⟩ := outcome_after inv supported h evaluated (by simp [holds])
      exact ⟨e.rule, known, normal, holds ▸ answered, triggered⟩
  case distinct => exact nodup_collect inv.distinct

structure Saturated (schema : Schema) (table : RuleTable) (start : Facts) (t : State) : Prop extends
    Saturating schema table start t where
  waiting : ∀ rule ∈ t.remaining, rule.isFinal = false → rule.outcome t.known = .ok .unknown

/-- The phase ends with a pass that adds nothing, or when no rule remains. -/
theorem Saturating.saturated (inv : s.Saturating schema table start)
    (wellTyped : table.WellTyped schema) (supported : table.Supported schema false)
    (h : s.progress = .ok p) (last : p.added = 0 ∨ p.result.remaining = []) :
    (s.after p).Saturated schema table start := by
  refine ⟨inv.after wellTyped supported h, fun rule member normal => ?_⟩
  have nothing : p.added = 0 := by
    refine last.resolve_right fun none => ?_
    rw [State.after, none] at member
    cases member
  exact (waiting_of_progress h nothing).2 rule member (normal.trans inv.normal.symm)

namespace Saturated

variable {t : State}

theorem fired (inv : t.Saturated schema table start) {rule : Rule} (member : rule ∈ table)
    (normal : rule.isFinal = false) (holds : rule.outcome t.known = .ok .holds) :
    (∀ fact ∈ rule.asserted, t.known.Holds fact) ∧ rule.triggered ⊆ t.actions := by
  rcases inv.decided rule member with waits | ⟨_, o, answered, _, there⟩
  · rw [inv.waiting rule waits normal] at holds
    cases holds
  · rw [holds, Except.ok.injEq] at answered
    exact there answered.symm

theorem closed (inv : t.Saturated schema table start) (typed : start.WellTyped schema) :
    table.Closed schema start t.known := by
  refine ⟨inv.typed.known, inv.grown.within typed inv.typed.known, ?_⟩
  intro rule member normal holds
  exact (inv.fired member normal holds).1

theorem mem_actions (inv : t.Saturated schema table start) {action : Action} :
    action ∈ t.actions ↔ ∃ rule ∈ table, rule.isFinal = false ∧
      rule.outcome t.known = .ok .holds ∧ action ∈ rule.triggered := by
  refine ⟨inv.sound action, ?_⟩
  rintro ⟨rule, member, normal, holds, triggered⟩
  exact (inv.fired member normal holds).2 triggered

theorem mem_remaining (inv : t.Saturated schema table start) {rule : Rule}
    (normal : rule.isFinal = false) :
    rule ∈ t.remaining ↔ rule ∈ table ∧ rule.outcome t.known = .ok .unknown := by
  constructor
  · intro member
    exact ⟨inv.among member, inv.waiting rule member normal⟩
  · rintro ⟨member, unknown⟩
    refine (inv.decided rule member).resolve_right ?_
    rintro ⟨_, o, answered, decided, _⟩
    rw [unknown, Except.ok.injEq] at answered
    exact decided answered.symm

end Saturated

end State

namespace Run

def StopsEarly (run : Run) : Prop :=
  ∃ round ∈ run.rounds, round.isFinal = false ∧ round.progress = none

/-- The facts known when the last pass of the normal phase is over. -/
def normalFacts? (run : Run) : Option Facts :=
  ((run.rounds.filter (!·.isFinal)).getLast?.bind Round.progress).map Progress.known

/-- The normal phase of the run ends in the state `t`, and with it the run if no rule remains. -/
structure SettlesAt (run : Run) (t : State) : Prop where
  facts : run.normalFacts? = some t.known
  passed : ¬ run.StopsEarly
  rest : t.remaining = [] ∧ run.outcome = .ok t ∨ t.remaining ≠ [] ∧
    ∃ later, Course { t with isFinal := true } later ∧ later.outcome = run.outcome

variable {run : Run} {round : Round}

theorem normalFacts?_cons {known : Facts} (facts : run.normalFacts? = some known) :
    normalFacts? ⟨round :: run.rounds, run.outcome⟩ = some known := by
  simp only [normalFacts?, List.filter_cons] at facts ⊢
  split
  · cases last : (run.rounds.filter (!·.isFinal)).getLast? with
    | none => simp [last] at facts
    | some round' => simpa [List.getLast?_cons, last] using facts
  · exact facts

theorem normalFacts?_of_finals {p : Progress} {rounds : List Round} {outcome : Except Failure State}
    (normal : round.isFinal = false) (completed : round.progress = some p)
    (finals : ∀ later ∈ rounds, later.isFinal = true) :
    normalFacts? ⟨round :: rounds, outcome⟩ = some p.known := by
  have none : rounds.filter (!·.isFinal) = [] := by
    rw [List.filter_eq_nil_iff]
    intro later member
    simp [finals later member]
  simp [normalFacts?, normal, none, completed]

theorem SettlesAt.cons {t : State} (settles : run.SettlesAt t) (passed : round.progress ≠ none) :
    SettlesAt ⟨round :: run.rounds, run.outcome⟩ t := by
  refine ⟨normalFacts?_cons settles.facts, ?_, settles.rest⟩
  · rintro ⟨other, member, normal, failed⟩
    rcases List.mem_cons.mp member with rfl | later
    · exact passed failed
    · exact settles.passed ⟨other, later, normal, failed⟩

end Run

namespace Course

variable {s : State} {run : Run}

theorem rounds_of_final (course : Course s run) (final : s.isFinal = true) :
    ∀ round ∈ run.rounds, round.isFinal = true := by
  induction course with
  | failed | ended =>
    intro round member
    rw [List.mem_singleton.mp member]
    exact final
  | continued _ _ _ ih =>
    intro round member
    rcases List.mem_cons.mp member with rfl | later
    · exact final
    · exact ih (by simp [State.advance, State.after, final]) round later

theorem stopsEarly {failure : Failure} (course : Course s run) (normal : s.isFinal = false)
    (broken : s.progress = .error failure) : run.StopsEarly ∧ run.outcome = .error failure := by
  cases course with
  | failed progressed =>
    rw [broken] at progressed
    cases progressed
    exact ⟨⟨_, List.mem_cons_self, normal, rfl⟩, rfl⟩
  | ended progressed | continued progressed =>
    rw [broken] at progressed
    cases progressed

/-- The normal phase of a run ends on a saturated state, unless it meets a contradiction, in which
case no map is closed. -/
theorem settles (course : Course s run) (inv : s.Saturating schema table start)
    (wellTyped : table.WellTyped schema) (supported : table.Supported schema false) :
    (∃ t, t.Saturated schema table start ∧ run.SettlesAt t) ∨
      run.StopsEarly ∧ (¬ ∃ map, table.Closed schema start map) ∧
        ∃ established new, run.outcome = .error (.contradiction established new) := by
  induction course with
  | @failed s failure progressed =>
    right
    have remaining := supported.subset inv.among
    refine ⟨⟨_, List.mem_cons_self, inv.normal, rfl⟩, ?_, ?_⟩
    · rintro ⟨map, closed⟩
      obtain ⟨p, progressed'⟩ := State.exists_progress inv.normal inv.typed remaining
        (closed.subset inv.among) (inv.least map closed)
      rw [progressed] at progressed'
      cases progressed'
    · obtain ⟨_, established, new, same, _⟩ :=
        State.contradiction_of_progress inv.typed (inv.normal ▸ remaining) progressed
      exact ⟨established, new, same ▸ rfl⟩
  | @ended s p progressed done =>
    left
    have none : p.result.remaining = [] := by
      simpa [State.isDone, State.after, inv.normal] using done
    refine ⟨s.after p, inv.saturated wellTyped supported progressed (.inr none), ?_, ?_, ?_⟩
    · exact Run.normalFacts?_of_finals inv.normal rfl (by simp)
    · rintro ⟨round, member, _, failed⟩
      rw [List.mem_singleton.mp member] at failed
      cases failed
    · exact .inl ⟨none, rfl⟩
  | @continued s p run progressed unfinished course ih =>
    by_cases nothing : p.added = 0
    · left
      have final : (s.after p).advance p.added = { s.after p with isFinal := true } := by
        simp [State.advance, nothing]
      have rounds := course.rounds_of_final (by rw [final])
      refine ⟨s.after p, inv.saturated wellTyped supported progressed (.inl nothing), ?_, ?_, ?_⟩
      · exact Run.normalFacts?_of_finals inv.normal rfl rounds
      · rintro ⟨round, member, normal, failed⟩
        rcases List.mem_cons.mp member with rfl | later
        · cases failed
        · rw [rounds round later] at normal
          cases normal
      · exact .inr ⟨(State.isDone_eq_false unfinished).1, run, final ▸ course, rfl⟩
    · have normal : (s.after p).advance p.added = s.after p := by
        simp only [State.advance, beq_eq_false_iff_ne.mpr nothing, Bool.or_false]
      rw [normal] at ih
      rcases ih (inv.after wellTyped supported progressed) with ⟨t, saturated, settles⟩ | stops
      · exact .inl ⟨t, saturated, settles.cons (by simp)⟩
      · obtain ⟨⟨round, member, failed⟩, none, contradiction⟩ := stops
        exact .inr ⟨⟨round, List.mem_cons_of_mem _ member, failed⟩, none, contradiction⟩

end Course

end Deduce
