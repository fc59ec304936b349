import Deduce.Proofs.Results
import Deduce.Proofs.Run
import Deduce.Proofs.Typing.Reading

/-!
# Presence checks

Rules that ask whether a fact is known wait for the final phase. From then on facts come from final
rules only, so that the answer for a fact that none of them asserts is that of the facts returned.
-/

namespace Deduce

namespace Course

variable {s last : State} {run : Run}

/-- The facts added after the turn of a final rule are asserted by final rules. -/
theorem has_of_evaluated (course : Course s run) (ended : run.outcome = .ok last) {e : Evaluation}
    (member : e ∈ run.evaluations) (final : e.rule.isFinal = true) {id : String}
    (present : last.known.has id = true) : e.known.has id = true ∨
      ∃ rule ∈ s.remaining, rule.isFinal = true ∧ ∃ fact ∈ rule.asserted, fact.id = id := by
  obtain ⟨now, p, visit, turn⟩ := course.exists_visit ended member
  have swept := (State.progress_eq_ok visit.progressed).1
  have phase := (swept.evaluated turn).2.1.symm.trans final
  have added : p.known.has id = true ∨
      ∃ rule ∈ p.result.remaining, rule.isFinal = true ∧ ∃ fact ∈ rule.asserted, fact.id = id := by
    rcases visit.rest with rfl | ⟨run, later, ended⟩
    · exact .inl present
    · exact later.has_of_final ended (by simp [State.advance, State.after, phase]) present
  rcases added with known | ⟨rule, remaining, rest⟩
  · rcases has_of_progress visit.progressed known with before | ⟨rule, remaining, rest⟩
    · exact .inl ((swept.submap turn).1.has before)
    · exact .inr ⟨rule, visit.among remaining, by simpa only [phase] using rest⟩
  · exact .inr ⟨rule, visit.among (swept.sublist.subset remaining), rest⟩

end Course

/-- The evaluation of conditions ends with this one: those in front of it hold, and it fails. -/
def StopsAt (known : Facts) (conditions : List Condition) (c : Condition) : Prop :=
  ∃ front back, conditions = front ++ c :: back ∧
    (∀ other ∈ front, other.outcome known = .ok .holds) ∧ c.outcome known = .ok .fails

section Stopping

variable {schema : Schema} {known more : Facts} {conditions : List Condition}

theorem outcomeOfEach_of_front {front back : List Condition} {c : Condition}
    (answered : ∀ other ∈ front, ∃ o, other.outcome known = .ok o)
    (fails : c.outcome known = .ok .fails) :
    outcomeOfEach known (front ++ c :: back) = .ok .fails := by
  induction front with
  | nil => simp only [List.nil_append, outcomeOfEach, fails]
  | cons head rest ih =>
    have tail := ih fun other member => answered other (List.mem_cons_of_mem _ member)
    obtain ⟨o, head'⟩ := answered head List.mem_cons_self
    cases o <;> simp only [List.cons_append, outcomeOfEach, head', tail]

theorem outcomeOfEach_holds (h : outcomeOfEach known conditions = .ok .holds) :
    ∀ c ∈ conditions, ∃ o, c.outcome known = .ok o ∧ o ≠ .fails := by
  induction conditions with
  | nil =>
    intro c member
    cases member
  | cons head rest ih =>
    intro c member
    simp only [outcomeOfEach] at h
    split at h
    · cases h
    · cases h
    · rename_i o notFails answered
      rcases List.mem_cons.mp member with rfl | later
      · exact ⟨o, answered, notFails⟩
      · exact ih h c later

theorem exists_stopsAt (typed : ∀ c ∈ conditions, c.WellTyped schema)
    (h : outcomeOfAll known conditions = .ok .fails) : ∃ c, StopsAt known conditions c := by
  obtain ⟨ready, each⟩ := outcomeOfAll_decided h (by decide)
  clear h
  induction conditions with
  | nil => cases each
  | cons head rest ih =>
    simp only [outcomeOfEach] at each
    split at each
    · cases each
    · rename_i fails
      exact ⟨head, [], rest, rfl, by simp, fails⟩
    · rename_i o notFails answered
      have decided := Condition.ne_unknown_of_ready (ready head List.mem_cons_self) answered
      have holds : head.outcome known = .ok .holds := by
        cases o with
        | holds => exact answered
        | fails => exact absurd rfl notFails
        | unknown => exact absurd rfl decided
      obtain ⟨c, front, back, split, before, fails⟩ :=
        ih (fun c member => typed c (List.mem_cons_of_mem _ member))
          (fun c member => ready c (List.mem_cons_of_mem _ member)) each
      refine ⟨c, head :: front, back, by rw [split]; rfl, ?_, fails⟩
      intro other member
      rcases List.mem_cons.mp member with rfl | later
      · exact holds
      · exact before other later

/-- Where a presence check stopped the evaluation and its answer is the same on more facts, the set
fails there too, though checks in front of it may have changed their answers. -/
theorem StopsAt.outcomeOfAll {c : Condition} (stops : StopsAt known conditions c)
    (ready : ∀ c ∈ conditions, c.isWaiting known = false) (submap : known.Submap more)
    (same : c.outcome known = c.outcome more) : outcomeOfAll more conditions = .ok .fails := by
  obtain ⟨front, back, rfl, before, fails⟩ := stops
  rw [outcomeOfAll_of_ready fun other member =>
    Condition.ready_mono submap.has (ready other member)]
  apply outcomeOfEach_of_front
  · intro other member
    cases presence : other.operator.isPresenceCheck with
    | true =>
      obtain ⟨holds, answered⟩ := Condition.exists_outcome_presence presence more
      exact ⟨_, answered⟩
    | false =>
      have present : known.has other.id = true := by
        simpa [Condition.isWaiting, presence] using ready other (List.mem_append_left _ member)
      obtain ⟨fact, found⟩ := Option.isSome_iff_exists.mp present
      refine ⟨.holds, ?_⟩
      rw [← before other member]
      apply Condition.outcome_eq_of_find?
      rw [found]
      exact submap other.id fact found
  · rw [← same]
    exact fails

end Stopping

theorem Rule.outcome_eq_ok {rule : Rule} {set : ConditionSet}
    (conditions : rule.conditionSet = some set) (isAnd : set.isAnd = true) {known : Facts}
    {o : Outcome} :
    rule.outcome known = .ok o ↔ outcomeOfAll known set.conditions = .ok o := by
  simp only [outcome, conditions, ConditionSet.outcome, isAnd, if_true, atPlace_eq_ok]

theorem Condition.WellTyped.declared {schema : Schema} {c : Condition} (h : c.WellTyped schema) :
    ∃ type, schema.get? c.id = some type := by
  cases h with
  | presence _ declared => exact ⟨_, declared⟩
  | comparison _ admitted => exact ⟨_, admitted.declared⟩

theorem Condition.has_of_outcome {c : Condition} {known : Facts} {o : Outcome}
    (answered : c.outcome known = .ok o) (notFails : o ≠ .fails) :
    (c.operator = .isDefined → known.has c.id = true) ∧
      (c.operator = .notDefined → known.has c.id = false) := by
  constructor
  · intro defined
    rw [outcome_isDefined defined] at answered
    cases answered
    by_contra absent
    exact notFails (by simp [absent, Outcome.ofBool])
  · intro undefined
    rw [outcome_notDefined undefined] at answered
    cases answered
    by_contra present
    exact notFails (by simp [present, Outcome.ofBool])

/-- Since its turn a rule that checks for a fact has seen no final rule add it. -/
theorem Course.has_eq_of_presence {schema : Schema} {s last : State} {run : Run}
    (course : Course s run) (ended : run.outcome = .ok last)
    (wellTyped : s.remaining.WellTyped schema) {id : String}
    (unasserted : ∀ rule ∈ s.remaining, rule.isFinal = true → ∀ fact ∈ rule.asserted, fact.id ≠ id)
    {e : Evaluation} (member : e ∈ run.evaluations) {c : Condition}
    (condition : c ∈ e.rule.conditions) (presence : c.operator.isPresenceCheck = true)
    (same : c.id = id) : e.known.Submap last.known ∧ e.known.has c.id = last.known.has c.id := by
  have final : e.rule.isFinal = true := by
    rw [(wellTyped e.rule (course.evaluated ended member).1).isFinal, List.any_eq_true]
    exact ⟨c, condition, presence⟩
  have submap := course.submap ended member
  refine ⟨submap, Bool.eq_iff_iff.mpr ⟨submap.has, fun later => ?_⟩⟩
  refine (course.has_of_evaluated ended member final later).resolve_right ?_
  rintro ⟨rule, remaining, isFinal, fact, asserted, named⟩
  exact unasserted rule remaining isFinal fact asserted (named.trans same)

namespace Engine

/-- A check of a fact that no final rule asserts has the same answer at every turn as on the facts
returned. A rule that fired on such a check was right in the end, and one that stopped at it fails
on the facts returned too. -/
theorem presence_checks_settled {engine : Engine} {tree : Tree}
    (accepted : RuleTable.ofTree engine.schema tree = .ok engine.rules) {supplied : Supplied}
    {results : Results} (returned : (engine.run (some supplied)).2 = .ok results) {id : String}
    (unasserted : ∀ rule ∈ engine.rules, rule.isFinal = true →
      ∀ fact ∈ rule.asserted, fact.id ≠ id) :
    ∃ known last, engine.schema.knownFrom supplied = .ok known ∧
      (engine.rules.run known).outcome = .ok last ∧ results = Results.ofState engine.schema last ∧
      ∀ e ∈ (engine.rules.run known).evaluations,
        (∀ c ∈ e.rule.conditions, c.operator.isPresenceCheck = true → c.id = id →
          c.outcome e.known = c.outcome last.known) ∧
        ∀ set, e.rule.conditionSet = some set → set.isAnd = true →
          (e.outcome = .holds → ∀ c ∈ set.conditions, c.id = id →
            (c.operator = .notDefined → results.facts.get? id = none) ∧
            (c.operator = .isDefined → ∃ native, results.facts.get? id = some native)) ∧
          (e.outcome = .fails → (∃ c, StopsAt e.known set.conditions c) ∧
            ∀ c, StopsAt e.known set.conditions c → c.operator.isPresenceCheck = true → c.id = id →
              e.rule.outcome last.known = .ok .fails) := by
  obtain ⟨known, last, start, ended, rfl⟩ := run_eq_ok returned
  refine ⟨known, last, start, ended, rfl, fun e member => ?_⟩
  have course := engine.rules.run_course known
  obtain ⟨among, answered⟩ := course.evaluated ended member
  have tableTyped := RuleTable.ofTree_wellTyped accepted
  have wellTyped := tableTyped e.rule among
  have settled {c : Condition} (condition : c ∈ e.rule.conditions) :=
    course.has_eq_of_presence ended tableTyped unasserted member condition
  have unchanged (c : Condition) (condition : c ∈ e.rule.conditions)
      (presence : c.operator.isPresenceCheck = true) (same : c.id = id) :
      c.outcome e.known = c.outcome last.known :=
    Condition.outcome_eq_of_has presence (settled condition presence same).2
  refine ⟨unchanged, fun set conditions isAnd => ?_⟩
  have members : e.rule.conditions = set.conditions := by simp only [Rule.conditions, conditions]
  have declared (c : Condition) (condition : c ∈ set.conditions) : c.id ∈ engine.schema.ids :=
    (Schema.mem_ids _).mpr (wellTyped.conditions c (members ▸ condition)).declared
  rw [members] at settled unchanged
  rw [Rule.outcome_eq_ok conditions isAnd] at answered
  constructor
  · intro fired c condition same
    rw [fired] at answered
    obtain ⟨o, answer, notFails⟩ :=
      outcomeOfEach_holds (outcomeOfAll_decided answered (by decide)).2 c condition
    obtain ⟨defined, undefined⟩ := Condition.has_of_outcome answer notFails
    have isSome (presence : c.operator.isPresenceCheck = true) :
        ((Results.ofState engine.schema last).facts.get? id).isSome = e.known.has c.id := by
      rw [(settled condition presence same).2, ← same]
      exact Results.get?_facts_isSome engine.schema last (declared c condition)
    constructor
    · intro check
      have absent := isSome (Operator.isPresenceCheck_iff.mpr (.inr check))
      rw [undefined check] at absent
      simpa using absent
    · intro check
      have present := isSome (Operator.isPresenceCheck_iff.mpr (.inl check))
      rw [defined check] at present
      exact Option.isSome_iff_exists.mp present
  · intro dropped
    rw [dropped] at answered
    have typed (c : Condition) (condition : c ∈ set.conditions) : c.WellTyped engine.schema :=
      wellTyped.conditions c (members ▸ condition)
    refine ⟨exists_stopsAt typed answered, ?_⟩
    intro c stops presence same
    have condition : c ∈ set.conditions := by
      obtain ⟨front, back, split, _⟩ := stops
      simp [split]
    rw [Rule.outcome_eq_ok conditions isAnd]
    exact stops.outcomeOfAll (outcomeOfAll_decided answered (by decide)).1
      (settled condition presence same).1 (unchanged c condition presence same)

def waitingForFact : Engine where
  schema := ⟨"facts", [("A", .int), ("F", .int)], by decide⟩
  rules := [
    { name := "lacks"
      conditionSet := some ⟨true, [⟨"F", .notDefined, none⟩]⟩
      actions := some [⟨.field, "lacking"⟩]
      isFinal := true },
    { name := "adds"
      conditionSet := some ⟨true, [⟨"A", .equal, some ⟨.int, some (.int 1)⟩⟩]⟩
      facts := some [⟨"F", ⟨.int, some (.int 2)⟩⟩] }]

theorem waitingForFact_settled :
    ∃ results last, (waitingForFact.run (some [("A", .int 1)])).2 = .ok results ∧
      results.facts = [("A", .int 1), ("F", .int 2)] ∧ results.actions = [] ∧
      (waitingForFact.rules.run [⟨"A", ⟨.int, some (.int 1)⟩⟩]).outcome = .ok last ∧
      ∀ e ∈ (waitingForFact.rules.run [⟨"A", ⟨.int, some (.int 1)⟩⟩]).evaluations,
        ∀ c ∈ e.rule.conditions, c.operator.isPresenceCheck = true → c.id = "F" →
          c.outcome e.known = c.outcome last.known := by
  have accepted : RuleTable.ofTree waitingForFact.schema (.sequence [
      .mapping [(.scalar "name", .scalar "lacks"), (.scalar "conditions", .sequence [.scalar "!F"]),
        (.scalar "actions", .sequence [.scalar "Field lacking"])],
      .mapping [(.scalar "name", .scalar "adds"),
        (.scalar "conditions", .sequence [.scalar "A == 1"]),
        (.scalar "facts", .sequence [.scalar "F = 2"])]]) = .ok waitingForFact.rules := rfl
  have returned : (waitingForFact.run (some [("A", .int 1)])).2 = .ok _ := rfl
  have unasserted : ∀ rule ∈ waitingForFact.rules, rule.isFinal = true →
      ∀ fact ∈ rule.asserted, fact.id ≠ "F" := by decide
  obtain ⟨known, last, start, ended, _, settled⟩ :=
    presence_checks_settled accepted returned unasserted
  cases start
  exact ⟨_, last, returned, rfl, List.mergeSort_nil, ended, fun e member => (settled e member).1⟩

end Engine

end Deduce
