import Deduce.Proofs.Provenance

/-!
# What a pass sees and what is established

The rules of a pass see the facts that rules before them have asserted, although nothing is
established before the pass is over. Both views of the facts are one: what is established in the end is
what a rule behind all the others would have seen.
-/

namespace Deduce

/-- What a rule behind all the others would see in a pass. -/
def Pass.view (isFinal : Bool) (known : Facts) (rules : RuleTable) : Facts :=
  known.behind (ofRules isFinal known rules).evaluations

structure Pass.Merges (isFinal : Bool) (known : Facts) (rules : RuleTable)
    (produced : List Fact) : Prop where
  /-- A rule sees the facts known at the start and those of the rules that fired before it. -/
  seen : ∀ front e back, (ofRules isFinal known rules).evaluations = front ++ e :: back →
    e.known = known.behind front
  next : ∀ more, (ofRules isFinal known (rules ++ more)).evaluations =
    (ofRules isFinal known rules).evaluations ++
      (ofRules isFinal (view isFinal known rules) more).evaluations
  merged : ∀ all added, known.establish produced = .ok (all, added) →
    all = view isFinal known rules ∧
      added = ((view isFinal known rules).ids \ known.ids).card

structure Pass.Checks (isFinal : Bool) (known : Facts) (rules : RuleTable)
    (produced : List Fact) : Prop where
  succeeds : (∃ all added, known.establish produced = .ok (all, added)) ↔
    ∀ fact ∈ produced, (view isFinal known rules).Holds fact
  /-- The first fact that differs from the one in view is reported, with the one in view. -/
  refused : ∀ failure, known.establish produced = .error failure →
    ∃ front new back established, produced = front ++ new :: back ∧
      (∀ fact ∈ front, (view isFinal known rules).Holds fact) ∧
      (view isFinal known rules).find? new.id = some established ∧
      established.value.compare .equal new.value = .ok false ∧
      failure = .contradiction established new ∧
      (established.value.isWritable = true → new.value.isWritable = true →
        failure = .error (.establishedFact established new))

variable {schema : Schema} {known : Facts} {rules : RuleTable} {isFinal : Bool}
  {result : PassResult}

theorem Pass.merges (h : (ofRules isFinal known rules).result = .ok result) :
    Merges isFinal known rules result.facts := by
  have swept := ofRules_sweep h
  have whole : known.learnAll result.facts = view isFinal known rules := swept.learnAll_facts
  constructor
  case seen =>
    intro front e back split
    exact swept.known_at split
  case next =>
    intro more
    rw [swept.ofRules_append more]
    rfl
  case merged =>
    intro all added established
    rw [← whole, ← (Facts.establish_eq_ok established).1]
    exact ⟨rfl, Facts.card_added established⟩

theorem Pass.checks (h : (ofRules isFinal known rules).result = .ok result)
    (typed : known.WellTyped schema) (asserts : rules.AssertsTyped schema) :
    Checks isFinal known rules result.facts := by
  have swept := ofRules_sweep h
  have produced := asserts.facts swept.sources
  have whole : known.learnAll result.facts = view isFinal known rules := swept.learnAll_facts
  constructor
  case succeeds =>
    rw [← whole]
    exact Facts.establish_iff typed produced
  case refused =>
    intro failure failed
    obtain ⟨front, new, back, established, split, same, before, stands, differs⟩ :=
      Facts.establish_eq_error typed produced failed
    rw [whole] at before stands
    refine ⟨front, new, back, established, split, before, stands, differs, same, fun old added => ?_⟩
    rw [same, Failure.contradiction_of_writable old added]

namespace Engine

/-- What the rules of a pass see is what its facts are merged into, and well-typed facts are checked
against it. In a run that succeeds all that a rule has ever seen is therefore returned. -/
theorem view_established {engine : Engine} {tree : Tree}
    (accepted : RuleTable.ofTree engine.schema tree = .ok engine.rules) :
    (∀ isFinal known rules result, (Pass.ofRules isFinal known rules).result = .ok result →
      Pass.Merges isFinal known rules result.facts ∧
      ∀ schema, Facts.WellTyped schema known → rules.AssertsTyped schema →
        Pass.Checks isFinal known rules result.facts) ∧
    ∀ supplied results, (engine.run (some supplied)).2 = .ok results →
      ∃ run last, engine.runOn supplied = .ok run ∧ run.outcome = .ok last ∧
        results.Shows engine.schema last.known ∧
        ∀ e ∈ run.evaluations, e.known.Submap last.known := by
  constructor
  · intro isFinal known rules result swept
    exact ⟨Pass.merges swept, fun schema => Pass.checks swept⟩
  · intro supplied results returned
    obtain ⟨start, last, known, ended, rfl, declared⟩ := shows_of_returned accepted returned
    refine ⟨engine.rules.run start, last, ?_, ended, Results.shows_ofState declared, ?_⟩
    · simp only [runOn, known, Except.map]
    · intro e evaluated
      exact (engine.rules.run_course start).submap ended evaluated

def rescaled : Engine where
  schema := ⟨"facts", [("D", .decimal), ("E", .int)], by decide⟩
  rules := [
    { name := "again", facts := some [⟨"D", ⟨.decimal, some (.decimal (.finite false 15 (-1)))⟩⟩] },
    { name := "next"
      conditionSet := some ⟨true,
        [⟨"D", .equal, some ⟨.decimal, some (.decimal (.finite false 15 (-1)))⟩⟩]⟩
      facts := some [⟨"E", ⟨.int, some (.int 2)⟩⟩] }]

/-- The pass adds one fact, and keeps the form in which the number was known. -/
theorem rescaled_established :
    ∃ result, (Pass.ofRules false [⟨"D", ⟨.decimal, some (.decimal (.finite false 150 (-2)))⟩⟩]
        rescaled.rules).result = .ok result ∧
      Pass.Merges false [⟨"D", ⟨.decimal, some (.decimal (.finite false 150 (-2)))⟩⟩]
        rescaled.rules result.facts ∧
      Pass.Checks false [⟨"D", ⟨.decimal, some (.decimal (.finite false 150 (-2)))⟩⟩]
        rescaled.rules result.facts ∧
      Facts.establish [⟨"D", ⟨.decimal, some (.decimal (.finite false 150 (-2)))⟩⟩] result.facts =
        .ok ([⟨"D", ⟨.decimal, some (.decimal (.finite false 150 (-2)))⟩⟩,
          ⟨"E", ⟨.int, some (.int 2)⟩⟩], 1) ∧
      ∃ results run last,
        (rescaled.run (some [("D", .decimal (.finite false 150 (-2)))])).2 = .ok results ∧
        rescaled.runOn [("D", .decimal (.finite false 150 (-2)))] = .ok run ∧
        run.outcome = .ok last ∧ results.Shows rescaled.schema last.known ∧
        ∀ e ∈ run.evaluations, e.known.Submap last.known := by
  have accepted : RuleTable.ofTree rescaled.schema (.sequence [
      .mapping [(.scalar "name", .scalar "again"),
        (.scalar "facts", .sequence [.scalar "D = 1.5"])],
      .mapping [(.scalar "name", .scalar "next"),
        (.scalar "conditions", .sequence [.scalar "D == 1.5"]),
        (.scalar "facts", .sequence [.scalar "E = 2"])]]) = .ok rescaled.rules := rfl
  have typed : Facts.WellTyped rescaled.schema
      [⟨"D", ⟨.decimal, some (.decimal (.finite false 150 (-2)))⟩⟩] :=
    Facts.WellTyped.singleton ⟨rfl, _, rfl, rfl⟩
  obtain ⟨passes, runs⟩ := view_established accepted
  obtain ⟨run, last, ran, ended, shown, seen⟩ :=
    runs [("D", .decimal (.finite false 150 (-2)))] _ rfl
  obtain ⟨merges, checks⟩ := passes false
    [⟨"D", ⟨.decimal, some (.decimal (.finite false 150 (-2)))⟩⟩] rescaled.rules _ rfl
  exact ⟨_, rfl, merges, checks _ typed (RuleTable.ofTree_wellTyped accepted).asserts, rfl, _, run,
    last, rfl, ran, ended, shown, seen⟩

end Engine

def asserting (fact : Fact) : RuleTable := [{ name := "a", facts := some [fact] }]

/-- A signaling decimal among the known facts makes the check break down, and so does a contradiction
to an integer of too many digits. Another type gives another error, and an unset value passes although
it is not equal to itself. -/
theorem asserting_not_checked :
    RuleTable.ofTree ⟨"facts", [("D", .decimal)], by decide⟩ (.sequence [
        .mapping [(.scalar "name", .scalar "a"), (.scalar "facts", .sequence [.scalar "D = 1"])]]) =
      .ok (asserting ⟨"D", ⟨.decimal, some (.decimal (.finite false 1 0))⟩⟩) ∧
    (∀ known fact, (Pass.ofRules false known (asserting fact)).result = .ok ⟨[fact], [], []⟩) ∧
    Facts.establish [⟨"D", ⟨.decimal, some (.decimal (.nan false true 0))⟩⟩]
        [⟨"D", ⟨.decimal, some (.decimal (.finite false 1 0))⟩⟩] = .error (.defect .orderOfNan) ∧
    Facts.establish [⟨"A", ⟨.int, some (.int 1)⟩⟩] [⟨"A", ⟨.string, some (.string "x")⟩⟩] =
      .error (.error (.typesDiffer ⟨.int, some (.int 1)⟩ ⟨.string, some (.string "x")⟩)) ∧
    Facts.establish [] [⟨"A", ⟨.int, none⟩⟩] = .ok ([⟨"A", ⟨.int, none⟩⟩], 1) ∧
    ¬ (Pass.view false [] (asserting ⟨"A", ⟨.int, none⟩⟩)).Holds ⟨"A", ⟨.int, none⟩⟩ ∧
    Facts.establish [⟨"A", ⟨.int, some (.int overlongNumber)⟩⟩] [⟨"A", ⟨.int, some (.int 1)⟩⟩] =
      .error (.defect (.tooManyDigits none)) := by
  refine ⟨rfl, fun known fact => rfl, rfl, rfl, rfl, ?_, ?_⟩
  · rintro ⟨found, present, equal⟩
    cases present
    cases equal
  · exact Facts.establish_overlong "A" isWritable_overlongNumber overlongNumber_ne_one

end Deduce
