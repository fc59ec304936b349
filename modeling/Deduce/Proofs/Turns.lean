import Deduce.Engine
import Deduce.Proofs.Reading.Drafts
import Deduce.Proofs.Run

/-!
# Turns of rules

In each pass the rules of the phase have their turns in order, up to one that fails if there is one.
Over a whole run a rule has no turn behind the one that decides it, and the final rules have theirs
once a whole pass over the others has added nothing. All this holds whether or not the run succeeds.
-/

namespace Deduce

structure Turn where
  rule : Rule
  known : Facts
  answer : Except Failure Outcome

namespace Turn

def Decides (t : Turn) : Prop := t.answer = .ok .holds ∨ t.answer = .ok .fails

/-- The evaluation that is recorded of a turn, unless it failed. -/
def evaluation? (t : Turn) : Option Evaluation :=
  match t.answer with
  | .error _ => none
  | .ok outcome => some ⟨t.rule, t.known, outcome⟩

end Turn

/-- The turns of a pass over rules. Behind a turn that fails there is none. -/
def Pass.turns (isFinal : Bool) (known : Facts) : RuleTable → List Turn
  | [] => []
  | rule :: rest =>
    if rule.isFinal != isFinal then turns isFinal known rest
    else
      ⟨rule, known, rule.outcome known⟩ ::
        match rule.outcome known with
        | .error _ => []
        | .ok .holds => turns isFinal (known.learnAll rule.asserted) rest
        | .ok _ => turns isFinal known rest

namespace State

def turns (s : State) : List Turn := Pass.turns s.isFinal s.known s.remaining

def round (s : State) : Round := ⟨s.isFinal, s.pass.evaluations, s.progress.toOption⟩

end State

inductive Stages : State → List State → Prop where
  | last {s} : Stages s [s]
  | next {s p stages} : s.progress = .ok p → Stages ((s.after p).advance p.added) stages →
      Stages s (s :: stages)

structure Stages.Ordered (table : RuleTable) (stages : List State) : Prop where
  once : (stages.flatMap State.turns).Pairwise fun t later =>
    t.Decides → later.rule.name ≠ t.rule.name
  declared : ∀ s ∈ stages, (s.turns.map Turn.rule).Sublist table ∧
    ((s.turns.map Turn.rule).map Rule.name).Nodup
  /-- In a pass that is completed all rules of its phase have a turn. -/
  complete : ∀ s ∈ stages, ∀ result, s.pass.result = .ok result →
    s.turns.map Turn.rule = s.remaining.filter (·.isFinal == s.isFinal)
  /-- A final rule has no turn before a complete pass over the others has added no fact. -/
  guarded : ∀ front s back, stages = front ++ s :: back → ∀ t ∈ s.turns, t.rule.isFinal = true →
    ∃ earlier ∈ front, earlier.isFinal = false ∧ ∃ p, earlier.progress = .ok p ∧ p.added = 0
  final : ∀ front s back, stages = front ++ s :: back → s.isFinal = true →
    ∀ later ∈ s :: back, ∀ t ∈ later.turns, t.rule.isFinal = true
  remaining : ∀ s ∈ stages, s.remaining.Sublist table ∧
    ∀ result, s.pass.result = .ok result → result.remaining.Sublist s.remaining

section Pass

variable {isFinal : Bool} {known : Facts} {rules : RuleTable}

theorem Pass.turns_of_ne {rule : Rule} (other : rule.isFinal ≠ isFinal) :
    turns isFinal known (rule :: rules) = turns isFinal known rules := by
  simp only [turns, bne_iff_ne.mpr other, if_true]

theorem Pass.turns_of_phase {rule : Rule} (phase : rule.isFinal = isFinal) :
    turns isFinal known (rule :: rules) = ⟨rule, known, rule.outcome known⟩ ::
      match rule.outcome known with
      | .error _ => []
      | .ok .holds => turns isFinal (known.learnAll rule.asserted) rules
      | .ok _ => turns isFinal known rules := by
  simp only [turns, phase, bne_self_eq_false, Bool.false_eq_true, if_false]

theorem Pass.turns_isPrefix (isFinal : Bool) (known : Facts) (rules : RuleTable) :
    ((turns isFinal known rules).map Turn.rule) <+: rules.filter (·.isFinal == isFinal) := by
  induction rules generalizing known with
  | nil => exact List.prefix_rfl
  | cons rule rest ih =>
    by_cases phase : rule.isFinal = isFinal
    · simp only [turns_of_phase phase, List.map_cons, List.filter_cons, phase, BEq.rfl, if_true,
        List.prefix_cons_inj]
      split
      · exact List.nil_prefix
      · exact ih _
      · exact ih _
    · simp only [turns_of_ne phase, List.filter_cons, beq_eq_false_iff_ne.mpr phase,
        Bool.false_eq_true, if_false]
      exact ih known

theorem Pass.isFinal_of_turn {t : Turn} (member : t ∈ turns isFinal known rules) :
    t.rule ∈ rules ∧ t.rule.isFinal = isFinal := by
  have among := (turns_isPrefix isFinal known rules).subset (List.mem_map_of_mem member)
  simpa using List.mem_filter.mp among

theorem Pass.name_ne_of_turn {rule : Rule} (new : rule.name ∉ rules.map Rule.name) {t : Turn}
    (turn : t ∈ turns isFinal known rules) : rule.name ≠ t.rule.name := by
  intro same
  rw [same] at new
  exact new (List.mem_map_of_mem (isFinal_of_turn turn).1)

theorem Pass.evaluations_eq (isFinal : Bool) (known : Facts) (rules : RuleTable) :
    (ofRules isFinal known rules).evaluations =
      (turns isFinal known rules).filterMap Turn.evaluation? := by
  induction rules generalizing known with
  | nil => rfl
  | cons rule rest ih =>
    by_cases phase : rule.isFinal = isFinal
    · simp only [ofRules, turns_of_phase phase, phase, bne_self_eq_false, Bool.false_eq_true,
        if_false]
      cases answered : rule.outcome known with
      | error failure => rfl
      | ok outcome => cases outcome <;> simp [Turn.evaluation?, ih]
    · simp only [ofRules, turns_of_ne phase, bne_iff_ne.mpr phase, if_true]
      exact ih known

/-- A turn that fails is the last one, and fails the pass. -/
theorem Pass.last_of_failed {t : Turn} (turn : t ∈ turns isFinal known rules) {failure : Failure}
    (failed : t.answer = .error failure) :
    (turns isFinal known rules).getLast? = some t ∧
      (ofRules isFinal known rules).result = .error failure := by
  induction rules generalizing known with
  | nil => cases turn
  | cons rule rest ih =>
    have last {head : Turn} {tail : List Turn} (h : tail.getLast? = some t) :
        (head :: tail).getLast? = some t := by
      rw [List.getLast?_cons, h]
      rfl
    by_cases phase : rule.isFinal = isFinal
    · rw [turns_of_phase phase] at turn ⊢
      simp only [ofRules, phase, bne_self_eq_false, Bool.false_eq_true, if_false]
      cases answered : rule.outcome known with
      | error failure' =>
        simp only [answered, List.mem_singleton] at turn
        subst turn
        cases failed
        exact ⟨rfl, rfl⟩
      | ok outcome =>
        simp only [answered] at turn
        rcases List.mem_cons.mp turn with rfl | turn
        · cases failed
        · cases outcome with
          | holds | fails | unknown =>
            obtain ⟨ends, fails⟩ := ih turn
            exact ⟨last ends, map_eq_error.mpr fails⟩
    · rw [turns_of_ne phase] at turn ⊢
      simp only [ofRules, bne_iff_ne.mpr phase, if_true, map_eq_error]
      exact ih turn

theorem Sweep.turns_eq {evaluations : List Evaluation} {result : PassResult}
    (h : Sweep isFinal known rules evaluations result) :
    (Pass.turns isFinal known rules).map Turn.rule = rules.filter (·.isFinal == isFinal) := by
  induction h with
  | finish => rfl
  | otherPhase other _ ih =>
    simp only [Pass.turns_of_ne other, List.filter_cons, beq_eq_false_iff_ne.mpr other,
      Bool.false_eq_true, if_false, ih]
  | leftOpen phase answered _ ih | dropped phase answered _ ih | fired phase answered _ ih =>
    simp only [Pass.turns_of_phase phase, answered, List.map_cons, List.filter_cons, phase, BEq.rfl,
      if_true, ih]

theorem Sweep.name_ne_of_decided {evaluations : List Evaluation} {result : PassResult}
    (h : Sweep isFinal known rules evaluations result) (distinct : (rules.map Rule.name).Nodup)
    {t : Turn} (turn : t ∈ Pass.turns isFinal known rules) (decides : t.Decides) :
    ∀ rule ∈ result.remaining, rule.name ≠ t.rule.name := by
  induction h with
  | finish => cases turn
  | @otherPhase known rule rest _ _ other swept ih =>
    obtain ⟨new, distinct⟩ := List.nodup_cons.mp distinct
    rw [Pass.turns_of_ne other] at turn
    intro remaining member
    rcases List.mem_cons.mp member with rfl | later
    · exact Pass.name_ne_of_turn new turn
    · exact ih distinct turn remaining later
  | @leftOpen known rule rest _ _ phase answered swept ih =>
    obtain ⟨new, distinct⟩ := List.nodup_cons.mp distinct
    rw [Pass.turns_of_phase phase, answered] at turn
    rcases List.mem_cons.mp turn with rfl | turn
    · rcases decides with holds | fails
      · cases holds
      · cases fails
    · intro remaining member
      rcases List.mem_cons.mp member with rfl | later
      · exact Pass.name_ne_of_turn new turn
      · exact ih distinct turn remaining later
  | dropped phase answered swept ih | fired phase answered swept ih =>
    obtain ⟨new, distinct⟩ := List.nodup_cons.mp distinct
    rw [Pass.turns_of_phase phase, answered] at turn
    rcases List.mem_cons.mp turn with rfl | turn
    · intro remaining member same
      rw [← same] at new
      exact new (List.mem_map_of_mem (swept.sublist.subset member))
    · exact ih distinct turn

end Pass

namespace State

variable {s : State}

theorem turns_sublist (s : State) : (s.turns.map Turn.rule).Sublist s.remaining :=
  (Pass.turns_isPrefix s.isFinal s.known s.remaining).sublist.trans List.filter_sublist

theorem nodup_turns (distinct : (s.remaining.map Rule.name).Nodup) :
    ((s.turns.map Turn.rule).map Rule.name).Nodup :=
  distinct.sublist (s.turns_sublist.map Rule.name)

theorem result_of_progress {p : Progress} (h : s.progress = .ok p) :
    s.pass.result = .ok p.result := by
  rw [pass, (progress_eq_ok h).1.ofRules_eq]

theorem turn_among {t : Turn} (turn : t ∈ s.turns) : t.rule ∈ s.remaining ∧ t.rule.isFinal = s.isFinal :=
  Pass.isFinal_of_turn turn

end State

namespace Stages

variable {s : State} {stages front back : List State} {now : State}

theorem sublist (h : Stages s stages) : ∀ now ∈ stages, now.remaining.Sublist s.remaining := by
  induction h with
  | last => simp
  | @next s p stages progressed _ ih =>
    intro now member
    rcases List.mem_cons.mp member with rfl | later
    · exact List.Sublist.refl _
    · exact (ih now later).trans (State.progress_eq_ok progressed).1.sublist

theorem behind (h : Stages s stages) (split : stages = front ++ now :: back) :
    Stages now (now :: back) := by
  induction h generalizing front with
  | last =>
    cases front with
    | nil =>
      cases split
      exact .last
    | cons => simp at split
  | next progressed staged ih =>
    cases front with
    | nil =>
      cases split
      exact .next progressed staged
    | cons =>
      cases split
      exact ih rfl

theorem isFinal (h : Stages s stages) (final : s.isFinal = true) :
    ∀ now ∈ stages, now.isFinal = true := by
  induction h with
  | last => simpa using final
  | @next s p stages progressed _ ih =>
    intro now member
    rcases List.mem_cons.mp member with rfl | later
    · exact final
    · exact ih (by simp [State.advance, State.after, final]) now later

/-- The final phase begins behind a pass that adds nothing. -/
theorem exists_idle (h : Stages s stages) (normal : s.isFinal = false)
    (split : stages = front ++ now :: back) (final : now.isFinal = true) :
    ∃ earlier ∈ front, earlier.isFinal = false ∧ ∃ p, earlier.progress = .ok p ∧ p.added = 0 := by
  induction h generalizing front with
  | last =>
    cases front with
    | nil =>
      cases split
      rw [normal] at final
      cases final
    | cons => simp at split
  | @next s p stages progressed _ ih =>
    cases front with
    | nil =>
      cases split
      rw [normal] at final
      cases final
    | cons head front =>
      cases split
      by_cases idle : p.added = 0
      · exact ⟨s, List.mem_cons_self, normal, p, progressed, idle⟩
      · have still : ((s.after p).advance p.added).isFinal = false := by
          simp [State.advance, State.after, normal, idle]
        obtain ⟨earlier, member, rest⟩ := ih still rfl
        exact ⟨earlier, List.mem_cons_of_mem _ member, rest⟩

theorem once (h : Stages s stages) (distinct : (s.remaining.map Rule.name).Nodup) :
    (stages.flatMap State.turns).Pairwise fun t later =>
      t.Decides → later.rule.name ≠ t.rule.name := by
  have inPass (s : State) (distinct : (s.remaining.map Rule.name).Nodup) :
      s.turns.Pairwise fun t later => t.Decides → later.rule.name ≠ t.rule.name := by
    have names := State.nodup_turns distinct
    rw [List.Nodup, List.pairwise_map, List.pairwise_map] at names
    refine names.imp fun differ _ => ?_
    exact Ne.symm differ
  induction h with
  | @last s => simpa using inPass s distinct
  | @next s p stages progressed staged ih =>
    have swept := (State.progress_eq_ok progressed).1
    have fewer := swept.sublist
    rw [List.flatMap_cons, List.pairwise_append]
    refine ⟨inPass s distinct, ih (distinct.sublist (fewer.map Rule.name)), ?_⟩
    intro t turn later member decides
    obtain ⟨now, stage, turn'⟩ := List.mem_flatMap.mp member
    have remains := (staged.sublist now stage).subset (State.turn_among turn').1
    exact swept.name_ne_of_decided distinct turn decides later.rule remains

theorem ordered {table : RuleTable} {known : Facts} (distinct : (table.map Rule.name).Nodup)
    (h : Stages { known := known, remaining := table } stages) : Ordered table stages := by
  constructor
  case once => exact h.once distinct
  case declared =>
    intro s member
    have declared := s.turns_sublist.trans (h.sublist s member)
    exact ⟨declared, distinct.sublist (declared.map Rule.name)⟩
  case complete =>
    intro s _ result swept
    exact (Pass.ofRules_sweep swept).turns_eq
  case guarded =>
    intro front s back split t turn final
    rw [(State.turn_among turn).2] at final
    exact h.exists_idle rfl split final
  case final =>
    intro front s back split final later member t turn
    rw [(State.turn_among turn).2]
    exact (h.behind split).isFinal final later member
  case remaining =>
    intro s member
    exact ⟨h.sublist s member, fun result swept => (Pass.ofRules_sweep swept).sublist⟩

end Stages

/-- The passes that a run records are those of its stages, and a turn that fails is the end of it. -/
theorem Course.exists_stages {s : State} {run : Run} (course : Course s run) :
    ∃ stages, Stages s stages ∧ stages.map State.round = run.rounds ∧
      ∀ t ∈ stages.flatMap State.turns, ∀ failure, t.answer = .error failure →
        (stages.flatMap State.turns).getLast? = some t ∧ run.outcome = .error failure := by
  induction course with
  | @failed s failure failed =>
    refine ⟨[s], .last, by simp [State.round, failed, Except.toOption], ?_⟩
    intro t turn failure' fails
    simp only [List.flatMap_singleton] at turn ⊢
    obtain ⟨ends, stopped⟩ := Pass.last_of_failed turn fails
    refine ⟨ends, ?_⟩
    simp only [State.progress, State.pass, stopped] at failed
    cases failed
    rfl
  | @ended s p progressed =>
    refine ⟨[s], .last, by simp [State.round, progressed, Except.toOption], ?_⟩
    intro t turn failure fails
    simp only [List.flatMap_singleton] at turn
    cases (State.result_of_progress progressed).symm.trans (Pass.last_of_failed turn fails).2
  | @continued s p run progressed _ _ ih =>
    obtain ⟨stages, staged, recorded, failing⟩ := ih
    refine ⟨s :: stages, .next progressed staged, ?_, ?_⟩
    · simp [State.round, progressed, Except.toOption, recorded]
    · intro t turn failure fails
      rw [List.flatMap_cons] at turn ⊢
      rcases List.mem_append.mp turn with now | later
      · cases (State.result_of_progress progressed).symm.trans (Pass.last_of_failed now fails).2
      · obtain ⟨ends, stopped⟩ := failing t later failure fails
        rw [List.getLast?_append, ends]
        exact ⟨rfl, stopped⟩

namespace Engine

/-- In every run, whether or not it succeeds, the rules have their turns in order. -/
theorem turns_ordered {engine : Engine} {tree : Tree} {supplied : Supplied} {run : Run}
    (accepted : RuleTable.ofTree engine.schema tree = .ok engine.rules)
    (ran : engine.runOn supplied = .ok run) :
    ∃ start stages, engine.schema.knownFrom supplied = .ok start ∧
      Stages { known := start, remaining := engine.rules } stages ∧
      stages.map State.round = run.rounds ∧
      run.evaluations = (stages.flatMap State.turns).filterMap Turn.evaluation? ∧
      (∀ t ∈ stages.flatMap State.turns, ∀ failure, t.answer = .error failure →
        (stages.flatMap State.turns).getLast? = some t ∧ run.outcome = .error failure) ∧
      Stages.Ordered engine.rules stages := by
  obtain ⟨_, _, _, distinct⟩ := RuleTable.ofTree_eq_ok_iff.mp accepted
  obtain ⟨start, known, rfl⟩ := map_eq_ok.mp ran
  obtain ⟨stages, staged, recorded, failing⟩ := (engine.rules.run_course start).exists_stages
  refine ⟨start, stages, known, staged, recorded, ?_, failing, staged.ordered distinct⟩
  rw [Run.evaluations, ← recorded, List.filterMap_flatMap, List.flatMap_map]
  congr 1
  funext s
  exact Pass.evaluations_eq s.isFinal s.known s.remaining

/-- A rule that waits for the one behind it, and one that checks whether a third fact is known. -/
def backwards : Engine where
  schema := ⟨"facts", [("A", .int), ("B", .int), ("N", .int)], by decide⟩
  rules := [
    { name := "second"
      conditionSet := some ⟨true, [⟨"B", .equal, some ⟨.int, some (.int 2)⟩⟩]⟩
      actions := some [⟨.field, "two"⟩] },
    { name := "absent"
      conditionSet := some ⟨true, [⟨"N", .notDefined, none⟩]⟩
      actions := some [⟨.field, "none"⟩]
      isFinal := true },
    { name := "first"
      conditionSet := some ⟨true, [⟨"A", .equal, some ⟨.int, some (.int 1)⟩⟩]⟩
      facts := some [⟨"B", ⟨.int, some (.int 2)⟩⟩] }]

/-- One pass has the turns of the two rules that are not final, the next one repeats the first turn,
which adds no fact, and the third one has the turn of the final rule. -/
theorem backwards_ordered :
    ∃ run stages, backwards.runOn [("A", .int 1)] = .ok run ∧
      stages.map State.round = run.rounds ∧ stages.length = 3 ∧
      run.evaluations.map (·.rule.name) = ["second", "first", "second", "absent"] ∧
      Stages.Ordered backwards.rules stages := by
  have accepted : RuleTable.ofTree backwards.schema (.sequence [
      .mapping [(.scalar "name", .scalar "second"),
        (.scalar "conditions", .sequence [.scalar "B == 2"]),
        (.scalar "actions", .sequence [.scalar "Field two"])],
      .mapping [(.scalar "name", .scalar "absent"),
        (.scalar "conditions", .sequence [.scalar "!N"]),
        (.scalar "actions", .sequence [.scalar "Field none"])],
      .mapping [(.scalar "name", .scalar "first"),
        (.scalar "conditions", .sequence [.scalar "A == 1"]),
        (.scalar "facts", .sequence [.scalar "B = 2"])]]) = .ok backwards.rules := rfl
  have ran : backwards.runOn [("A", .int 1)] = .ok _ := rfl
  obtain ⟨start, stages, _, _, recorded, _, _, ordered⟩ := turns_ordered accepted ran
  refine ⟨_, stages, ran, recorded, ?_, rfl, ordered⟩
  rw [← List.length_map State.round, recorded]
  rfl

end Engine

end Deduce
