import Deduce.Proofs.Convergence
import Deduce.Proofs.Provenance

/-!
# Rules that do not fire

A rule that does not fire in a run has no influence on what the run returns, although it may keep the
run from ending and delay the final phase. Without it the run goes the same way pass by pass, and the
rules that are left may all be decided earlier.
-/

namespace Deduce

def PassResult.keepOnly (keep : Rule → Bool) (result : PassResult) : PassResult :=
  { result with remaining := result.remaining.filter keep }

def State.keepOnly (keep : Rule → Bool) (s : State) : State :=
  { s with remaining := s.remaining.filter keep }

def Progress.keepOnly (keep : Rule → Bool) (p : Progress) : Progress :=
  { p with result := p.result.keepOnly keep }

variable {keep : Rule → Bool}

namespace PassResult

variable {rule : Rule}

theorem keepOnly_keep (kept : keep rule = true) (result : PassResult) :
    (result.keep rule).keepOnly keep = (result.keepOnly keep).keep rule := by
  simp [keepOnly, PassResult.keep, kept]

theorem keepOnly_keep_of_left (left : keep rule = false) (result : PassResult) :
    (result.keep rule).keepOnly keep = result.keepOnly keep := by
  simp [keepOnly, PassResult.keep, left]

theorem keepOnly_fire (rule : Rule) (result : PassResult) :
    (result.fire rule).keepOnly keep = (result.keepOnly keep).fire rule := rfl

end PassResult

namespace Sweep

variable {isFinal : Bool} {known : Facts} {rules : RuleTable} {evaluations : List Evaluation}
  {result : PassResult}

/-- A pass without rules that do not fire in it produces the same. -/
theorem keepOnly (h : Sweep isFinal known rules evaluations result)
    (kept : ∀ rule ∈ firedIn evaluations, keep rule = true) :
    Sweep isFinal known (rules.filter keep) (evaluations.filter fun e => keep e.rule)
      (result.keepOnly keep) := by
  induction h with
  | finish => exact .finish
  | @otherPhase _ rule _ _ result other _ ih =>
    cases chosen : keep rule with
    | true =>
      simp only [List.filter_cons, chosen, if_true, PassResult.keepOnly_keep chosen]
      exact .otherPhase other (ih kept)
    | false =>
      simp only [List.filter_cons, chosen, Bool.false_eq_true, if_false,
        PassResult.keepOnly_keep_of_left chosen]
      exact ih kept
  | @leftOpen _ rule _ _ result phase answered _ ih =>
    cases chosen : keep rule with
    | true =>
      simp only [List.filter_cons, chosen, if_true, PassResult.keepOnly_keep chosen]
      exact .leftOpen phase answered (ih kept)
    | false =>
      simp only [List.filter_cons, chosen, Bool.false_eq_true, if_false,
        PassResult.keepOnly_keep_of_left chosen]
      exact ih kept
  | @dropped _ rule _ _ result phase answered _ ih =>
    cases chosen : keep rule with
    | true =>
      simp only [List.filter_cons, chosen, if_true]
      exact .dropped phase answered (ih kept)
    | false =>
      simp only [List.filter_cons, chosen, Bool.false_eq_true, if_false]
      exact ih kept
  | @fired _ rule _ _ result phase answered _ ih =>
    rw [firedIn_cons_of_holds, List.forall_mem_cons] at kept
    simp only [List.filter_cons, kept.1, if_true, PassResult.keepOnly_fire]
    exact .fired phase answered (ih kept.2)

end Sweep

namespace State

variable {s : State} {p : Progress}

theorem progress_keepOnly (h : s.progress = .ok p)
    (kept : ∀ rule ∈ firedIn s.pass.evaluations, keep rule = true) :
    (s.keepOnly keep).progress = .ok (p.keepOnly keep) := by
  obtain ⟨swept, established⟩ := progress_eq_ok h
  refine progress_of_pass ?_ established
  rw [pass, State.keepOnly, (swept.keepOnly kept).ofRules_eq]

theorem isDone_keepOnly (done : (s.after p).isDone p.added = true) :
    ((s.keepOnly keep).after (p.keepOnly keep)).isDone p.added = true := by
  simp only [isDone, after, Bool.or_eq_true, List.isEmpty_iff] at done ⊢
  refine done.imp_left fun nothing => ?_
  simp [Progress.keepOnly, PassResult.keepOnly, nothing]

/-- If only the rules that are kept let a run end, none of them remains. -/
theorem remaining_of_isDone
    (done : ((s.keepOnly keep).after (p.keepOnly keep)).isDone p.added = true)
    (unfinished : (s.after p).isDone p.added = false) :
    p.result.remaining.filter keep = [] := by
  simp only [isDone, after, Bool.or_eq_true, List.isEmpty_iff, Bool.or_eq_false_iff] at done unfinished
  refine done.resolve_right fun final => ?_
  cases unfinished.2.symm.trans final

end State

namespace Course

variable {s last : State} {run run' : Run}

theorem fired_eq_nil (course : Course s run) (ended : run.outcome = .ok last)
    (kept : ∀ rule ∈ run.fired, keep rule = true) (nothing : s.remaining.filter keep = []) :
    run.fired = [] := by
  rw [List.eq_nil_iff_forall_not_mem]
  intro rule fired
  have member := List.mem_filter.mpr ⟨course.fired_subset ended fired, kept rule fired⟩
  rw [nothing] at member
  cases member

theorem unchanged (course : Course s run) (ended : run.outcome = .ok last) (nothing : run.fired = []) :
    last.known = s.known ∧ last.actions = s.actions ∧ s.passes ≤ last.passes := by
  rw [course.known_eq_learnAll ended, course.actions_eq ended, course.passes_eq ended, nothing]
  exact ⟨rfl, rfl, Nat.le_add_right _ _⟩

theorem keepOnly (course : Course s run) (ended : run.outcome = .ok last)
    (kept : ∀ rule ∈ run.fired, keep rule = true) (course' : Course (s.keepOnly keep) run') :
    ∃ last', run'.outcome = .ok last' ∧ last'.known = last.known ∧ last'.actions = last.actions ∧
      last'.passes ≤ last.passes := by
  induction course generalizing run' with
  | failed => cases ended
  | @ended s p progressed done =>
    cases ended
    rw [Run.fired_single] at kept
    have progressed' := State.progress_keepOnly progressed kept
    have done' := @State.isDone_keepOnly keep s p done
    cases course' with
    | failed failed => cases progressed'.symm.trans failed
    | ended again =>
      cases progressed'.symm.trans again
      exact ⟨_, rfl, rfl, rfl, Nat.le_refl _⟩
    | continued again unfinished =>
      cases progressed'.symm.trans again
      cases done'.symm.trans unfinished
  | @continued s p run progressed unfinished course ih =>
    rw [Run.fired_cons, List.forall_mem_append] at kept
    have progressed' := State.progress_keepOnly progressed kept.1
    cases course' with
    | failed failed => cases progressed'.symm.trans failed
    | ended again done =>
      cases progressed'.symm.trans again
      have nothing := course.fired_eq_nil ended kept.2 (State.remaining_of_isDone done unfinished)
      obtain ⟨known, actions, passes⟩ := course.unchanged ended nothing
      exact ⟨_, rfl, known.symm, actions.symm, passes⟩
    | continued again _ course' =>
      cases progressed'.symm.trans again
      obtain ⟨last', ended', same⟩ := ih ended kept.2 course'
      exact ⟨last', ended', same⟩

end Course

theorem filter_of_sublist {rules kept : RuleTable} (fewer : kept.Sublist rules)
    (distinct : rules.Nodup) : rules.filter (fun rule => decide (rule ∈ kept)) = kept := by
  induction fewer with
  | slnil => rfl
  | @cons kept rules rule fewer ih =>
    obtain ⟨new, distinct⟩ := List.nodup_cons.mp distinct
    have left : rule ∉ kept := fun member => new (fewer.subset member)
    rw [List.filter_cons_of_neg (by simpa using left), ih distinct]
  | @cons_cons kept rules rule fewer ih =>
    obtain ⟨new, distinct⟩ := List.nodup_cons.mp distinct
    rw [List.filter_cons_of_pos (by simp)]
    congr 1
    refine Eq.trans (List.filter_congr fun other member => ?_) (ih distinct)
    have differs : other ≠ rule := fun same => new (same ▸ member)
    simp [differs]

namespace Engine

variable {engine : Engine} {tree : Tree} {supplied : Supplied} {run : Run} {results : Results}
  {kept : RuleTable}

/-- Rules that did not fire in a run can be left out. -/
theorem run_without_unfired (accepted : RuleTable.ofTree engine.schema tree = .ok engine.rules)
    (ran : engine.runOn supplied = .ok run)
    (returned : (engine.run (some supplied)).2 = .ok results)
    (fewer : kept.Sublist engine.rules) (fired : run.fired ⊆ kept) :
    ∃ results', (Engine.run { engine with rules := kept } (some supplied)).2 = .ok results' ∧
      results'.facts = results.facts ∧ results'.actions = results.actions ∧
      results'.passes ≤ results.passes := by
  obtain ⟨start, last, known, ended, rfl⟩ := run_eq_ok returned
  obtain ⟨_, known', rfl⟩ := map_eq_ok.mp ran
  cases known.symm.trans known'
  obtain ⟨_, _, _, names⟩ := RuleTable.ofTree_eq_ok_iff.mp accepted
  have whole := filter_of_sublist fewer names.of_map
  have course := kept.run_course start
  rw [← whole] at course
  obtain ⟨last', ended', sameKnown, sameActions, passes⟩ :=
    (engine.rules.run_course start).keepOnly ended
      (fun rule member => decide_eq_true (fired member)) course
  rw [whole] at ended'
  have without : (Engine.run { engine with rules := kept } (some supplied)).2 =
      (kept.run start).outcome.map (Results.ofState engine.schema) := run_of_accepted known
  refine ⟨Results.ofState engine.schema last', ?_, ?_, ?_, passes⟩
  · rw [without, ended']
    rfl
  · simp only [Results.ofState, sameKnown]
  · simp only [Results.ofState, sameActions]

/-- Of three rules one fires, one fails and one waits for a fact that never becomes known. -/
def waiting : Engine where
  schema := ⟨"facts", [("A", .int), ("B", .decimal), ("C", .int)], by decide⟩
  rules := [
    { name := "fails"
      conditionSet := some ⟨true, [⟨"A", .equal, some ⟨.int, some (.int 2)⟩⟩]⟩ },
    { name := "fires"
      conditionSet := some ⟨true, [⟨"A", .equal, some ⟨.int, some (.int 1)⟩⟩]⟩
      facts := some [⟨"B", ⟨.decimal, some (.decimal (.finite false 150 (-2)))⟩⟩]
      actions := some [⟨.field, "B"⟩] },
    { name := "waits"
      conditionSet := some ⟨true, [⟨"C", .equal, some ⟨.int, some (.int 1)⟩⟩]⟩ }]

/-- The rule that waits keeps the run going for two passes, in which nothing happens. -/
theorem waiting_without_unfired :
    ∃ results results', (waiting.run (some [("A", .int 1)])).2 = .ok results ∧
      results.passes = 3 ∧
      (Engine.run { waiting with rules := [waiting.rules[1]] } (some [("A", .int 1)])).2 =
        .ok results' ∧
      results'.facts = results.facts ∧ results'.actions = results.actions ∧
      results'.passes ≤ results.passes := by
  have accepted : RuleTable.ofTree waiting.schema (.sequence [
      .mapping [(.scalar "name", .scalar "fails"),
        (.scalar "conditions", .sequence [.scalar "A == 2"])],
      .mapping [(.scalar "name", .scalar "fires"),
        (.scalar "conditions", .sequence [.scalar "A == 1"]),
        (.scalar "facts", .sequence [.scalar "B = 1.50"]),
        (.scalar "actions", .sequence [.scalar "Field B"])],
      .mapping [(.scalar "name", .scalar "waits"),
        (.scalar "conditions", .sequence [.scalar "C == 1"])]]) = .ok waiting.rules := rfl
  have ran : waiting.runOn [("A", .int 1)] = .ok _ := rfl
  have returned : (waiting.run (some [("A", .int 1)])).2 = .ok _ := rfl
  have fewer : [waiting.rules[1]].Sublist waiting.rules := by decide
  obtain ⟨results', without, same⟩ :=
    run_without_unfired accepted ran returned fewer (List.Subset.refl [waiting.rules[1]])
  exact ⟨_, results', returned, rfl, without, same⟩

end Engine

end Deduce
