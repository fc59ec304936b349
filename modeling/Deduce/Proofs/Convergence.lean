import Deduce.Proofs.Results
import Deduce.Proofs.Run
import Deduce.Proofs.Typing.Supplied

/-!
# The number of passes

Each pass but two adds a fact: one may end the normal phase, and one the run. A pass that adds a fact
has decided a rule, so that a run takes at most one pass more than there are rules, and two more than
there are facts to add. Neither bound asks that the run succeeds.
-/

namespace Deduce

namespace Run

def added (run : Run) : Nat := ((run.rounds.filterMap Round.progress).map Progress.added).sum

/-- The facts known when the last completed pass of a run is over. -/
def reached (start : Facts) (run : Run) : Facts :=
  ((run.rounds.filterMap Round.progress).getLast?.map Progress.known).getD start

variable (isFinal : Bool) (evaluations : List Evaluation) (p : Progress) (start : Facts)

@[simp] theorem added_ended (s : State) :
    added ⟨[⟨isFinal, evaluations, some p⟩], .ok s⟩ = p.added := by
  simp [added]

@[simp] theorem added_continued (run : Run) :
    added ⟨⟨isFinal, evaluations, some p⟩ :: run.rounds, run.outcome⟩ = p.added + run.added := by
  simp [added]

@[simp] theorem reached_ended (s : State) :
    reached start ⟨[⟨isFinal, evaluations, some p⟩], .ok s⟩ = p.known := rfl

@[simp] theorem reached_continued (run : Run) :
    reached start ⟨⟨isFinal, evaluations, some p⟩ :: run.rounds, run.outcome⟩ =
      reached p.known run := by
  simp only [reached, List.filterMap_cons, List.getLast?_cons]
  cases (run.rounds.filterMap Round.progress).getLast? <;> rfl

end Run

namespace Course

variable {s last : State} {run : Run}

theorem length_rounds_le (course : Course s run)
    (startable : s.isFinal = true → s.remaining ≠ []) : run.rounds.length ≤ s.passesLeft := by
  induction course with
  | failed | ended => exact State.passesLeft_pos startable
  | continued progressed unfinished _ ih =>
    have fewer := State.passesLeft_advance_lt progressed unfinished
    have later := ih fun _ => (State.isDone_eq_false unfinished).1
    simp only [List.length_cons]
    omega

theorem length_rounds_le_added (course : Course s run) :
    run.rounds.length ≤ run.added + if s.isFinal then 1 else 2 := by
  induction course with
  | failed | ended =>
    simp only [List.length_singleton]
    split <;> omega
  | @continued s p run progressed unfinished _ ih =>
    have learned := (State.isDone_eq_false unfinished).2
    simp only [List.length_cons, Run.added_continued]
    by_cases nothing : p.added = 0
    · -- the pass has ended the normal phase, which has one idle pass more to come than the final one
      have normal : s.isFinal = false := by
        by_contra final
        exact learned (by simpa using final) nothing
      simp only [State.advance, State.after, normal, nothing, BEq.rfl, Bool.or_true, if_true] at ih
      simp only [normal, nothing, Bool.false_eq_true, if_false]
      omega
    · simp only [State.advance, State.after, beq_eq_false_iff_ne.mpr nothing, Bool.or_false] at ih
      omega

theorem passes_eq (course : Course s run) (ended : run.outcome = .ok last) :
    last.passes = s.passes + run.rounds.length := by
  induction course with
  | failed => cases ended
  | ended =>
    cases ended
    rfl
  | continued _ _ _ ih =>
    rw [ih ended, List.length_cons]
    simp only [State.advance, State.after]
    omega

theorem reached_eq (course : Course s run) (ended : run.outcome = .ok last) :
    run.reached s.known = last.known := by
  induction course with
  | failed => cases ended
  | ended =>
    cases ended
    rfl
  | continued _ _ _ ih =>
    rw [Run.reached_continued]
    exact ih ended

theorem submap_reached (course : Course s run) : s.known.Submap (run.reached s.known) := by
  induction course with
  | failed => exact Facts.Submap.refl _
  | ended progressed => exact State.submap_of_progress progressed
  | continued progressed _ _ ih =>
    rw [Run.reached_continued]
    exact (State.submap_of_progress progressed).trans ih

theorem card_ids (course : Course s run) :
    (run.reached s.known).ids.card = s.known.ids.card + run.added := by
  induction course with
  | failed => rfl
  | ended progressed =>
    rw [Run.reached_ended, Run.added_ended]
    exact Facts.card_ids_of_establish (State.progress_eq_ok progressed).2
  | @continued s p run progressed _ _ ih =>
    rw [Run.reached_continued, Run.added_continued, ← Nat.add_assoc,
      ← Facts.card_ids_of_establish (State.progress_eq_ok progressed).2]
    exact ih

theorem added_eq (course : Course s run) :
    run.added = ((run.reached s.known).ids \ s.known.ids).card := by
  have counted := course.card_ids
  have apart := Finset.card_sdiff_add_card_eq_card course.submap_reached.ids_subset
  omega

end Course

theorem Course.outcome_ne_notConverged {s : State} {run : Run} (course : Course s run) (limit : Nat) :
    run.outcome ≠ .error (.error (.notConverged limit)) :=
  fun failed => nomatch course.outcome_ofRun failed

theorem Schema.knownFrom_ne_notConverged (schema : Schema) (supplied : Supplied) (limit : Nat) :
    schema.knownFrom supplied ≠ .error (.error (.notConverged limit)) := by
  intro failed
  obtain ⟨_, _, ⟨_, same, refused⟩ | ⟨same, _⟩⟩ := knownFrom_eq_error failed <;> cases same
  cases refused

namespace Engine

/-- A run never fails for the number of its passes. It takes at most one pass more than there are
rules, and at most two more than there are facts that it adds, whether it succeeds or fails. -/
theorem run_converges (engine : Engine) (supplied : Supplied) :
    (∀ limit, (engine.run (some supplied)).2 ≠ .error (.error (.notConverged limit))) ∧
    ∀ start, engine.schema.knownFrom supplied = .ok start →
      (engine.rules.run start).rounds.length ≤ engine.rules.length + 1 ∧
      (engine.rules.run start).rounds.length ≤
        (((engine.rules.run start).reached start).ids \ start.ids).card + 2 ∧
      ∀ results, (engine.run (some supplied)).2 = .ok results →
        results.passes = (engine.rules.run start).rounds.length ∧
        ∃ last, results = Results.ofState engine.schema last ∧
          (engine.rules.run start).reached start = last.known := by
  constructor
  · intro limit failed
    cases known : engine.schema.knownFrom supplied with
    | error failure =>
      rw [run_of_refused known, Except.error.injEq] at failed
      exact engine.schema.knownFrom_ne_notConverged supplied limit (failed ▸ known)
    | ok start =>
      rw [run_of_accepted known] at failed
      exact (engine.rules.run_course start).outcome_ne_notConverged limit (map_eq_error.mp failed)
  · intro start known
    have course := engine.rules.run_course start
    have added := course.added_eq
    refine ⟨?_, ?_, ?_⟩
    · apply course.length_rounds_le
      intro final
      cases final
    · rw [← added]
      exact course.length_rounds_le_added
    · intro results returned
      rw [run_of_accepted known] at returned
      obtain ⟨last, ended, rfl⟩ := map_eq_ok.mp returned
      exact ⟨(course.passes_eq ended).trans (Nat.zero_add _), last, rfl, course.reached_eq ended⟩

def lateConflict : Engine where
  schema := ⟨"facts", [("A", .int), ("B", .int)], by decide⟩
  rules := [
    { name := "back"
      conditionSet := some ⟨true, [⟨"B", .equal, some ⟨.int, some (.int 2)⟩⟩]⟩
      facts := some [⟨"A", ⟨.int, some (.int 3)⟩⟩] },
    { name := "forth"
      conditionSet := some ⟨true, [⟨"A", .equal, some ⟨.int, some (.int 1)⟩⟩]⟩
      facts := some [⟨"B", ⟨.int, some (.int 2)⟩⟩] }]

/-- The run fails in its second pass, having added one fact in its first. -/
theorem lateConflict_converges :
    ∃ start established new, lateConflict.schema.knownFrom [("A", .int 1)] = .ok start ∧
      (lateConflict.run (some [("A", .int 1)])).2 =
        .error (.error (.establishedFact established new)) ∧
      (lateConflict.rules.run start).rounds.length = 2 ∧
      (lateConflict.rules.run start).rounds.length ≤ lateConflict.rules.length + 1 ∧
      (lateConflict.rules.run start).rounds.length ≤
        (((lateConflict.rules.run start).reached start).ids \ start.ids).card + 2 := by
  have known : lateConflict.schema.knownFrom [("A", .int 1)] =
      .ok [⟨"A", ⟨.int, some (.int 1)⟩⟩] := rfl
  obtain ⟨byRules, byFacts, _⟩ := (run_converges lateConflict [("A", .int 1)]).2 _ known
  exact ⟨_, _, _, known, rfl, rfl, byRules, byFacts⟩

end Engine

end Deduce
