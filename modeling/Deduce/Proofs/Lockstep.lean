import Deduce.Proofs.Results
import Deduce.Proofs.Run

/-!
# Runs in lockstep

Rules do not tell facts apart that mean the same. In the final phase two runs that know the same and
have the same final rules left in one order therefore go on together pass by pass, whatever other
rules they have left behind.
-/

namespace Deduce

inductive Matched {α : Type} (related : α → α → Prop) :
    Except Failure α → Except Failure α → Prop where
  | failed {failure failure'} : Matched related (.error failure) (.error failure')
  | ok {a a'} : related a a' → Matched related (.ok a) (.ok a')

variable {schema : Schema} {known more : Facts}

namespace Facts

/-- What the known facts mean, without the form in which their values are kept. -/
def meaning (known : Facts) (id : String) : Option (ScalarType × Option Quantity) :=
  (known.find? id).map fun fact => fact.value.meaning

theorem has_eq_isSome (known : Facts) (id : String) : known.has id = (known.meaning id).isSome := by
  simp [has, meaning]

theorem meaning_learnAll (known : Facts) (facts : List Fact) (id : String) :
    (known.learnAll facts).meaning id = (known.meaning id).or (meaning facts id) := by
  simp only [meaning, find?_learnAll, Option.map_or]

theorem meaning_learnAll_congr (same : known.meaning = more.meaning) (facts : List Fact) :
    (known.learnAll facts).meaning = (more.learnAll facts).meaning := by
  funext id
  rw [meaning_learnAll, meaning_learnAll, same]

theorem find?_of_meaning (same : known.meaning = more.meaning) (id : String) :
    (known.find? id = none ∧ more.find? id = none) ∨ ∃ fact other,
      known.find? id = some fact ∧ more.find? id = some other ∧ other.value.Agrees fact.value := by
  have meanings := congrFun same id
  simp only [meaning] at meanings
  cases found : known.find? id with
  | none =>
    rw [found, Option.map_none, eq_comm, Option.map_eq_none_iff] at meanings
    exact .inl ⟨rfl, meanings⟩
  | some fact =>
    rw [found, Option.map_some, eq_comm, Option.map_eq_some_iff] at meanings
    obtain ⟨other, present, equal⟩ := meanings
    exact .inr ⟨fact, other, rfl, present, Value.agrees_iff.mpr equal⟩

theorem Within.antisymm (typed : known.WellTyped schema) (typed' : more.WellTyped schema)
    (h : known.Within more) (h' : more.Within known) : known.meaning = more.meaning := by
  rw [within_iff typed typed'] at h
  rw [within_iff typed' typed] at h'
  funext id
  cases found : known.find? id with
  | some fact =>
    obtain ⟨other, present, agrees⟩ := h id fact found
    simp only [meaning, found, present, Option.map_some, Value.agrees_iff.mp agrees]
  | none =>
    cases present : more.find? id with
    | none => simp only [meaning, found, present]
    | some other =>
      obtain ⟨fact, found', _⟩ := h' id other present
      rw [found] at found'
      cases found'

/-- What is added to facts that mean the same is the same in number. -/
theorem establish_matched {facts : List Fact} (typed : known.WellTyped schema)
    (typed' : more.WellTyped schema) (new : WellTyped schema facts)
    (same : known.meaning = more.meaning) :
    Matched (fun all all' => all.2 = all'.2) (known.establish facts) (more.establish facts) := by
  induction facts generalizing known more with
  | nil => exact .ok rfl
  | cons fact rest ih =>
    have admitted := new fact List.mem_cons_self
    have rest' := new.tail
    unfold establish
    rcases find?_of_meaning same fact.id with ⟨absent, absent'⟩ | ⟨old, old', found, found', agrees⟩
    · rw [absent, absent']
      have learned : (known ++ [fact]).meaning = (more ++ [fact]).meaning := by
        have step := meaning_learnAll_congr same [fact]
        simpa [learnAll, learn, has, absent, absent'] using step
      have tail := ih (typed.append (.singleton admitted)) (typed'.append (.singleton admitted))
        rest' learned
      simp only
      cases first : establish (known ++ [fact]) rest <;>
        cases second : establish (more ++ [fact]) rest <;> rw [first, second] at tail <;> cases tail
      · exact .failed
      · rename_i counts
        exact .ok (congrArg (· + 1) counts)
    · rw [found, found']
      have left := (typed.find found).2
      have right := (typed'.find found').2
      have types := Option.some.inj (left.declared.symm.trans admitted.declared)
      have compared := Value.compare_congr left.isTyped right.isTyped admitted.isTyped
        admitted.isTyped types agrees.symm (.refl fact.value) .equal
      simp only
      rw [← compared]
      split
      · exact .failed
      · exact ih typed typed' rest' same
      · exact .failed

end Facts

theorem Condition.outcome_eq_of_meaning {c : Condition} (wellTyped : c.WellTyped schema)
    (typed : known.WellTyped schema) (typed' : more.WellTyped schema)
    (same : known.meaning = more.meaning) : c.outcome known = c.outcome more := by
  rcases Facts.find?_of_meaning same c.id with ⟨absent, absent'⟩ | ⟨_, _, found, found', agrees⟩
  · exact outcome_eq_of_find? (absent.trans absent'.symm)
  · have admitted := (typed.find found).2
    have admitted' := (typed'.find found').2
    exact outcome_eq_of_agrees wellTyped admitted.declared admitted.isTyped admitted'.isTyped found
      found' agrees

theorem Rule.outcome_eq_of_meaning {rule : Rule} (wellTyped : rule.WellTyped schema)
    (typed : known.WellTyped schema) (typed' : more.WellTyped schema)
    (same : known.meaning = more.meaning) : rule.outcome known = rule.outcome more := by
  apply outcome_congr
  · intro c member
    exact Condition.outcome_eq_of_meaning (wellTyped.conditions c member) typed typed' same
  · intro c _
    rw [Facts.has_eq_isSome, Facts.has_eq_isSome, same]

namespace Pass

theorem ofRules_eq_of_meaning {isFinal : Bool} {rules : RuleTable}
    (wellTyped : rules.WellTyped schema) (typed : known.WellTyped schema)
    (typed' : more.WellTyped schema) (same : known.meaning = more.meaning) :
    (ofRules isFinal known rules).result = (ofRules isFinal more rules).result := by
  induction rules generalizing known more with
  | nil => rfl
  | cons rule rest ih =>
    have ruleTyped := wellTyped rule List.mem_cons_self
    have restTyped := wellTyped.subset (List.subset_cons_self rule rest)
    have answers := Rule.outcome_eq_of_meaning ruleTyped typed typed' same
    have tail := ih restTyped typed typed' same
    have tail' := ih restTyped (typed.learnAll ruleTyped.asserted)
      (typed'.learnAll ruleTyped.asserted) (Facts.meaning_learnAll_congr same rule.asserted)
    simp only [ofRules, answers]
    split
    · rw [tail]
    · cases rule.outcome more with
      | error failure => rfl
      | ok o => cases o <;> simp only [result_after, tail, tail']

theorem ofRules_finals (known : Facts) (rules : RuleTable) :
    (ofRules true known (rules.filter (·.isFinal))).result =
      (ofRules true known rules).result.map fun result =>
        { result with remaining := result.remaining.filter (·.isFinal) } := by
  simpa only [beq_true] using congrArg Pass.result (ofRules_inPhase true known rules)

end Pass

/-- The states know the same, have triggered the same, and leave the same final rules in one order.
Other rules are left in both or in neither. -/
structure State.Alike (schema : Schema) (s s' : State) : Prop where
  typed : s.WellTyped schema
  typed' : s'.WellTyped schema
  known : s.known.meaning = s'.known.meaning
  finals : s.remaining.filter (·.isFinal) = s'.remaining.filter (·.isFinal)
  others : s.remaining.filter (!·.isFinal) = [] ↔ s'.remaining.filter (!·.isFinal) = []
  actions : ∀ action, action ∈ s.actions ↔ action ∈ s'.actions
  distinct : s.actions.Nodup
  distinct' : s'.actions.Nodup

namespace State

variable {s s' : State}

theorem Alike.remaining_eq_nil (alike : s.Alike schema s') :
    s.remaining = [] ↔ s'.remaining = [] := by
  have split (rules : RuleTable) :
      rules = [] ↔ rules.filter (·.isFinal) = [] ∧ rules.filter (!·.isFinal) = [] := by
    constructor
    · rintro rfl
      exact ⟨rfl, rfl⟩
    · rintro ⟨finals, others⟩
      rw [List.filter_eq_nil_iff] at finals others
      rw [List.eq_nil_iff_forall_not_mem]
      intro rule member
      exact others rule member (by simpa using finals rule member)
  rw [split s.remaining, split s'.remaining, alike.finals, alike.others]

theorem Alike.isDone (alike : s.Alike schema s') (phase : s.isFinal = s'.isFinal) (added : Nat) :
    s.isDone added = s'.isDone added := by
  have none : s.remaining.isEmpty = s'.remaining.isEmpty := by
    rw [Bool.eq_iff_iff, List.isEmpty_iff, List.isEmpty_iff]
    exact alike.remaining_eq_nil
  simp only [State.isDone, none, phase]

theorem Alike.inPhase (alike : s.Alike schema s') (isFinal isFinal' : Bool) :
    State.Alike schema { s with isFinal := isFinal } { s' with isFinal := isFinal' } :=
  ⟨alike.typed.inPhase isFinal, alike.typed'.inPhase isFinal', alike.known, alike.finals,
    alike.others, alike.actions, alike.distinct, alike.distinct'⟩

/-- In the final phase a pass has one result, up to the other rules that remain. -/
theorem Alike.pass (alike : s.Alike schema s') (final : s.isFinal = true)
    (final' : s'.isFinal = true) :
    Matched (fun result result' => result.facts = result'.facts ∧ result.actions = result'.actions ∧
      result.remaining.filter (·.isFinal) = result'.remaining.filter (·.isFinal))
      s.pass.result s'.pass.result := by
  have same : (Pass.ofRules true s.known (s.remaining.filter (·.isFinal))).result =
      (Pass.ofRules true s'.known (s'.remaining.filter (·.isFinal))).result := by
    rw [alike.finals]
    exact Pass.ofRules_eq_of_meaning
      (alike.typed'.remaining.subset (List.filter_subset_self _)) alike.typed.known
      alike.typed'.known alike.known
  rw [Pass.ofRules_finals, Pass.ofRules_finals] at same
  simp only [State.pass, final, final']
  cases first : (Pass.ofRules true s.known s.remaining).result <;>
    cases second : (Pass.ofRules true s'.known s'.remaining).result <;>
    simp only [first, second, Except.map, reduceCtorEq, Except.ok.injEq,
      PassResult.mk.injEq] at same
  · exact .failed
  · exact .ok same

theorem others_after {p : Progress} (final : s.isFinal = true) (h : s.progress = .ok p) :
    p.result.remaining.filter (!·.isFinal) = s.remaining.filter (!·.isFinal) := by
  have swept := (progress_eq_ok h).1
  apply swept.remaining_filter
  intro e member _
  simp [(swept.evaluated member).2.1, final]

theorem Alike.after (alike : s.Alike schema s') (final : s.isFinal = true)
    (final' : s'.isFinal = true) {p p' : Progress} (h : s.progress = .ok p)
    (h' : s'.progress = .ok p') (facts : p.result.facts = p'.result.facts)
    (actions : p.result.actions = p'.result.actions)
    (finals : p.result.remaining.filter (·.isFinal) = p'.result.remaining.filter (·.isFinal)) :
    (s.after p).Alike schema (s'.after p') := by
  constructor
  case typed => exact alike.typed.after h
  case typed' => exact alike.typed'.after h'
  case known =>
    simp only [State.after]
    rw [known_eq_of_progress h, known_eq_of_progress h', ← facts]
    exact Facts.meaning_learnAll_congr alike.known p.result.facts
  case finals => exact finals
  case others =>
    simp only [State.after]
    rw [others_after final h, others_after final' h']
    exact alike.others
  case actions =>
    intro action
    simp only [State.after, mem_collect, alike.actions action, actions]
  case distinct => exact nodup_collect alike.distinct
  case distinct' => exact nodup_collect alike.distinct'

theorem Alike.progress (alike : s.Alike schema s') (final : s.isFinal = true)
    (final' : s'.isFinal = true) :
    Matched (fun p p' => p.added = p'.added ∧ (s.after p).Alike schema (s'.after p'))
      s.progress s'.progress := by
  have passes := alike.pass final final'
  cases first : s.pass.result <;> cases second : s'.pass.result <;>
    rw [first, second] at passes <;> cases passes
  · simp only [State.progress, first, second]
    exact .failed
  · rename_i result result' same
    obtain ⟨facts, actions, finals⟩ := same
    have new := alike.typed.produced (Pass.ofRules_sweep first)
    have counts := Facts.establish_matched alike.typed.known alike.typed'.known new alike.known
    cases third : s.known.establish result.facts <;>
      cases fourth : s'.known.establish result.facts <;>
      rw [third, fourth] at counts <;> cases counts
    · simp only [State.progress, first, second, ← facts, third, fourth, Except.map]
      exact .failed
    · rename_i added
      have progressed := progress_of_pass first third
      have progressed' := progress_of_pass second (facts ▸ fourth)
      rw [progressed, progressed']
      exact .ok ⟨added, alike.after final final' progressed progressed' facts actions finals⟩

end State

/-- In the final phase runs from states that are alike end alike. -/
theorem Course.matched {s s' : State} {run run' : Run} (course : Course s run)
    (course' : Course s' run') (alike : s.Alike schema s') (final : s.isFinal = true)
    (final' : s'.isFinal = true) : Matched (State.Alike schema) run.outcome run'.outcome := by
  induction course generalizing s' run' with
  | failed progressed =>
    have step := alike.progress final final'
    cases course' with
    | failed => exact .failed
    | ended progressed' | continued progressed' =>
      rw [progressed, progressed'] at step
      cases step
  | @ended s p progressed done =>
    have step := alike.progress final final'
    rw [progressed] at step
    cases course' with
    | failed progressed' =>
      rw [progressed'] at step
      cases step
    | ended progressed' =>
      rw [progressed'] at step
      cases step with
      | ok related => exact .ok related.2
    | continued progressed' unfinished =>
      rw [progressed'] at step
      cases step with
      | ok related =>
        rw [related.2.isDone (final.trans final'.symm), related.1, unfinished] at done
        cases done
  | @continued s p run progressed unfinished course ih =>
    have step := alike.progress final final'
    rw [progressed] at step
    cases course' with
    | failed progressed' =>
      rw [progressed'] at step
      cases step
    | ended progressed' done =>
      rw [progressed'] at step
      cases step with
      | ok related =>
        rw [related.2.isDone (final.trans final'.symm), related.1, done] at unfinished
        cases unfinished
    | continued progressed' unfinished' course' =>
      rw [progressed'] at step
      cases step with
      | ok related =>
        apply ih course' (related.2.inPhase _ _)
        · simp [State.advance, State.after, final]
        · simp [State.advance, State.after, final']

end Deduce
