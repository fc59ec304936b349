import Deduce.Proofs.Outcome

/-!
# Conditions in three-valued logic

Conditions are evaluated in order until one settles the whole, by its outcome or by a failure. Where
every condition has an outcome, the whole has that of strong Kleene logic, except that conditions
which have to hold together wait for the facts of all of them before any may fail.
-/

namespace Deduce

namespace Outcome

/-- Strong Kleene conjunction of two outcomes. -/
def conj : Outcome → Outcome → Outcome
  | fails, _ | _, fails => fails
  | holds, holds => holds
  | _, _ => unknown

/-- Strong Kleene disjunction of two outcomes. -/
def disj : Outcome → Outcome → Outcome
  | holds, _ | _, holds => holds
  | fails, fails => fails
  | _, _ => unknown

def conjunction (outcomes : List Outcome) : Outcome := outcomes.foldr conj holds

def disjunction (outcomes : List Outcome) : Outcome := outcomes.foldr disj fails

variable (outcomes : List Outcome)

theorem conjunction_eq :
    conjunction outcomes =
      if fails ∈ outcomes then fails else if unknown ∈ outcomes then unknown else holds := by
  induction outcomes with
  | nil => rfl
  | cons o rest ih =>
    have step : conjunction (o :: rest) = conj o (conjunction rest) := rfl
    rw [step, ih]
    cases o <;> simp only [List.mem_cons, reduceCtorEq, false_or, true_or, if_true] <;>
      split_ifs <;> rfl

theorem disjunction_eq :
    disjunction outcomes =
      if holds ∈ outcomes then holds else if unknown ∈ outcomes then unknown else fails := by
  induction outcomes with
  | nil => rfl
  | cons o rest ih =>
    have step : disjunction (o :: rest) = disj o (disjunction rest) := rfl
    rw [step, ih]
    cases o <;> simp only [List.mem_cons, reduceCtorEq, false_or, true_or, if_true] <;>
      split_ifs <;> rfl

end Outcome

variable {known : Facts} {conditions : List Condition} {outcomes : List Outcome}

theorem outcomeOfAny_of_outcomes
    (each : conditions.map (Condition.outcome known) = outcomes.map .ok) :
    outcomeOfAny known conditions = .ok (Outcome.disjunction outcomes) := by
  induction conditions generalizing outcomes with
  | nil =>
    cases outcomes with
    | nil => rfl
    | cons => cases each
  | cons c rest ih =>
    cases outcomes with
    | nil => cases each
    | cons o others =>
      obtain ⟨answer, each⟩ := List.cons.inj each
      have step : Outcome.disjunction (o :: others) = o.disj (Outcome.disjunction others) := rfl
      simp only [outcomeOfAny, answer, ih each, step]
      cases o <;> cases Outcome.disjunction others <;> rfl

theorem outcomeOfEach_of_outcomes (ready : ∀ c ∈ conditions, c.isWaiting known = false)
    (each : conditions.map (Condition.outcome known) = outcomes.map .ok) :
    outcomeOfEach known conditions = .ok (Outcome.conjunction outcomes) := by
  induction conditions generalizing outcomes with
  | nil =>
    cases outcomes with
    | nil => rfl
    | cons => cases each
  | cons c rest ih =>
    cases outcomes with
    | nil => cases each
    | cons o others =>
      obtain ⟨answer, each⟩ := List.cons.inj each
      have step : Outcome.conjunction (o :: others) = o.conj (Outcome.conjunction others) := rfl
      have tail := ih (fun c member => ready c (List.mem_cons_of_mem _ member)) each
      simp only [outcomeOfEach, answer, tail, step]
      cases o with
      | holds => cases Outcome.conjunction others <;> rfl
      | fails => rfl
      | unknown =>
        exact absurd rfl (Condition.ne_unknown_of_ready (ready c List.mem_cons_self) answer)

theorem mem_outcomes (each : conditions.map (Condition.outcome known) = outcomes.map .ok)
    (o : Outcome) : o ∈ outcomes ↔ ∃ c ∈ conditions, c.outcome known = .ok o := by
  have same : Except.ok o ∈ conditions.map (Condition.outcome known) ↔
      Except.ok o ∈ outcomes.map (Except.ok (ε := Failure)) := by rw [each]
  simpa using same.symm

theorem exists_outcomes (sound : ∀ c ∈ conditions, ¬ c.Faulty known) :
    ∃ outcomes : List Outcome, conditions.map (Condition.outcome known) = outcomes.map .ok := by
  induction conditions with
  | nil => exact ⟨[], rfl⟩
  | cons c rest ih =>
    obtain ⟨others, each⟩ := ih fun c member => sound c (List.mem_cons_of_mem _ member)
    cases answer : c.outcome known with
    | error failure => exact absurd ⟨failure, answer⟩ (sound c List.mem_cons_self)
    | ok o => exact ⟨o :: others, by simp [answer, each]⟩

structure EvaluatesAny (known : Facts) (conditions : List Condition) : Prop where
  failure : ∀ failure, outcomeOfAny known conditions = .error failure ↔
    ∃ c, IsFirst (Condition.EndsAny known) conditions c ∧ c.outcome known = .error failure
  outcome : (∀ failure, outcomeOfAny known conditions ≠ .error failure) →
    outcomeOfAny known conditions = .ok
      (if ∃ c ∈ conditions, c.outcome known = .ok .holds then .holds
      else if ∃ c ∈ conditions, c.outcome known = .ok .unknown then .unknown
      else .fails)

theorem evaluatesAny (known : Facts) (conditions : List Condition) :
    EvaluatesAny known conditions := by
  refine ⟨fun failure => outcomeOfAny_eq_error_iff, fun sound => ?_⟩
  rcases IsFirst.none_or_exists (Condition.EndsAny known) conditions with passed | ⟨c, first⟩
  · have never : ¬ ∃ c ∈ conditions, c.outcome known = .ok .holds := by
      rintro ⟨c, member, holds⟩
      exact passed c member (.inl holds)
    rw [outcomeOfAny_of_none passed, if_neg never]
  · have answer := outcomeOfAny_of_first first
    rcases first.property with holds | ⟨failure, failed⟩
    · rw [if_pos ⟨c, first.mem, holds⟩]
      exact answer.trans holds
    · exact absurd (answer.trans failed) (sound failure)

structure EvaluatesAll (known : Facts) (conditions : List Condition) : Prop where
  unknown : outcomeOfAll known conditions = .ok .unknown ↔ ∃ c ∈ conditions, c.isWaiting known = true
  failure : outcomeOfAll known conditions ≠ .ok .unknown → ∀ failure,
    (outcomeOfAll known conditions = .error failure ↔
      ∃ c, IsFirst (Condition.EndsAll known) conditions c ∧ c.outcome known = .error failure)
  outcome : outcomeOfAll known conditions ≠ .ok .unknown →
    (∀ failure, outcomeOfAll known conditions ≠ .error failure) →
    outcomeOfAll known conditions = .ok
      (if ∀ c ∈ conditions, c.outcome known = .ok .holds then .holds else .fails)

theorem evaluatesAll (known : Facts) (conditions : List Condition) :
    EvaluatesAll known conditions := by
  refine ⟨outcomeOfAll_eq_unknown, fun decided failure => ?_, fun decided sound => ?_⟩
  · exact outcomeOfAll_eq_error_iff (ready_of_ne_unknown decided)
  · rcases IsFirst.none_or_exists (Condition.EndsAll known) conditions with all | ⟨c, first⟩
    · have all' (c : Condition) (member : c ∈ conditions) := not_not.mp (all c member)
      rw [outcomeOfAll_of_all all', if_pos all']
    · have answer := outcomeOfAll_of_first (ready_of_ne_unknown decided) first
      rw [if_neg fun all => first.property (all c first.mem)]
      cases result : c.outcome known with
      | error failure => exact absurd (answer.trans result) (sound failure)
      | ok o =>
        cases o with
        | holds => exact absurd result first.property
        | fails => exact answer.trans result
        | unknown => exact absurd (answer.trans result) decided

structure FollowsLogic (known : Facts) (conditions : List Condition) (outcomes : List Outcome) :
    Prop where
  each : conditions.map (Condition.outcome known) = outcomes.map .ok
  any : outcomeOfAny known conditions = .ok (Outcome.disjunction outcomes)
  all : ∀ o, outcomeOfAll known conditions = .ok o → o ≠ .unknown →
    o = Outcome.conjunction outcomes
  /-- A condition that fails does not decide before the facts of all are known. -/
  differ : outcomeOfAll known conditions ≠ .ok (Outcome.conjunction outcomes) ↔
    (∃ c ∈ conditions, c.outcome known = .ok .fails) ∧ ∃ c ∈ conditions, c.isWaiting known = true
  /-- Neither the order of the conditions nor their number matters. -/
  members : ∀ others : List Condition, (∀ c, c ∈ others ↔ c ∈ conditions) →
    outcomeOfAll known others = outcomeOfAll known conditions ∧
      outcomeOfAny known others = outcomeOfAny known conditions

theorem outcomeOfAll_of_outcomes (decided : outcomeOfAll known conditions ≠ .ok .unknown)
    (each : conditions.map (Condition.outcome known) = outcomes.map .ok) :
    outcomeOfAll known conditions = .ok (Outcome.conjunction outcomes) := by
  have ready := ready_of_ne_unknown decided
  exact (outcomeOfAll_of_ready ready).trans (outcomeOfEach_of_outcomes ready each)

theorem outcomeOfAll_eq (each : conditions.map (Condition.outcome known) = outcomes.map .ok) :
    outcomeOfAll known conditions =
      if .unknown ∈ outcomes then .ok .unknown else .ok (Outcome.conjunction outcomes) := by
  have waits : .unknown ∈ outcomes ↔ outcomeOfAll known conditions = .ok .unknown := by
    simp only [mem_outcomes each, outcomeOfAll_eq_unknown, Condition.outcome_eq_unknown]
  by_cases unknown : outcomeOfAll known conditions = .ok .unknown
  · rw [if_pos (waits.mpr unknown)]
    exact unknown
  · rw [if_neg fun member => unknown (waits.mp member)]
    exact outcomeOfAll_of_outcomes unknown each

theorem followsLogic (sound : ∀ c ∈ conditions, ¬ c.Faulty known) :
    ∃ outcomes, FollowsLogic known conditions outcomes := by
  obtain ⟨outcomes, each⟩ := exists_outcomes sound
  have listed := mem_outcomes each
  refine ⟨outcomes, each, outcomeOfAny_of_outcomes each, ?_, ?_, ?_⟩
  · intro o answered decided
    have same := outcomeOfAll_of_outcomes (by simpa [answered] using decided) each
    rw [answered, Except.ok.injEq] at same
    exact same
  · simp only [← Condition.outcome_eq_unknown, ← listed, outcomeOfAll_eq each,
      Outcome.conjunction_eq]
    by_cases fails : Outcome.fails ∈ outcomes <;> by_cases waits : Outcome.unknown ∈ outcomes <;>
      simp [fails, waits]
  · intro others same
    obtain ⟨outcomes', each'⟩ :=
      exists_outcomes fun c member => sound c ((same c).mp member)
    have listed' (o : Outcome) : o ∈ outcomes' ↔ o ∈ outcomes := by
      simp only [mem_outcomes each', listed, same]
    constructor
    · simp only [outcomeOfAll_eq each, outcomeOfAll_eq each', Outcome.conjunction_eq, listed']
    · simp only [outcomeOfAny_of_outcomes each, outcomeOfAny_of_outcomes each',
        Outcome.disjunction_eq, listed']

structure ThreeValued (known : Facts) (conditions : List Condition) : Prop where
  any : EvaluatesAny known conditions
  all : EvaluatesAll known conditions
  logic : (∀ c ∈ conditions, ¬ c.Faulty known) →
    ∃ outcomes, FollowsLogic known conditions outcomes

theorem conditions_threeValued (known : Facts) (conditions : List Condition) :
    ThreeValued known conditions :=
  ⟨evaluatesAny known conditions, evaluatesAll known conditions, followsLogic⟩

/-- One condition fails, but the conditions together are unknown while the fact of another is. -/
theorem failingBesideMissing_threeValued :
    ∃ outcomes, FollowsLogic [⟨"age", ⟨.int, some (.int 12)⟩⟩]
      [⟨"age", .greaterOrEqual, some ⟨.int, some (.int 18)⟩⟩,
        ⟨"name", .equal, some ⟨.string, some (.string "A")⟩⟩, ⟨"name", .notDefined, none⟩]
      outcomes ∧ outcomes = [.fails, .unknown, .holds] := by
  obtain ⟨outcomes, logic⟩ := (conditions_threeValued [⟨"age", ⟨.int, some (.int 12)⟩⟩]
    [⟨"age", .greaterOrEqual, some ⟨.int, some (.int 18)⟩⟩,
      ⟨"name", .equal, some ⟨.string, some (.string "A")⟩⟩, ⟨"name", .notDefined, none⟩]).logic
    (by
      simp only [List.forall_mem_cons]
      refine ⟨?_, ?_, ?_, by simp⟩ <;> rintro ⟨failure, failed⟩ <;> cases failed)
  have injective : Function.Injective (List.map (Except.ok (ε := Failure) (α := Outcome))) :=
    List.map_injective_iff.mpr fun _ _ => Except.ok.inj
  exact ⟨outcomes, logic, injective (logic.each.symm.trans rfl)⟩

end Deduce
