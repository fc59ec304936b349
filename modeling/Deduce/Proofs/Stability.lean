import Deduce.Proofs.Outcome

/-!
# Outcomes on extended facts

What known facts decide without presence checks stays decided when others become known. There is one
way in which it can get lost: alternatives of which one holds may meet a failure in front of it, at a
comparison whose fact was missing.
-/

namespace Deduce

variable {known more : Facts} {conditions : List Condition} {c : Condition}

namespace Condition

theorem has_of_ready (compares : c.operator.isPresenceCheck = false)
    (ready : c.isWaiting known = false) : known.has c.id = true := by
  simpa [isWaiting, compares] using ready

theorem has_of_unknown (unknown : c.outcome known = .ok .unknown) : known.has c.id = false := by
  have waits := outcome_eq_unknown.mp unknown
  simp only [isWaiting, Bool.and_eq_true, Bool.not_eq_true'] at waits
  exact waits.2

theorem outcome_eq_of_ready (compares : c.operator.isPresenceCheck = false)
    (grown : known.Submap more) (ready : c.isWaiting known = false) :
    c.outcome known = c.outcome more := by
  obtain ⟨fact, found⟩ := Option.isSome_iff_exists.mp (has_of_ready compares ready)
  apply outcome_eq_of_find?
  rw [found, grown c.id fact found]

theorem outcome_eq_of_ne_unknown (compares : c.operator.isPresenceCheck = false)
    (grown : known.Submap more) (decided : c.outcome known ≠ .ok .unknown) :
    c.outcome known = c.outcome more := by
  rw [ne_eq, outcome_eq_unknown, Bool.not_eq_true] at decided
  exact outcome_eq_of_ready compares grown decided

theorem EndsAny.ne_unknown (ends : c.EndsAny known) : c.outcome known ≠ .ok .unknown := by
  rcases ends with holds | ⟨failure, failed⟩
  · simp [holds]
  · simp [failed]

theorem EndsAny.of_submap (compares : c.operator.isPresenceCheck = false)
    (grown : known.Submap more) (ends : c.EndsAny known) : c.EndsAny more := by
  have same := outcome_eq_of_ne_unknown compares grown ends.ne_unknown
  rwa [EndsAny, Faulty, same] at ends

end Condition

section Conditions

variable (compares : ∀ c ∈ conditions, c.operator.isPresenceCheck = false)
  (grown : known.Submap more)

include compares grown

theorem outcomeOfAll_of_submap (decided : outcomeOfAll known conditions ≠ .ok .unknown) :
    outcomeOfAll more conditions = outcomeOfAll known conditions := by
  have ready := ready_of_ne_unknown decided
  symm
  apply outcomeOfAll_congr
  · intro c member
    exact Condition.outcome_eq_of_ready (compares c member) grown (ready c member)
  · intro c member
    have present := Condition.has_of_ready (compares c member) (ready c member)
    rw [present, grown.has present]

/-- Where an alternative holds, the first to end the evaluation on more facts holds there, or fails to
evaluate and its fact was missing. -/
theorem exists_first_of_submap (first : IsFirst (Condition.EndsAny known) conditions c)
    (holds : c.outcome known = .ok .holds) :
    ∃ c', IsFirst (Condition.EndsAny more) conditions c' ∧
      (c'.outcome more = .ok .holds ∨ known.has c'.id = false ∧ c'.Faulty more) := by
  induction conditions with
  | nil => cases first.mem
  | cons head rest ih =>
    have same := Condition.outcome_eq_of_ne_unknown (compares head List.mem_cons_self) grown
    rcases first.of_cons with ⟨_, rfl⟩ | ⟨passed, later⟩
    · have holds' : c.outcome more = .ok .holds := by rw [← same (by simp [holds]), holds]
      exact ⟨c, .head (.inl holds') rest, .inl holds'⟩
    -- a head that was passed may end the evaluation now, but only if its fact was missing
    · by_cases ends : head.EndsAny more
      · refine ⟨head, .head ends rest, ends.imp_right fun faulty => ⟨?_, faulty⟩⟩
        apply Condition.has_of_unknown
        by_contra decided
        obtain ⟨failure, failed⟩ := faulty
        exact passed (.inr ⟨failure, (same decided).trans failed⟩)
      · obtain ⟨c', first', rest'⟩ := ih (fun c member => compares c (List.mem_cons_of_mem _ member))
          later
        exact ⟨c', .cons ends first', rest'⟩

theorem outcomeOfAny_fails_of_submap (fails : outcomeOfAny known conditions = .ok .fails) :
    outcomeOfAny more conditions = .ok .fails := by
  rw [outcomeOfAny_eq_fails] at fails ⊢
  intro c member
  have now := fails c member
  rw [← Condition.outcome_eq_of_ne_unknown (compares c member) grown (by simp [now]), now]

theorem outcomeOfAny_holds_of_submap (holds : outcomeOfAny known conditions = .ok .holds) :
    outcomeOfAny more conditions = .ok .holds ∨
      ∃ c, IsFirst (Condition.EndsAny more) conditions c ∧ known.has c.id = false ∧
        c.Faulty more := by
  rcases IsFirst.none_or_exists (Condition.EndsAny known) conditions with passed | ⟨c, first⟩
  · rw [outcomeOfAny_of_none passed] at holds
    split_ifs at holds <;> cases holds
  · rw [outcomeOfAny_of_first first] at holds
    obtain ⟨c', first', holds' | missed⟩ := exists_first_of_submap compares grown first holds
    · exact .inl ((outcomeOfAny_of_first first').trans holds')
    · exact .inr ⟨c', first', missed⟩

theorem outcomeOfAny_unknown_of_submap (unknown : outcomeOfAny more conditions = .ok .unknown) :
    outcomeOfAny known conditions = .ok .unknown := by
  rw [outcomeOfAny_eq_unknown] at unknown ⊢
  obtain ⟨passed, c, member, waits⟩ := unknown
  refine ⟨fun c member ends => ?_, c, member, ?_⟩
  · exact passed c member (ends.of_submap (compares c member) grown)
  · by_contra decided
    have same := Condition.outcome_eq_of_ne_unknown (compares c member) grown decided
    exact decided (same.trans waits)

end Conditions

namespace Rule

structure Stable (rule : Rule) (known more : Facts) : Prop where
  decided : ∀ o, rule.outcome known = .ok o → o ≠ .unknown →
    rule.outcome more = .ok o ∨ ∃ failure, rule.outcome more = .error failure
  all : (∀ set, rule.conditionSet = some set → set.isAnd = true) →
    rule.outcome known ≠ .ok .unknown → rule.outcome more = rule.outcome known
  fails : rule.outcome known = .ok .fails → rule.outcome more = .ok .fails
  /-- The first alternative that ends the evaluation is to blame for a failure. -/
  holds : ∀ set, rule.conditionSet = some set → set.isAnd = false →
    rule.outcome known = .ok .holds → ∀ failure, rule.outcome more = .error failure →
      ∃ c inner, IsFirst (Condition.EndsAny more) set.conditions c ∧ known.has c.id = false ∧
        c.outcome more = .error inner ∧ failure = inner.within (.rule rule.name)
  unknown : rule.outcome more = .ok .unknown → rule.outcome known = .ok .unknown

variable {rule : Rule} {set : ConditionSet}

theorem outcome_of_all (conditions : rule.conditionSet = some set) (isAnd : set.isAnd = true)
    (known : Facts) :
    rule.outcome known = atPlace (.rule rule.name) (outcomeOfAll known set.conditions) := by
  simp only [outcome, conditions, ConditionSet.outcome, isAnd, if_true]

theorem outcome_of_any (conditions : rule.conditionSet = some set) (isOr : set.isAnd = false)
    (known : Facts) :
    rule.outcome known = atPlace (.rule rule.name) (outcomeOfAny known set.conditions) := by
  simp only [outcome, conditions, ConditionSet.outcome, isOr, Bool.false_eq_true, if_false]

theorem Stable.of_eq (isAnd : ∀ set, rule.conditionSet = some set → set.isAnd = true)
    (same : rule.outcome known ≠ .ok .unknown → rule.outcome more = rule.outcome known) :
    rule.Stable known more := by
  constructor
  case decided =>
    intro o answered decided
    rw [answered, ne_eq, Except.ok.injEq] at same
    exact .inl (same decided)
  case all => exact fun _ => same
  case fails =>
    intro fails
    rw [same (by simp [fails]), fails]
  case holds =>
    intro set conditions isOr
    rw [isAnd set conditions] at isOr
    cases isOr
  case unknown =>
    intro unknown
    by_contra decided
    exact decided ((same decided).symm.trans unknown)

theorem Stable.of_any (conditions : rule.conditionSet = some set) (isOr : set.isAnd = false)
    (compares : ∀ c ∈ set.conditions, c.operator.isPresenceCheck = false)
    (grown : known.Submap more) : rule.Stable known more := by
  have within (known : Facts) := outcome_of_any conditions isOr known
  have fails : rule.outcome known = .ok .fails → rule.outcome more = .ok .fails := by
    rw [within, within, atPlace_eq_ok, atPlace_eq_ok]
    exact outcomeOfAny_fails_of_submap compares grown
  have holds (held : rule.outcome known = .ok .holds) : rule.outcome more = .ok .holds ∨
      ∃ c, IsFirst (Condition.EndsAny more) set.conditions c ∧ known.has c.id = false ∧
        c.Faulty more := by
    rw [within, atPlace_eq_ok] at held ⊢
    exact outcomeOfAny_holds_of_submap compares grown held
  constructor
  case decided =>
    intro o answered decided
    cases o with
    | holds =>
      refine (holds answered).imp_right ?_
      rintro ⟨c, first, _, inner, failed⟩
      refine ⟨inner.within (.rule rule.name), ?_⟩
      rw [within, outcomeOfAny_of_first first, failed]
      rfl
    | fails => exact .inl (fails answered)
    | unknown => exact absurd rfl decided
  case all =>
    intro isAnd
    rw [isAnd set conditions] at isOr
    cases isOr
  case fails => exact fails
  case holds =>
    intro set' said _ held failure failed
    cases conditions.symm.trans said
    rcases holds held with held' | ⟨c, first, missing, inner, blamed⟩
    · rw [failed] at held'
      cases held'
    · refine ⟨c, inner, first, missing, blamed, ?_⟩
      rw [within, outcomeOfAny_of_first first, blamed] at failed
      cases failed
      rfl
  case unknown =>
    rw [within, within, atPlace_eq_ok, atPlace_eq_ok]
    exact outcomeOfAny_unknown_of_submap compares grown

/-- Facts that become known do not change what a rule without presence checks has decided. -/
theorem outcome_stable (compares : ∀ c ∈ rule.conditions, c.operator.isPresenceCheck = false)
    (grown : known.Submap more) : rule.Stable known more := by
  cases conditions : rule.conditionSet with
  | none =>
    apply Stable.of_eq
    · simp [conditions]
    · simp [outcome, conditions]
  | some set =>
    simp only [Rule.conditions, conditions] at compares
    cases isAnd : set.isAnd with
    | true =>
      apply Stable.of_eq
      · simpa [conditions] using isAnd
      · rw [outcome_of_all conditions isAnd, outcome_of_all conditions isAnd, ne_eq, atPlace_eq_ok]
        exact fun decided => by rw [outcomeOfAll_of_submap compares grown decided]
    | false => exact Stable.of_any conditions isAnd compares grown

/-- One alternative holds, and the one in front of it cannot be evaluated on its fact. -/
def lateFault : Rule where
  name := "late fault"
  conditionSet := some ⟨false, [⟨"name", .lessThan, some ⟨.string, some (.string "B")⟩⟩,
    ⟨"age", .equal, some ⟨.int, some (.int 40)⟩⟩]⟩

theorem lateFault_stable :
    let known : Facts := [⟨"age", ⟨.int, some (.int 40)⟩⟩]
    let more := known.learnAll [⟨"name", ⟨.string, some (.string "A")⟩⟩]
    lateFault.outcome known = .ok .holds ∧
      (∃ failure, lateFault.outcome more = .error failure) ∧ lateFault.Stable known more :=
  ⟨rfl, ⟨_, rfl⟩, outcome_stable (by decide) (Facts.submap_learnAll _ _)⟩

end Rule

end Deduce
