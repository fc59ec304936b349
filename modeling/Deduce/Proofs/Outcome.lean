import Deduce.Proofs.Facts

/-!
# Outcomes on growing facts

An outcome depends only on the facts that the conditions name, and of these only on what their values
stand for. The outcome of a rule without presence checks, once it is decided, stays the same however
many facts become known.
-/

namespace Deduce

variable {schema : Schema} {known more : Facts}

namespace Condition

theorem outcome_of_not_presence {c : Condition} (compares : c.operator.isPresenceCheck = false)
    (known : Facts) :
    c.outcome known =
      match known.find? c.id with
      | none => .ok .unknown
      | some fact =>
        match c.value with
        | none => .error (.error (.noConditionValue c))
        | some value =>
          ((fact.value.compare c.operator value).mapError (Failure.evaluating c)).map
            Outcome.ofBool := by
  obtain ⟨id, op, value⟩ := c
  cases op <;> first | rfl | cases compares

theorem outcome_comparison {id : String} {op : Operator} (comparison : op.isComparison = true)
    (known : Facts) (value : Value) :
    outcome known ⟨id, op, some value⟩ =
      match known.find? id with
      | none => .ok .unknown
      | some fact =>
        ((fact.value.compare op value).mapError (Failure.evaluating ⟨id, op, some value⟩)).map
          Outcome.ofBool :=
  outcome_of_not_presence (Operator.isPresenceCheck_eq_false comparison) known

theorem outcome_isDefined {c : Condition} (h : c.operator = .isDefined) (known : Facts) :
    c.outcome known = .ok (.ofBool (known.has c.id)) := by
  simp [outcome, h, Facts.has]

theorem outcome_notDefined {c : Condition} (h : c.operator = .notDefined) (known : Facts) :
    c.outcome known = .ok (.ofBool (!known.has c.id)) := by
  simp [outcome, h, Facts.has]

theorem exists_outcome_presence {c : Condition} (presence : c.operator.isPresenceCheck = true)
    (known : Facts) : ∃ holds, c.outcome known = .ok (.ofBool holds) := by
  rcases Operator.isPresenceCheck_iff.mp presence with defined | undefined
  · exact ⟨_, outcome_isDefined defined known⟩
  · exact ⟨_, outcome_notDefined undefined known⟩

/-- A presence check depends on nothing but whether its fact is known. -/
theorem outcome_eq_of_has {c : Condition} (presence : c.operator.isPresenceCheck = true)
    (same : known.has c.id = more.has c.id) : c.outcome known = c.outcome more := by
  rcases Operator.isPresenceCheck_iff.mp presence with defined | undefined
  · rw [outcome_isDefined defined, outcome_isDefined defined, same]
  · rw [outcome_notDefined undefined, outcome_notDefined undefined, same]

theorem outcome_eq_of_find? {c : Condition} (same : known.find? c.id = more.find? c.id) :
    c.outcome known = c.outcome more := by
  unfold outcome
  rw [same]

theorem outcome_eq_of_agrees {c : Condition} (wellTyped : c.WellTyped schema) {fact other : Fact}
    (declared : schema.get? c.id = some fact.value.type) (typed : fact.value.IsTyped)
    (typed' : other.value.IsTyped) (found : known.find? c.id = some fact)
    (found' : more.find? c.id = some other) (agrees : other.value.Agrees fact.value) :
    c.outcome known = c.outcome more := by
  cases wellTyped with
  | presence presence _ =>
    apply outcome_eq_of_has presence
    rw [Facts.has_of_find? found, Facts.has_of_find? found']
  | comparison comparison admitted =>
    have types := Option.some.inj (declared.symm.trans admitted.declared)
    rw [outcome_comparison comparison, outcome_comparison comparison]
    simp only at found found'
    rw [found, found']
    simp only
    rw [Value.compare_congr typed typed' admitted.isTyped admitted.isTyped types agrees.symm
      (.refl _)]

/-- A well-typed condition fails only on an operator that its type does not support. -/
theorem outcome_eq_error {c : Condition} (wellTyped : c.WellTyped schema)
    (typed : known.WellTyped schema) {failure : Failure} (h : c.outcome known = .error failure) :
    ∃ type, schema.get? c.id = some type ∧ c.operator.isComparison = true ∧
      type.supports c.operator = false ∧
      failure = .error ((Error.unsupportedOperation type c.operator).within (.condition c)) := by
  cases wellTyped with
  | @presence id op type presence declared =>
    obtain ⟨holds, answered⟩ := exists_outcome_presence (c := ⟨id, op, none⟩) presence known
    rw [answered] at h
    cases h
  | @comparison id op value comparison admitted =>
    rw [outcome_comparison comparison] at h
    split at h
    · cases h
    · rename_i fact found
      obtain ⟨inner, failed, same⟩ := mapError_eq_error.mp (map_eq_error.mp h)
      have left := (typed.find found).2
      have types := Option.some.inj (left.declared.symm.trans admitted.declared)
      cases supported : fact.value.supports op with
      | true =>
        obtain ⟨order, _, compared⟩ := Value.exists_compare left.isTyped admitted.isTyped types
        rw [compared op supported] at failed
        cases failed
      | false =>
        rw [Value.compare_of_not_supports supported] at failed
        cases failed
        have writable := admitted.wellFormed.isWritable fun int => by
          rw [Value.supports, types, int, ScalarType.supports, comparison] at supported
          cases supported
        refine ⟨fact.value.type, left.declared, comparison, supported, same.symm.trans ?_⟩
        exact Failure.quoting_of_writable _ (by simpa using writable)

theorem exists_outcome {c : Condition} (wellTyped : c.WellTyped schema)
    (typed : known.WellTyped schema)
    (supported : c.operator.isComparison = true →
      ∀ type, schema.get? c.id = some type → type.supports c.operator = true) :
    ∃ o, c.outcome known = .ok o := by
  cases result : c.outcome known with
  | ok o => exact ⟨o, rfl⟩
  | error failure =>
    obtain ⟨type, declared, comparison, unsupported, _⟩ := outcome_eq_error wellTyped typed result
    rw [supported comparison type declared] at unsupported
    cases unsupported

theorem outcome_eq_unknown {c : Condition} :
    c.outcome known = .ok .unknown ↔ c.isWaiting known = true := by
  cases presence : c.operator.isPresenceCheck with
  | true =>
    obtain ⟨holds, answered⟩ := exists_outcome_presence presence known
    cases holds <;> simp [answered, isWaiting, presence, Outcome.ofBool]
  | false =>
    rw [outcome_of_not_presence presence]
    cases found : known.find? c.id with
    | none => simp [isWaiting, presence, Facts.has, found]
    | some fact =>
      have ready : c.isWaiting known = false := by simp [isWaiting, Facts.has, found]
      simp only [ready, Bool.false_eq_true, iff_false]
      intro unknown
      split at unknown
      · cases unknown
      · obtain ⟨holds, _, same⟩ := map_eq_ok.mp unknown
        cases holds <;> cases same

theorem ne_unknown_of_ready {c : Condition} (ready : c.isWaiting known = false) {o : Outcome}
    (h : c.outcome known = .ok o) : o ≠ .unknown := by
  rintro rfl
  rw [outcome_eq_unknown, ready] at h
  cases h

theorem ready_mono {c : Condition} (more_has : known.has c.id = true → more.has c.id = true)
    (ready : c.isWaiting known = false) : c.isWaiting more = false := by
  simp only [isWaiting, Bool.and_eq_false_iff, Bool.not_eq_false'] at ready ⊢
  exact ready.imp_right more_has

theorem outcome_mono {c : Condition} (wellTyped : c.WellTyped schema)
    (comparison : c.operator.isPresenceCheck = false) (typed : known.WellTyped schema)
    (typed' : more.WellTyped schema) (within : known.Within more) {o : Outcome}
    (h : c.outcome known = .ok o) (decided : o ≠ .unknown) : c.outcome more = .ok o := by
  cases present : known.has c.id with
  | false =>
    have waiting : c.isWaiting known = true := by simp [isWaiting, comparison, present]
    rw [outcome_eq_unknown.mpr waiting] at h
    cases h
    exact absurd rfl decided
  | true =>
    obtain ⟨fact, found⟩ := Option.isSome_iff_exists.mp present
    obtain ⟨other, found', agrees⟩ :=
      (Facts.within_iff typed typed').mp within c.id fact found
    have admitted := (typed.find found).2
    have admitted' := (typed'.find found').2
    rw [← outcome_eq_of_agrees wellTyped admitted.declared admitted.isTyped admitted'.isTyped found
      found' agrees]
    exact h

end Condition

def IsFirst {α : Type} (p : α → Prop) (xs : List α) (x : α) : Prop :=
  ∃ front back, xs = front ++ x :: back ∧ p x ∧ ∀ y ∈ front, ¬ p y

namespace IsFirst

variable {α : Type} {p : α → Prop} {xs : List α} {x y : α}

theorem head (h : p x) (rest : List α) : IsFirst p (x :: rest) x := ⟨[], rest, rfl, h, by simp⟩

theorem cons (passed : ¬ p x) (first : IsFirst p xs y) : IsFirst p (x :: xs) y := by
  obtain ⟨front, back, rfl, found, before⟩ := first
  refine ⟨x :: front, back, rfl, found, fun z member => ?_⟩
  rcases List.mem_cons.mp member with rfl | later
  · exact passed
  · exact before z later

theorem of_cons (first : IsFirst p (x :: xs) y) : p x ∧ y = x ∨ ¬ p x ∧ IsFirst p xs y := by
  obtain ⟨front, back, split, found, before⟩ := first
  cases front with
  | nil =>
    cases split
    exact .inl ⟨found, rfl⟩
  | cons head front =>
    cases split
    exact .inr ⟨before x List.mem_cons_self, front, back, rfl, found,
      fun z member => before z (List.mem_cons_of_mem _ member)⟩

theorem mem (first : IsFirst p xs x) : x ∈ xs := by
  obtain ⟨front, back, rfl, _⟩ := first
  simp

theorem property (first : IsFirst p xs x) : p x := by
  obtain ⟨_, _, _, found, _⟩ := first
  exact found

theorem none_or_exists (p : α → Prop) (xs : List α) : (∀ x ∈ xs, ¬ p x) ∨ ∃ x, IsFirst p xs x := by
  induction xs with
  | nil => exact .inl (by simp)
  | cons x rest ih =>
    by_cases found : p x
    · exact .inr ⟨x, head found rest⟩
    · rcases ih with none | ⟨y, first⟩
      · exact .inl (List.forall_mem_cons.mpr ⟨found, none⟩)
      · exact .inr ⟨y, cons found first⟩

/-- A result that is decided by the first with the property, and is no failure without one, fails just
as that one does. -/
theorem eq_error_iff {ε β : Type} {f : α → Except ε β} {result : Except ε β}
    (decided : ∀ x, IsFirst p xs x → result = f x)
    (passed : (∀ x ∈ xs, ¬ p x) → ∃ b, result = .ok b) {e : ε} :
    result = .error e ↔ ∃ x, IsFirst p xs x ∧ f x = .error e := by
  constructor
  · intro failed
    rcases none_or_exists p xs with none | ⟨x, first⟩
    · obtain ⟨b, succeeded⟩ := passed none
      rw [succeeded] at failed
      cases failed
    · exact ⟨x, first, (decided x first).symm.trans failed⟩
  · rintro ⟨x, first, failed⟩
    exact (decided x first).trans failed

end IsFirst

section Conditions

variable {conditions : List Condition} {c : Condition}

theorem outcomeOfEach_congr (same : ∀ c ∈ conditions, c.outcome known = c.outcome more) :
    outcomeOfEach known conditions = outcomeOfEach more conditions := by
  induction conditions with
  | nil => rfl
  | cons c rest ih =>
    have tail := ih fun other member => same other (List.mem_cons_of_mem _ member)
    simp only [outcomeOfEach, same c List.mem_cons_self, tail]

theorem outcomeOfAll_congr (same : ∀ c ∈ conditions, c.outcome known = c.outcome more)
    (present : ∀ c ∈ conditions, known.has c.id = more.has c.id) :
    outcomeOfAll known conditions = outcomeOfAll more conditions := by
  have waiting : conditions.any (Condition.isWaiting known) =
      conditions.any (Condition.isWaiting more) := by
    rw [Bool.eq_iff_iff, List.any_eq_true, List.any_eq_true]
    refine exists_congr fun c => and_congr_right fun member => ?_
    simp only [Condition.isWaiting, present c member]
  simp only [outcomeOfAll, waiting, outcomeOfEach_congr same]

theorem outcomeOfAny_congr (same : ∀ c ∈ conditions, c.outcome known = c.outcome more) :
    outcomeOfAny known conditions = outcomeOfAny more conditions := by
  induction conditions with
  | nil => rfl
  | cons c rest ih =>
    have tail := ih fun other member => same other (List.mem_cons_of_mem _ member)
    simp only [outcomeOfAny, same c List.mem_cons_self, tail]

theorem outcomeOfAll_of_ready (ready : ∀ c ∈ conditions, c.isWaiting known = false) :
    outcomeOfAll known conditions = outcomeOfEach known conditions := by
  rw [outcomeOfAll, if_neg]
  rw [Bool.not_eq_true, List.any_eq_false]
  exact fun c member => Bool.eq_false_iff.mp (ready c member)

def Condition.Faulty (known : Facts) (c : Condition) : Prop :=
  ∃ failure, c.outcome known = .error failure

/-- Alternatives behind the condition are not evaluated. -/
def Condition.EndsAny (known : Facts) (c : Condition) : Prop :=
  c.outcome known = .ok .holds ∨ c.Faulty known

def Condition.EndsAll (known : Facts) (c : Condition) : Prop := c.outcome known ≠ .ok .holds

theorem Condition.outcome_of_not_endsAny (passed : ¬ c.EndsAny known) :
    c.outcome known = .ok .fails ∨ c.outcome known = .ok .unknown := by
  cases answer : c.outcome known with
  | error failure => exact absurd (.inr ⟨failure, answer⟩) passed
  | ok o =>
    cases o with
    | holds => exact absurd (.inl answer) passed
    | fails => exact .inl rfl
    | unknown => exact .inr rfl

theorem outcomeOfAny_of_first (first : IsFirst (Condition.EndsAny known) conditions c) :
    outcomeOfAny known conditions = c.outcome known := by
  induction conditions with
  | nil => cases first.mem
  | cons head rest ih =>
    rcases first.of_cons with ⟨ends, rfl⟩ | ⟨passed, later⟩
    · rcases ends with holds | ⟨failure, failed⟩
      · simp only [outcomeOfAny, holds]
      · simp only [outcomeOfAny, failed]
    · have tail := ih later
      rcases Condition.outcome_of_not_endsAny passed with fails | unknown
      · simp only [outcomeOfAny, fails, tail]
      · rcases later.property with holds | ⟨failure, failed⟩
        · simp only [outcomeOfAny, unknown, tail, holds]
        · simp only [outcomeOfAny, unknown, tail, failed]

theorem outcomeOfAny_of_none (passed : ∀ c ∈ conditions, ¬ c.EndsAny known) :
    outcomeOfAny known conditions =
      .ok (if ∃ c ∈ conditions, c.outcome known = .ok .unknown then .unknown else .fails) := by
  induction conditions with
  | nil => rfl
  | cons head rest ih =>
    have tail := ih fun c member => passed c (List.mem_cons_of_mem _ member)
    rcases Condition.outcome_of_not_endsAny (passed head List.mem_cons_self) with fails | unknown
    · simp [outcomeOfAny, fails, tail]
    · simp only [outcomeOfAny, unknown, tail, List.exists_mem_cons_iff, true_or, if_true]
      split_ifs <;> rfl

theorem not_endsAny_of_outcome {o : Outcome} (answered : outcomeOfAny known conditions = .ok o)
    (other : o ≠ .holds) : ∀ c ∈ conditions, ¬ c.EndsAny known := by
  rcases IsFirst.none_or_exists (Condition.EndsAny known) conditions with passed | ⟨c, first⟩
  · exact passed
  · rw [outcomeOfAny_of_first first] at answered
    rcases first.property with holds | ⟨failure, failed⟩
    · rw [answered, Except.ok.injEq] at holds
      exact absurd holds other
    · rw [answered] at failed
      cases failed

theorem outcomeOfAny_eq_fails :
    outcomeOfAny known conditions = .ok .fails ↔ ∀ c ∈ conditions, c.outcome known = .ok .fails := by
  constructor
  · intro answered c member
    have passed := not_endsAny_of_outcome answered (by decide)
    rcases Condition.outcome_of_not_endsAny (passed c member) with fails | unknown
    · exact fails
    · rw [outcomeOfAny_of_none passed, if_pos ⟨c, member, unknown⟩] at answered
      cases answered
  · intro fails
    have passed (c : Condition) (member : c ∈ conditions) : ¬ c.EndsAny known := by
      simp [Condition.EndsAny, Condition.Faulty, fails c member]
    rw [outcomeOfAny_of_none passed, if_neg]
    rintro ⟨c, member, unknown⟩
    rw [fails c member] at unknown
    cases unknown

theorem outcomeOfAny_eq_unknown :
    outcomeOfAny known conditions = .ok .unknown ↔
      (∀ c ∈ conditions, ¬ c.EndsAny known) ∧ ∃ c ∈ conditions, c.outcome known = .ok .unknown := by
  constructor
  · intro answered
    have passed := not_endsAny_of_outcome answered (by decide)
    refine ⟨passed, ?_⟩
    by_contra decided
    rw [outcomeOfAny_of_none passed, if_neg decided] at answered
    cases answered
  · rintro ⟨passed, unknown⟩
    rw [outcomeOfAny_of_none passed, if_pos unknown]

theorem outcomeOfEach_of_first (ready : ∀ c ∈ conditions, c.isWaiting known = false)
    (first : IsFirst (Condition.EndsAll known) conditions c) :
    outcomeOfEach known conditions = c.outcome known := by
  induction conditions with
  | nil => cases first.mem
  | cons head rest ih =>
    rcases first.of_cons with ⟨ends, rfl⟩ | ⟨passed, later⟩
    · have decided := ready c List.mem_cons_self
      cases answer : c.outcome known with
      | error failure => simp only [outcomeOfEach, answer]
      | ok o =>
        cases o with
        | holds => exact absurd answer ends
        | fails => simp only [outcomeOfEach, answer]
        | unknown => exact absurd rfl (Condition.ne_unknown_of_ready decided answer)
    · have tail := ih (fun c member => ready c (List.mem_cons_of_mem _ member)) later
      simp only [outcomeOfEach, not_not.mp passed, tail]

theorem outcomeOfEach_of_all (all : ∀ c ∈ conditions, c.outcome known = .ok .holds) :
    outcomeOfEach known conditions = .ok .holds := by
  induction conditions with
  | nil => rfl
  | cons head rest ih =>
    simp only [outcomeOfEach, all head List.mem_cons_self]
    exact ih fun c member => all c (List.mem_cons_of_mem _ member)

theorem outcomeOfAll_of_waiting (waits : ∃ c ∈ conditions, c.isWaiting known = true) :
    outcomeOfAll known conditions = .ok .unknown := by
  rw [outcomeOfAll, if_pos (List.any_eq_true.mpr waits)]

theorem ready_of_ne_unknown (decided : outcomeOfAll known conditions ≠ .ok .unknown) :
    ∀ c ∈ conditions, c.isWaiting known = false := by
  intro c member
  rw [← Bool.not_eq_true]
  exact fun waits => decided (outcomeOfAll_of_waiting ⟨c, member, waits⟩)

theorem outcomeOfAll_of_first (ready : ∀ c ∈ conditions, c.isWaiting known = false)
    (first : IsFirst (Condition.EndsAll known) conditions c) :
    outcomeOfAll known conditions = c.outcome known :=
  (outcomeOfAll_of_ready ready).trans (outcomeOfEach_of_first ready first)

theorem outcomeOfAll_of_all (all : ∀ c ∈ conditions, c.outcome known = .ok .holds) :
    outcomeOfAll known conditions = .ok .holds := by
  have ready (c : Condition) (member : c ∈ conditions) : c.isWaiting known = false := by
    rw [← Bool.not_eq_true, ← Condition.outcome_eq_unknown, all c member]
    simp
  exact (outcomeOfAll_of_ready ready).trans (outcomeOfEach_of_all all)

theorem outcomeOfAll_eq_unknown :
    outcomeOfAll known conditions = .ok .unknown ↔ ∃ c ∈ conditions, c.isWaiting known = true := by
  refine ⟨fun unknown => ?_, outcomeOfAll_of_waiting⟩
  by_contra none
  have ready : ∀ c ∈ conditions, c.isWaiting known = false := by simpa using none
  rcases IsFirst.none_or_exists (Condition.EndsAll known) conditions with all | ⟨c, first⟩
  · rw [outcomeOfAll_of_all fun c member => not_not.mp (all c member)] at unknown
    cases unknown
  · rw [outcomeOfAll_of_first ready first] at unknown
    exact Condition.ne_unknown_of_ready (ready c first.mem) unknown rfl

theorem outcomeOfAny_eq_error_iff {failure : Failure} :
    outcomeOfAny known conditions = .error failure ↔
      ∃ c, IsFirst (Condition.EndsAny known) conditions c ∧ c.outcome known = .error failure :=
  IsFirst.eq_error_iff (fun _ => outcomeOfAny_of_first) fun passed => ⟨_, outcomeOfAny_of_none passed⟩

theorem outcomeOfAll_eq_error_iff (ready : ∀ c ∈ conditions, c.isWaiting known = false)
    {failure : Failure} :
    outcomeOfAll known conditions = .error failure ↔
      ∃ c, IsFirst (Condition.EndsAll known) conditions c ∧ c.outcome known = .error failure :=
  IsFirst.eq_error_iff (fun _ => outcomeOfAll_of_first ready) fun all =>
    ⟨_, outcomeOfAll_of_all fun c member => not_not.mp (all c member)⟩

theorem outcomeOfAll_decided {o : Outcome} (h : outcomeOfAll known conditions = .ok o)
    (decided : o ≠ .unknown) :
    (∀ c ∈ conditions, c.isWaiting known = false) ∧ outcomeOfEach known conditions = .ok o := by
  have ready : ∀ c ∈ conditions, c.isWaiting known = false :=
    ready_of_ne_unknown (by simpa [h] using decided)
  exact ⟨ready, (outcomeOfAll_of_ready ready).symm.trans h⟩

/-- All conditions hold, or the first that fails still does, on more facts as well. -/
theorem outcomeOfAll_mono
    (mono : ∀ c ∈ conditions, ∀ o, c.outcome known = .ok o → o ≠ .unknown → c.outcome more = .ok o)
    (answered : ∀ c ∈ conditions, c.isWaiting known = false →
      c.isWaiting more = false ∧ ∃ o, c.outcome known = .ok o ∧ o ≠ .unknown) {o : Outcome}
    (h : outcomeOfAll known conditions = .ok o) (decided : o ≠ .unknown) :
    outcomeOfAll more conditions = .ok o := by
  obtain ⟨ready, each⟩ := outcomeOfAll_decided h decided
  have same : ∀ c ∈ conditions, c.outcome known = c.outcome more := by
    intro c member
    obtain ⟨o, now, known'⟩ := (answered c member (ready c member)).2
    rw [now, mono c member o now known']
  rw [outcomeOfAll_of_ready fun c member => (answered c member (ready c member)).1,
    ← outcomeOfEach_congr same]
  exact each

/-- Some condition holds, or all fail, on more facts as well, though conditions that were unknown
may have been decided meanwhile. -/
theorem outcomeOfAny_mono
    (mono : ∀ c ∈ conditions, ∀ o, c.outcome known = .ok o → o ≠ .unknown → c.outcome more = .ok o)
    (total : ∀ c ∈ conditions, ∃ o, c.outcome more = .ok o) {o : Outcome}
    (h : outcomeOfAny known conditions = .ok o) (decided : o ≠ .unknown) :
    outcomeOfAny more conditions = .ok o := by
  induction conditions generalizing o with
  | nil => exact h
  | cons c rest ih =>
    have tail {o : Outcome} := @ih (fun other member => mono other (List.mem_cons_of_mem _ member))
      (fun other member => total other (List.mem_cons_of_mem _ member)) o
    have head := mono c List.mem_cons_self
    simp only [outcomeOfAny] at h
    split at h
    · cases h
    · rename_i holds
      cases h
      simp only [outcomeOfAny, head .holds holds (by decide)]
    · rename_i fails
      simp only [outcomeOfAny, head .fails fails (by decide)]
      exact tail h decided
    · have found : o = .holds ∧ outcomeOfAny known rest = .ok .holds := by
        split at h
        · cases h
          exact absurd rfl decided
        · rename_i notFails
          cases o with
          | holds => exact ⟨rfl, h⟩
          | fails => exact absurd h notFails
          | unknown => exact absurd rfl decided
      obtain ⟨rfl, held⟩ := found
      have held' := tail held decided
      obtain ⟨now, answered⟩ := total c List.mem_cons_self
      cases now <;> simp only [outcomeOfAny, answered, held']

end Conditions

namespace Rule

variable {rule : Rule}

theorem outcome_congr (same : ∀ c ∈ rule.conditions, c.outcome known = c.outcome more)
    (present : ∀ c ∈ rule.conditions, known.has c.id = more.has c.id) :
    rule.outcome known = rule.outcome more := by
  unfold outcome
  cases conditions : rule.conditionSet with
  | none => rfl
  | some set =>
    simp only [Rule.conditions, conditions] at same present
    simp only [ConditionSet.outcome, outcomeOfAll_congr same present, outcomeOfAny_congr same]

theorem outcome_eq_of_find? (same : known.find? = more.find?) :
    rule.outcome known = rule.outcome more := by
  apply outcome_congr
  · intro c _
    exact Condition.outcome_eq_of_find? (congrFun same c.id)
  · intro c _
    rw [Facts.has, Facts.has, same]

theorem outcome_eq_error {failure : Failure} (h : rule.outcome known = .error failure) :
    ∃ c ∈ rule.conditions, ∃ inner, c.outcome known = .error inner ∧
      failure = inner.within (.rule rule.name) := by
  unfold outcome at h
  cases conditions : rule.conditionSet with
  | none => simp [conditions] at h
  | some set =>
    simp only [conditions] at h
    obtain ⟨inner, failed, same⟩ := atPlace_eq_error.mp h
    have blamed : ∃ c ∈ set.conditions, c.outcome known = .error inner := by
      unfold ConditionSet.outcome at failed
      split at failed
      · have ready : ∀ c ∈ set.conditions, c.isWaiting known = false :=
          ready_of_ne_unknown (by simp [failed])
        obtain ⟨c, first, failed⟩ := (outcomeOfAll_eq_error_iff ready).mp failed
        exact ⟨c, first.mem, failed⟩
      · obtain ⟨c, first, failed⟩ := outcomeOfAny_eq_error_iff.mp failed
        exact ⟨c, first.mem, failed⟩
    obtain ⟨c, member, failed⟩ := blamed
    refine ⟨c, ?_, inner, failed, same.symm⟩
    simpa only [Rule.conditions, conditions] using member

theorem exists_outcome (wellTyped : rule.WellTyped schema) (supported : rule.Supported schema)
    (typed : known.WellTyped schema) : ∃ o, rule.outcome known = .ok o := by
  cases result : rule.outcome known with
  | ok o => exact ⟨o, rfl⟩
  | error failure =>
    obtain ⟨c, member, inner, failed, _⟩ := outcome_eq_error result
    obtain ⟨o, answered⟩ :=
      Condition.exists_outcome (wellTyped.conditions c member) typed (supported c member)
    rw [answered] at failed
    cases failed

/-- A decided rule without presence checks stays decided when more facts are known. -/
theorem outcome_mono (wellTyped : rule.WellTyped schema) (supported : rule.Supported schema)
    (normal : rule.isFinal = false) (typed : known.WellTyped schema)
    (typed' : more.WellTyped schema) (within : known.Within more) {o : Outcome}
    (h : rule.outcome known = .ok o) (decided : o ≠ .unknown) : rule.outcome more = .ok o := by
  have compares (c : Condition) (member : c ∈ rule.conditions) :=
    wellTyped.comparison_of_not_final normal member
  have mono (c : Condition) (member : c ∈ rule.conditions) (o : Outcome)
      (answered : c.outcome known = .ok o) (decided : o ≠ .unknown) : c.outcome more = .ok o :=
    Condition.outcome_mono (wellTyped.conditions c member) (compares c member) typed typed' within
      answered decided
  have total (c : Condition) (member : c ∈ rule.conditions) : ∃ o, c.outcome more = .ok o :=
    Condition.exists_outcome (wellTyped.conditions c member) typed' (supported c member)
  unfold outcome at h ⊢
  cases conditions : rule.conditionSet with
  | none => simpa only [conditions] using h
  | some set =>
    have members : rule.conditions = set.conditions := by simp only [Rule.conditions, conditions]
    rw [members] at compares mono total
    simp only [conditions, atPlace_eq_ok, ConditionSet.outcome] at h ⊢
    split at h
    · rename_i isAnd
      rw [if_pos isAnd]
      refine outcomeOfAll_mono mono (fun c member ready => ⟨?_, ?_⟩) h decided
      · exact Condition.ready_mono within.has ready
      · have typedC := wellTyped.conditions c (members ▸ member)
        obtain ⟨o, answered⟩ :=
          Condition.exists_outcome typedC typed (supported c (members ▸ member))
        exact ⟨o, answered, Condition.ne_unknown_of_ready ready answered⟩
    · rename_i isOr
      rw [if_neg isOr]
      exact outcomeOfAny_mono mono total h decided

end Rule

end Deduce
