import Deduce.Run

/-!
# Typing of facts and rules

A fact is well typed when its id is declared and its value is well formed and of the declared type.
A condition is a presence check without a value or a comparison with a value that its fact may have.
-/

namespace Deduce

theorem map_eq_ok {ε α β : Type} {f : α → β} {result : Except ε α} {b : β} :
    result.map f = .ok b ↔ ∃ a, result = .ok a ∧ f a = b := by
  cases result <;> simp [Except.map]

theorem exists_map_eq_ok {ε α β : Type} {f : α → β} {result : Except ε α} :
    (∃ b, result.map f = .ok b) ↔ ∃ a, result = .ok a := by
  cases result <;> simp [Except.map]

theorem map_eq_error {ε α β : Type} {f : α → β} {result : Except ε α} {e : ε} :
    result.map f = .error e ↔ result = .error e := by
  cases result <;> simp [Except.map]

theorem mapError_eq_ok {ε ε' α : Type} {f : ε → ε'} {result : Except ε α} {a : α} :
    result.mapError f = .ok a ↔ result = .ok a := by
  constructor <;> intro h <;> cases result <;> cases h <;> rfl

theorem mapError_eq_error {ε ε' α : Type} {f : ε → ε'} {result : Except ε α} {e' : ε'} :
    result.mapError f = .error e' ↔ ∃ e, result = .error e ∧ f e = e' := by
  constructor
  · intro h
    cases result <;> cases h
    exact ⟨_, rfl, rfl⟩
  · rintro ⟨e, rfl, rfl⟩
    rfl

theorem atPlace_eq_ok {α : Type} {place : Place} {result : Except Failure α} {a : α} :
    atPlace place result = .ok a ↔ result = .ok a :=
  mapError_eq_ok

theorem atPlace_eq_error {α : Type} {place : Place} {result : Except Failure α}
    {failure : Failure} :
    atPlace place result = .error failure ↔
      ∃ inner, result = .error inner ∧ inner.within place = failure :=
  mapError_eq_error

theorem atPlace_eq_defect {α : Type} {place : Place} {result : Except Failure α} {d : Defect} :
    atPlace place result = .error (.defect d) ↔ result = .error (.defect d) := by
  rw [atPlace_eq_error]
  constructor
  · rintro ⟨inner, failed, same⟩
    cases inner <;> cases same
    exact failed
  · exact fun failed => ⟨_, failed, rfl⟩

theorem Failure.quoting_of_writable {values : List Value} (e : Error)
    (writable : ∀ v ∈ values, v.isWritable = true) : quoting values e = .error e :=
  if_pos (List.all_eq_true.mpr writable)

theorem Failure.contradiction_of_writable {established new : Fact}
    (known : established.value.isWritable = true) (added : new.value.isWritable = true) :
    contradiction established new = .error (.establishedFact established new) :=
  quoting_of_writable _ (by simp [known, added])

theorem Failure.contradiction_cases (established new : Fact) :
    contradiction established new = .error (.establishedFact established new) ∨
      contradiction established new = .defect (.tooManyDigits none) ∧
        (established.value.isWritable = false ∨ new.value.isWritable = false) := by
  unfold contradiction quoting
  split
  · exact .inl rfl
  · rename_i overlong
    exact .inr ⟨rfl, by simpa [Decidable.or_iff_not_imp_left] using overlong⟩

/-- Only integers can have too many digits. -/
theorem Value.IsWellFormed.isWritable {v : Value} (h : v.IsWellFormed) (other : v.type ≠ .int) :
    v.isWritable = true := by
  obtain ⟨datum, set, suits⟩ := h
  rw [Value.isWritable, set, Option.all_some]
  cases datum with
  | int i =>
    cases type : v.type <;> rw [type] at suits other <;> contradiction
  | string | decimal | bool | float => rfl

/-- The smallest number of too many digits. -/
def overlongNumber : Int := Nat.pow 10 maxIntDigits

theorem isWritable_overlongNumber : (Datum.int overlongNumber).isWritable = false := by
  have positive : 0 < maxIntDigits := by decide
  rw [Datum.isWritable, overlongNumber, Int.natAbs_natCast, Nat.pow_eq]
  generalize maxIntDigits = digits at positive ⊢
  rw [decide_eq_false_iff_not, Decimal.width_le_iff positive]
  exact Nat.lt_irrefl _

theorem overlongNumber_ne_one : overlongNumber ≠ 1 := by
  intro same
  have overlong := isWritable_overlongNumber
  rw [same] at overlong
  cases overlong

structure Schema.Admits (schema : Schema) (id : String) (value : Value) : Prop where
  declared : schema.get? id = some value.type
  wellFormed : value.IsWellFormed

def Facts.WellTyped (schema : Schema) (facts : Facts) : Prop :=
  ∀ fact ∈ facts, schema.Admits fact.id fact.value

inductive Condition.WellTyped (schema : Schema) : Condition → Prop where
  | presence {id op type} : op.isPresenceCheck = true → schema.get? id = some type →
      WellTyped schema ⟨id, op, none⟩
  | comparison {id op value} : op.isComparison = true → schema.Admits id value →
      WellTyped schema ⟨id, op, some value⟩

structure Rule.WellTyped (schema : Schema) (rule : Rule) : Prop where
  conditions : ∀ c ∈ rule.conditions, c.WellTyped schema
  asserted : Facts.WellTyped schema rule.asserted
  /-- The final rules are those with a presence check. -/
  isFinal : rule.isFinal = rule.conditions.any (·.operator.isPresenceCheck)

def RuleTable.WellTyped (schema : Schema) (table : RuleTable) : Prop :=
  ∀ rule ∈ table, rule.WellTyped schema

def RuleTable.AssertsTyped (schema : Schema) (table : RuleTable) : Prop :=
  ∀ rule ∈ table, Facts.WellTyped schema rule.asserted

theorem RuleTable.WellTyped.asserts {schema : Schema} {table : RuleTable}
    (h : table.WellTyped schema) : table.AssertsTyped schema :=
  fun rule member => (h rule member).asserted

def Rule.Supported (schema : Schema) (rule : Rule) : Prop :=
  ∀ c ∈ rule.conditions, c.operator.isComparison = true →
    ∀ type, schema.get? c.id = some type → type.supports c.operator = true

instance (schema : Schema) (rule : Rule) : Decidable (rule.Supported schema) :=
  decidable_of_iff (∀ c ∈ rule.conditions, c.operator.isComparison = true →
      (schema.get? c.id).all (·.supports c.operator) = true)
    (by simp only [Rule.Supported, Option.all_eq_true])

theorem Facts.WellTyped.append {schema : Schema} {facts more : List Fact}
    (h : Facts.WellTyped schema facts) (h' : Facts.WellTyped schema more) :
    Facts.WellTyped schema (facts ++ more) := by
  intro fact member
  rcases List.mem_append.mp member with old | new
  · exact h fact old
  · exact h' fact new

theorem Facts.WellTyped.singleton {schema : Schema} {fact : Fact}
    (h : schema.Admits fact.id fact.value) : Facts.WellTyped schema [fact] := by
  intro other member
  rw [List.mem_singleton.mp member]
  exact h

theorem Facts.WellTyped.tail {schema : Schema} {fact : Fact} {rest : List Fact}
    (h : Facts.WellTyped schema (fact :: rest)) : Facts.WellTyped schema rest :=
  fun other member => h other (List.mem_cons_of_mem _ member)

theorem Facts.WellTyped.find {schema : Schema} {known : Facts} (h : Facts.WellTyped schema known)
    {id : String} {fact : Fact} (found : known.find? id = some fact) :
    fact.id = id ∧ schema.Admits id fact.value := by
  have same : fact.id = id := by simpa using List.find?_some found
  have admitted := h fact (List.mem_of_find?_eq_some found)
  rw [same] at admitted
  exact ⟨same, admitted⟩

theorem Operator.isPresenceCheck_iff {op : Operator} :
    op.isPresenceCheck = true ↔ op = .isDefined ∨ op = .notDefined := by
  simp [isPresenceCheck]

theorem Operator.isPresenceCheck_eq_false {op : Operator} (h : op.isComparison = true) :
    op.isPresenceCheck = false := by
  cases op <;> first | cases h; done | rfl

theorem Rule.WellTyped.comparison_of_not_final {schema : Schema} {rule : Rule}
    (h : rule.WellTyped schema) (normal : rule.isFinal = false) {c : Condition}
    (member : c ∈ rule.conditions) : c.operator.isPresenceCheck = false := by
  rw [h.isFinal, List.any_eq_false] at normal
  simpa using normal c member

end Deduce
