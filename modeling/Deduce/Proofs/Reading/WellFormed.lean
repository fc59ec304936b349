import Deduce.Proofs.Typing.Reading

/-!
# Well-formed rule tables

Whatever document is accepted, the table read from it is well formed, and rules can be evaluated
without checking any of it again.
-/

namespace Deduce

/-- The value is one that a literal of the fact denotes: it has the declared type, and a decimal has
no power of ten above zero. -/
structure Schema.Denotes (schema : Schema) (id : String) (value : Value) : Prop
    extends schema.Admits id value where
  scale : ∀ negative coefficient exponent,
    value.data = some (.decimal (.finite negative coefficient exponent)) → exponent ≤ 0

structure Condition.WellFormed (schema : Schema) (c : Condition) : Prop where
  declared : c.id ∈ schema.ids
  operator : c.operator ≠ .and ∧ c.operator ≠ .or
  presence : c.operator.isPresenceCheck = true → c.value = none
  comparison : c.operator.isPresenceCheck = false →
    ∃ value, c.value = some value ∧ schema.Denotes c.id value

structure ConditionSet.WellFormed (schema : Schema) (set : ConditionSet) : Prop where
  conditions : ∀ c ∈ set.conditions, c.WellFormed schema
  /-- Conditions that have to hold together never ask for two values of one fact. -/
  equalities : set.isAnd = true →
    ((set.conditions.filter (·.operator == .equal)).map Condition.id).Nodup

structure Rule.WellFormed (schema : Schema) (rule : Rule) : Prop where
  named : rule.name ≠ ""
  conditions : ∀ set, rule.conditionSet = some set → set.WellFormed schema
  facts : ∀ fact ∈ rule.asserted, schema.Denotes fact.id fact.value
  factIds : (rule.asserted.map Fact.id).Nodup
  actions : ∀ action ∈ rule.triggered, ' ' ∉ action.id.toList
  actionTexts : (rule.triggered.map Action.text).Nodup
  isFinal : rule.isFinal = true ↔
    ∃ c ∈ rule.conditions, c.operator = .isDefined ∨ c.operator = .notDefined

def Rule.IsNamedBy (rule : Rule) (item : Tree) : Prop :=
  ∃ pairs, item = .mapping pairs ∧ (Tree.scalar "name", Tree.scalar rule.name) ∈ pairs

structure RuleTable.WellFormed (schema : Schema) (items : List Tree) (table : RuleTable) : Prop where
  /-- The rules are those of the items, in the same order. -/
  order : List.Forall₂ (fun item rule => readRule schema item = .ok rule ∧ rule.IsNamedBy item)
    items table
  distinct : (table.map Rule.name).Nodup
  keyed : ∀ rule ∈ table, table.find? rule.name = some rule
  rules : ∀ rule ∈ table, rule.WellFormed schema

variable {schema : Schema}

theorem ScalarType.exponent_of_read {type : ScalarType} {text : String} {negative : Bool}
    {coefficient : Nat} {exponent : Int}
    (h : type.read text = .ok (some (.decimal (.finite negative coefficient exponent)))) :
    exponent ≤ 0 := by
  cases type with
  | decimal =>
    simp only [read, Except.ok.injEq, Option.map_eq_some_iff, Datum.decimal.injEq] at h
    obtain ⟨d, plain, rfl⟩ := h
    obtain ⟨_, _, _, same, below⟩ := Decimal.ofPlain?_eq_some plain
    cases same
    exact below
  | int => simp [read, map_eq_ok] at h
  | string | bool => simp [read] at h

theorem Schema.Reads.denotes {id literal : String} {value : Value}
    (read : schema.Reads id literal value) : schema.Denotes id value := by
  obtain ⟨datum, set, _, denoted⟩ := read.exists_datum
  refine ⟨read.admits, fun negative coefficient exponent scaled => ?_⟩
  cases set.symm.trans scaled
  exact ScalarType.exponent_of_read denoted

theorem readCondition_wellFormed {tree : Tree} {c : Condition}
    (h : readCondition schema tree = .ok (.condition c)) : c.WellFormed schema := by
  obtain ⟨parts, rfl, denoted⟩ := readCondition_eq_ok.mp h
  cases denoted with
  | presence check _ declared =>
    have presence := Operator.isPresenceCheck_of_sign? check
    refine ⟨declared, ?_, fun _ => rfl, fun other => ?_⟩
    · rcases Operator.isPresenceCheck_iff.mp presence with rfl | rfl <;> simp
    · rw [presence] at other
      cases other
  | comparison known _ read =>
    have comparison := Operator.isComparison_of_token? known
    refine ⟨schema.mem_ids.mpr ⟨_, read.declared⟩, ?_, fun other => ?_,
      fun _ => ⟨_, rfl, read.denotes⟩⟩
    · constructor <;> rintro rfl <;> cases comparison
    · rw [Operator.isPresenceCheck_eq_false comparison] at other
      cases other

theorem readFact_denotes {tree : Tree} {fact : Fact} (h : readFact schema tree = .ok fact) :
    schema.Denotes fact.id fact.value := by
  obtain ⟨_, _, _, read⟩ := readFact_eq_ok.mp h
  exact read.denotes

theorem ConditionSet.nodup_equalities {set : ConditionSet} (isAnd : set.isAnd = true)
    (apart : set.conditions.Pairwise fun c c' => c.contradicts set.isAnd c' = false) :
    ((set.conditions.filter (·.operator == .equal)).map Condition.id).Nodup := by
  rw [List.Nodup, List.pairwise_map, List.pairwise_filter]
  refine apart.imp fun {c c'} harmless equal equal' same => ?_
  simp [Condition.contradicts, isAnd, beq_iff_eq.mp equal, beq_iff_eq.mp equal', same] at harmless

theorem conditionSetOf_wellFormed {lines : List Tree} {set : ConditionSet}
    (h : conditionSetOf schema lines = .ok set) : set.WellFormed schema := by
  obtain ⟨_, each, apart⟩ := conditionSetOf_eq_ok h
  refine ⟨fun c member => ?_, fun isAnd => set.nodup_equalities isAnd apart⟩
  obtain ⟨line, _, read⟩ := exists_left_of_forall₂ each member
  exact readCondition_wellFormed read

theorem readAction_spaceless {tree : Tree} {action : Action} (h : readAction tree = .ok action) :
    ' ' ∉ action.id.toList := by
  obtain ⟨_, _, ⟨spaceless⟩⟩ := readAction_eq_ok.mp h
  exact spaceless

theorem readRule_wellFormed {item : Tree} {rule : Rule} (h : readRule schema item = .ok rule) :
    rule.IsNamedBy item ∧ rule.WellFormed schema := by
  obtain ⟨pairs, rfl, read⟩ := readRule_eq_ok h
  obtain ⟨factIds, facts⟩ := read.asserted
  obtain ⟨actionTexts, actions⟩ := read.triggered
  refine ⟨⟨pairs, rfl, read.name⟩, ?_⟩
  constructor
  case named => exact read.named
  case conditions =>
    intro set said
    obtain ⟨lines, _, accepted⟩ := read.conditions set said
    exact conditionSetOf_wellFormed accepted
  case facts =>
    intro fact member
    obtain ⟨line, each⟩ := facts fact member
    exact readFact_denotes each
  case factIds => exact factIds
  case actions =>
    intro action member
    obtain ⟨line, each⟩ := actions action member
    exact readAction_spaceless each
  case actionTexts => exact actionTexts
  case isFinal =>
    simp only [read.isFinal, List.any_eq_true, Operator.isPresenceCheck_iff]

namespace RuleTable

theorem find?_of_distinct {table : RuleTable} (distinct : (table.map Rule.name).Nodup) {rule : Rule}
    (member : rule ∈ table) : table.find? rule.name = some rule := by
  obtain ⟨front, back, rfl⟩ := List.append_of_mem member
  have earlier : List.find? (·.name == rule.name) front = none := by
    rw [List.map_append, List.nodup_append] at distinct
    rw [List.find?_eq_none]
    intro other present same
    exact distinct.2.2 other.name (List.mem_map_of_mem present) rule.name (by simp) (by simpa using same)
  simp [find?, List.find?_append, earlier]

/-- Every table that is read is well formed. -/
theorem ofTree_wellFormed {tree : Tree} {table : RuleTable} (h : ofTree schema tree = .ok table) :
    ∃ items, tree = .sequence items ∧ table.WellFormed schema items := by
  obtain ⟨items, rfl, each, distinct⟩ := ofTree_eq_ok_iff.mp h
  refine ⟨items, rfl, ?_, distinct, fun rule => find?_of_distinct distinct, fun rule member => ?_⟩
  · exact each.imp fun item rule read => ⟨read, (readRule_wellFormed read).1⟩
  · obtain ⟨item, _, read⟩ := exists_left_of_forall₂ each member
    exact (readRule_wellFormed read).2

/-- A final rule with its attributes out of order, two bounds on one number and a value with a point. -/
theorem bounded_wellFormed :
    ∃ items, Tree.sequence [.mapping [
        (.scalar "facts", .sequence [.scalar "rate = 1.50"]),
        (.scalar "conditions", .sequence [.scalar "and", .scalar "age >= 18", .scalar "age != 65",
          .scalar "age == 40", .scalar "!rate"]),
        (.scalar "actions", .sequence [.scalar "Field rate"]),
        (.scalar "name", .scalar "bounded")]] = .sequence items ∧
      WellFormed ⟨"facts", [("age", .int), ("rate", .decimal)], by decide⟩ items [
        { name := "bounded"
          conditionSet := some ⟨true, [
            ⟨"age", .greaterOrEqual, some ⟨.int, some (.int 18)⟩⟩,
            ⟨"age", .notEqual, some ⟨.int, some (.int 65)⟩⟩,
            ⟨"age", .equal, some ⟨.int, some (.int 40)⟩⟩,
            ⟨"rate", .notDefined, none⟩]⟩
          facts := some [⟨"rate", ⟨.decimal, some (.decimal (.finite false 150 (-2)))⟩⟩]
          actions := some [⟨.field, "rate"⟩]
          isFinal := true }] :=
  ofTree_wellFormed rfl

end RuleTable

end Deduce
