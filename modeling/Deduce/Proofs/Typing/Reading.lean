import Deduce.Proofs.Reading.Grammar

/-!
# Typing of the rules that are read

Every rule of a table that is read against a schema is well typed: literals have the declared type,
lines give well-typed conditions and facts, and a rule has such as were read.
-/

namespace Deduce

theorem Decimal.ofPlain?_eq_some {cs : List Char} {d : Decimal} (h : ofPlain? cs = some d) :
    ∃ negative coefficient exponent, d = .finite negative coefficient exponent ∧ exponent ≤ 0 := by
  simp only [ofPlain?, Option.map_eq_some_iff] at h
  obtain ⟨⟨whole, fraction⟩, _, rfl⟩ := h
  exact ⟨_, _, _, rfl, by omega⟩

theorem ScalarType.read_suits {type : ScalarType} {text : String} {datum : Datum}
    (filled : text ≠ "") (h : type.read text = .ok (some datum)) : datum.Suits type := by
  cases type with
  | string =>
    cases h
    exact filled
  | int =>
    simp only [read, map_eq_ok, Option.map_eq_some_iff] at h
    obtain ⟨_, _, i, _, rfl⟩ := h
    trivial
  | decimal =>
    simp only [read, Except.ok.injEq, Option.map_eq_some_iff] at h
    obtain ⟨d, plain, rfl⟩ := h
    obtain ⟨_, _, _, rfl, _⟩ := Decimal.ofPlain?_eq_some plain
    rfl
  | bool =>
    simp only [read, Except.ok.injEq, Option.map_eq_some_iff] at h
    obtain ⟨b, _, rfl⟩ := h
    trivial

namespace Schema.Reads

variable {schema : Schema} {id literal : String} {value : Value}

theorem exists_datum (read : schema.Reads id literal value) :
    ∃ datum, value.data = some datum ∧ literal ≠ "" ∧
      value.type.read literal = .ok (some datum) := by
  obtain ⟨type, data⟩ := value
  cases data with
  | none => cases read.set
  | some datum => exact ⟨datum, rfl, (Value.ofLiteral_eq_ok read.read).2 datum rfl⟩

theorem admits (read : schema.Reads id literal value) : schema.Admits id value := by
  obtain ⟨datum, set, filled, denoted⟩ := read.exists_datum
  exact ⟨read.declared, datum, set, ScalarType.read_suits filled denoted⟩

end Schema.Reads

variable {schema : Schema}

theorem Operator.isPresenceCheck_of_sign? {sign : Char} {op : Operator}
    (h : op.sign? = some sign) : op.isPresenceCheck = true := by
  cases op <;> first | rfl | cases h

theorem Operator.isComparison_of_token? {token : String} {op : Operator}
    (h : op.token? = some token) : op.isComparison = true := by
  cases op <;> first | rfl | cases h

theorem readCondition_wellTyped {tree : Tree} {c : Condition}
    (h : readCondition schema tree = .ok (.condition c)) : c.WellTyped schema := by
  obtain ⟨parts, rfl, denoted⟩ := readCondition_eq_ok.mp h
  cases denoted with
  | presence check _ declared =>
    obtain ⟨type, declared⟩ := schema.mem_ids.mp declared
    exact .presence (Operator.isPresenceCheck_of_sign? check) declared
  | comparison known _ read =>
    exact .comparison (Operator.isComparison_of_token? known) read.admits

theorem readFact_admits {tree : Tree} {fact : Fact} (h : readFact schema tree = .ok fact) :
    schema.Admits fact.id fact.value := by
  obtain ⟨_, _, _, read⟩ := readFact_eq_ok.mp h
  exact read.admits

theorem readRule_wellTyped {tree : Tree} {rule : Rule} (h : readRule schema tree = .ok rule) :
    rule.WellTyped schema := by
  obtain ⟨pairs, _, read⟩ := readRule_eq_ok h
  refine ⟨fun c member => ?_, fun fact member => ?_, read.isFinal⟩
  · obtain ⟨line, each⟩ := read.exists_condition member
    exact readCondition_wellTyped each
  · obtain ⟨line, each⟩ := read.asserted.2 fact member
    exact readFact_admits each

theorem RuleTable.ofTree_wellTyped {tree : Tree} {table : RuleTable}
    (h : ofTree schema tree = .ok table) : table.WellTyped schema := by
  obtain ⟨items, _, each, _⟩ := ofTree_eq_ok_iff.mp h
  intro rule member
  obtain ⟨item, _, read⟩ := exists_left_of_forall₂ each member
  exact readRule_wellTyped read

end Deduce
