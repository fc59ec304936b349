import Deduce.Proofs.Reading.Gathering

/-!
# Rules from their attributes

The attributes of a rule are read in the order in which they are written, and each part of the rule is
what one of them says. Reading stops at the first attribute that is unknown, repeated or does not read.
-/

namespace Deduce

variable {schema : Schema} {context : String} {draft next : Draft}

theorem Tree.text?_eq_some {tree : Tree} {text : String} :
    tree.text? = some text ↔ tree = .scalar text ∧ text ≠ "" := by
  cases tree with
  | scalar s =>
    simp only [text?, Option.ite_none_left_eq_some, Option.some.injEq, Tree.scalar.injEq,
      String.isEmpty_iff]
    constructor
    · rintro ⟨filled, rfl⟩
      exact ⟨rfl, filled⟩
    · rintro ⟨rfl, filled⟩
      exact ⟨filled, rfl⟩
  | sequence | mapping => simp [text?]

theorem Tree.pairs?_eq_some {tree : Tree} {pairs : List (Tree × Tree)} :
    tree.pairs? = some pairs ↔ tree = .mapping pairs := by
  cases tree <;> simp [pairs?]

theorem readConditions_eq_ok {value : Tree} {set : ConditionSet}
    (h : readConditions schema value = .ok set) :
    ∃ lines, value = .sequence lines ∧ conditionSetOf schema lines = .ok set := by
  cases value with
  | sequence lines => exact ⟨lines, rfl, h⟩
  | scalar | mapping => cases h

theorem readFacts_eq_ok {value : Tree} {facts : List Fact} (h : readFacts schema value = .ok facts) :
    ∃ lines, value = .sequence lines ∧ factsFrom schema [] lines = .ok facts := by
  cases value with
  | sequence lines => exact ⟨lines, rfl, h⟩
  | scalar | mapping => cases h

theorem readActions_eq_ok {value : Tree} {actions : List Action}
    (h : readActions value = .ok actions) :
    ∃ lines, value = .sequence lines ∧ actionsFrom [] lines = .ok actions := by
  cases value with
  | sequence lines => exact ⟨lines, rfl, h⟩
  | scalar | mapping => cases h

namespace Attribute

theorem ofKey?_eq_some {key : String} {a : Attribute} : ofKey? key = some a ↔ a.key = key := by
  constructor
  · intro found
    simpa using List.find?_some found
  · rintro rfl
    cases a <;> decide

theorem key_inj {a b : Attribute} (same : a.key = b.key) : a = b :=
  Option.some.inj ((ofKey?_eq_some.mpr rfl).symm.trans (ofKey?_eq_some.mpr same.symm))

theorem text?_key (a : Attribute) : (Tree.scalar a.key).text? = some a.key := by
  cases a <;> rfl

end Attribute

namespace Draft

theorem add_key {a : Attribute} (new : draft.has a = false) (value : Tree) :
    draft.add schema context (.scalar a.key) value =
      atPlace (.readingRule context) (draft.set schema value a) := by
  simp only [add, Attribute.text?_key, Attribute.ofKey?_eq_some.mpr rfl, new, Bool.false_eq_true,
    if_false]

/-- A pair is refused, unless its key is an attribute that has not been read. -/
theorem error_or_key (draft : Draft) (key value : Tree) :
    (∃ e, draft.add schema context key value = .error (.error e)) ∨
      ∃ a : Attribute, key = .scalar a.key ∧ draft.has a = false := by
  unfold add
  split
  · exact .inl ⟨_, rfl⟩
  · rename_i name text
    split
    · exact .inl ⟨_, rfl⟩
    · rename_i a found
      split
      · exact .inl ⟨_, rfl⟩
      · rename_i new
        obtain ⟨rfl, _⟩ := Tree.text?_eq_some.mp text
        rw [Attribute.ofKey?_eq_some] at found
        exact .inr ⟨a, by rw [found], by simpa using new⟩

/-- The result of a pair that is not refused does not depend on where the pair stands. -/
theorem add_eq_iff {key value : Tree} {result : Except Failure Draft}
    (kept : ∀ {place : Place} {read : Except Failure Draft}, atPlace place read = result ↔ read = result)
    (accepts : ∀ e, result ≠ .error (.error e)) :
    draft.add schema context key value = result ↔
      ∃ a : Attribute, key = .scalar a.key ∧ draft.has a = false ∧
        draft.set schema value a = result := by
  constructor
  · intro h
    rcases draft.error_or_key key value with ⟨e, failed⟩ | ⟨a, rfl, new⟩
    · exact absurd (h.symm.trans failed) (accepts e)
    · rw [add_key new, kept] at h
      exact ⟨a, rfl, new, h⟩
  · rintro ⟨a, rfl, new, read⟩
    rw [add_key new, kept]
    exact read

theorem add_eq_ok_iff {key value : Tree} :
    draft.add schema context key value = .ok next ↔
      ∃ a : Attribute, key = .scalar a.key ∧ draft.has a = false ∧
        draft.set schema value a = .ok next :=
  add_eq_iff atPlace_eq_ok nofun

theorem add_eq_defect_iff {key value : Tree} {d : Defect} :
    draft.add schema context key value = .error (.defect d) ↔
      ∃ a : Attribute, key = .scalar a.key ∧ draft.has a = false ∧
        draft.set schema value a = .error (.defect d) :=
  add_eq_iff atPlace_eq_defect nofun

theorem addAll_append (front back : List (Tree × Tree)) :
    draft.addAll schema context (front ++ back) =
      (draft.addAll schema context front).bind fun next => next.addAll schema context back := by
  induction front generalizing draft with
  | nil => rfl
  | cons pair rest ih =>
    simp only [List.cons_append, addAll]
    cases draft.add schema context pair.1 pair.2 with
    | error failure => rfl
    | ok next => exact ih

theorem addAll_single (key value : Tree) :
    draft.addAll schema context [(key, value)] = draft.add schema context key value := by
  simp only [addAll]
  cases draft.add schema context key value <;> rfl

theorem addAll_eq_error_iff {pairs : List (Tree × Tree)} {failure : Failure} :
    draft.addAll schema context pairs = .error failure ↔
      ∃ front key value back next, pairs = front ++ (key, value) :: back ∧
        draft.addAll schema context front = .ok next ∧
        next.add schema context key value = .error failure := by
  constructor
  · intro h
    induction pairs generalizing draft with
    | nil => cases h
    | cons pair rest ih =>
      obtain ⟨key, value⟩ := pair
      simp only [addAll] at h
      split at h
      · rename_i failed
        cases h
        exact ⟨[], key, value, rest, draft, rfl, rfl, failed⟩
      · rename_i next added
        obtain ⟨front, key', value', back, last, rfl, accepted, failed⟩ := ih h
        refine ⟨(key, value) :: front, key', value', back, last, rfl, ?_, failed⟩
        simp only [addAll, added]
        exact accepted
  · rintro ⟨front, key, value, back, next, rfl, accepted, failed⟩
    rw [addAll_append, accepted]
    simp only [Except.bind, addAll, failed]

/-- Whether pairs are accepted does not depend on the rule they are read for. -/
theorem addAll_eq_ok_congr {pairs : List (Tree × Tree)} {context : String}
    (h : draft.addAll schema context pairs = .ok next) (context' : String) :
    draft.addAll schema context' pairs = .ok next := by
  induction pairs generalizing draft with
  | nil => exact h
  | cons pair rest ih =>
    simp only [addAll] at h ⊢
    split at h
    · cases h
    · rename_i middle added
      rw [add_eq_ok_iff.mpr (add_eq_ok_iff.mp added)]
      exact ih h

/-- Each part of the draft is what one of the pairs says. -/
structure ReadFrom (schema : Schema) (pairs : List (Tree × Tree)) (draft : Draft) : Prop where
  name : ∀ name, draft.name.join = some name →
    (Tree.scalar "name", Tree.scalar name) ∈ pairs ∧ name ≠ ""
  conditions : ∀ set, draft.conditions = some set →
    ∃ lines, (Tree.scalar "conditions", Tree.sequence lines) ∈ pairs ∧
      conditionSetOf schema lines = .ok set
  facts : ∀ facts, draft.facts = some facts →
    ∃ lines, (Tree.scalar "facts", Tree.sequence lines) ∈ pairs ∧
      factsFrom schema [] lines = .ok facts
  actions : ∀ actions, draft.actions = some actions →
    ∃ lines, (Tree.scalar "actions", Tree.sequence lines) ∈ pairs ∧
      actionsFrom [] lines = .ok actions

variable {pairs : List (Tree × Tree)}

theorem ReadFrom.mono (h : draft.ReadFrom schema pairs) {more : List (Tree × Tree)}
    (among : pairs ⊆ more) : draft.ReadFrom schema more := by
  constructor
  · intro name said
    obtain ⟨member, filled⟩ := h.name name said
    exact ⟨among member, filled⟩
  · intro set said
    obtain ⟨lines, member, read⟩ := h.conditions set said
    exact ⟨lines, among member, read⟩
  · intro facts said
    obtain ⟨lines, member, read⟩ := h.facts facts said
    exact ⟨lines, among member, read⟩
  · intro actions said
    obtain ⟨lines, member, read⟩ := h.actions actions said
    exact ⟨lines, among member, read⟩

theorem ReadFrom.add (h : draft.ReadFrom schema pairs) {key value : Tree}
    (added : draft.add schema context key value = .ok next) :
    next.ReadFrom schema (pairs ++ [(key, value)]) := by
  obtain ⟨a, rfl, _, set⟩ := add_eq_ok_iff.mp added
  have before := h.mono (List.subset_append_left pairs [(Tree.scalar a.key, value)])
  have last : (Tree.scalar a.key, value) ∈ pairs ++ [(Tree.scalar a.key, value)] := by simp
  cases a with
  | name =>
    cases set
    refine ⟨fun name said => ?_, before.conditions, before.facts, before.actions⟩
    obtain ⟨rfl, filled⟩ := Tree.text?_eq_some.mp said
    exact ⟨last, filled⟩
  | description =>
    cases set
    exact ⟨before.name, before.conditions, before.facts, before.actions⟩
  | conditions =>
    obtain ⟨conditions, read, rfl⟩ := map_eq_ok.mp set
    obtain ⟨lines, rfl, each⟩ := readConditions_eq_ok read
    refine ⟨before.name, fun other said => ?_, before.facts, before.actions⟩
    cases said
    exact ⟨lines, last, each⟩
  | facts =>
    obtain ⟨facts, read, rfl⟩ := map_eq_ok.mp set
    obtain ⟨lines, rfl, each⟩ := readFacts_eq_ok read
    refine ⟨before.name, before.conditions, fun other said => ?_, before.actions⟩
    cases said
    exact ⟨lines, last, each⟩
  | actions =>
    obtain ⟨actions, read, rfl⟩ := map_eq_ok.mp set
    obtain ⟨lines, rfl, each⟩ := readActions_eq_ok read
    refine ⟨before.name, before.conditions, before.facts, fun other said => ?_⟩
    cases said
    exact ⟨lines, last, each⟩

theorem ReadFrom.addAll (h : draft.ReadFrom schema pairs) {more : List (Tree × Tree)}
    (added : draft.addAll schema context more = .ok next) : next.ReadFrom schema (pairs ++ more) := by
  induction more generalizing draft pairs with
  | nil =>
    cases added
    simpa using h
  | cons pair rest ih =>
    simp only [Draft.addAll] at added
    split at added
    · cases added
    · rename_i middle first
      have all := ih (h.add first) added
      rwa [List.append_assoc] at all

theorem readFrom_empty : ({} : Draft).ReadFrom schema [] := by
  constructor <;> intro _ said <;> cases said

end Draft

structure Rule.ReadFrom (schema : Schema) (pairs : List (Tree × Tree)) (rule : Rule) : Prop where
  name : (Tree.scalar "name", Tree.scalar rule.name) ∈ pairs
  named : rule.name ≠ ""
  conditions : ∀ set, rule.conditionSet = some set →
    ∃ lines, (Tree.scalar "conditions", Tree.sequence lines) ∈ pairs ∧
      conditionSetOf schema lines = .ok set
  facts : ∀ facts, rule.facts = some facts →
    ∃ lines, (Tree.scalar "facts", Tree.sequence lines) ∈ pairs ∧
      factsFrom schema [] lines = .ok facts
  actions : ∀ actions, rule.actions = some actions →
    ∃ lines, (Tree.scalar "actions", Tree.sequence lines) ∈ pairs ∧ actionsFrom [] lines = .ok actions
  isFinal : rule.isFinal = rule.conditions.any (·.operator.isPresenceCheck)

theorem Draft.ReadFrom.rule {pairs : List (Tree × Tree)} {rule : Rule}
    (h : draft.ReadFrom schema pairs) (made : draft.rule context = .ok rule) :
    rule.ReadFrom schema pairs := by
  unfold Draft.rule at made
  split at made
  · cases made
  · rename_i name said
    cases made
    obtain ⟨member, filled⟩ := h.name name said
    refine ⟨member, filled, h.conditions, h.facts, h.actions, ?_⟩
    cases draft.conditions <;> simp [Rule.conditions]

theorem readRule_eq_ok {tree : Tree} {rule : Rule} (h : readRule schema tree = .ok rule) :
    ∃ pairs, tree = .mapping pairs ∧ rule.ReadFrom schema pairs := by
  unfold readRule at h
  split at h
  · cases h
  · rename_i pairs mapping
    split at h
    · cases h
    · rename_i draft read
      exact ⟨pairs, Tree.pairs?_eq_some.mp mapping, (Draft.readFrom_empty.addAll read).rule h⟩

namespace Rule

variable {rule : Rule} {pairs : List (Tree × Tree)}

theorem mem_conditions {c : Condition} :
    c ∈ rule.conditions ↔ ∃ set, rule.conditionSet = some set ∧ c ∈ set.conditions := by
  cases set : rule.conditionSet <;> simp [conditions, set]

/-! Conditions, facts and actions are each read from a line. -/

theorem ReadFrom.exists_condition (h : rule.ReadFrom schema pairs) {c : Condition}
    (member : c ∈ rule.conditions) : ∃ line, readCondition schema line = .ok (.condition c) := by
  obtain ⟨set, said, present⟩ := mem_conditions.mp member
  obtain ⟨lines, _, read⟩ := h.conditions set said
  obtain ⟨line, _, each⟩ := exists_left_of_forall₂ (conditionSetOf_eq_ok read).2.1 present
  exact ⟨line, each⟩

theorem ReadFrom.asserted (h : rule.ReadFrom schema pairs) :
    (rule.asserted.map Fact.id).Nodup ∧
      ∀ fact ∈ rule.asserted, ∃ line, readFact schema line = .ok fact := by
  apply gather_getD
  intro facts said
  obtain ⟨lines, _, read⟩ := h.facts facts said
  exact ⟨lines, factsFrom_eq_gather [] lines ▸ read⟩

theorem ReadFrom.triggered (h : rule.ReadFrom schema pairs) :
    (rule.triggered.map Action.text).Nodup ∧
      ∀ action ∈ rule.triggered, ∃ line, readAction line = .ok action := by
  apply gather_getD
  intro actions said
  obtain ⟨lines, _, read⟩ := h.actions actions said
  exact ⟨lines, actionsFrom_eq_gather [] lines ▸ read⟩

end Rule

namespace RuleTable

theorem ofTree_eq_ok_iff {tree : Tree} {table : RuleTable} :
    ofTree schema tree = .ok table ↔ ∃ items, tree = .sequence items ∧
      List.Forall₂ (fun item rule => readRule schema item = .ok rule) items table ∧
      (table.map Rule.name).Nodup := by
  cases tree with
  | sequence items =>
    simp only [ofTree, Tree.items?, readFrom_eq_gather, gather_distinct, Tree.sequence.injEq,
      exists_eq_left']
  | scalar | mapping => simp [ofTree, Tree.items?]

end RuleTable

end Deduce
