import Deduce.Engine
import Deduce.Proofs.Reading.Lines
import Deduce.Proofs.Typing.Reading

/-!
# Overlong integers

Rules that are refused are refused with an error, except for one thing: an integer literal of more
digits than can be converted is a defect. It is met only if everything in front of it is accepted, and
it leaves the engine without a word about the rule.
-/

namespace Deduce

/-- Between blanks, the literal is `digits` digits behind an optional sign, too many to be converted. -/
def IsOverlong (literal : String) (digits : Nat) : Prop :=
  ∃ sign number, Text.strip literal.toList = sign ++ number ∧
    (sign = [] ∨ sign = ['+'] ∨ sign = ['-']) ∧ (∀ c ∈ number, c.isDigit = true) ∧
    number.length = digits ∧ maxIntDigits < digits

inductive Schema.Overlong (schema : Schema) : Attribute → Tree → Nat → Prop where
  /-- The word in the middle need not be a comparison. -/
  | condition {id token literal digits} : ' ' ∉ id.toList → ' ' ∉ token.toList →
      schema.get? id = some .int → IsOverlong literal digits →
      Overlong schema .conditions (.scalar (id ++ " " ++ token ++ " " ++ literal)) digits
  | fact {id literal digits} : ' ' ∉ id.toList →
      schema.get? id = some .int → IsOverlong literal digits →
      Overlong schema .facts (.scalar (id ++ " = " ++ literal)) digits

/-- The pairs are accepted as attributes of a rule. What describes the rule counts in errors only. -/
def Schema.AcceptsPairs (schema : Schema) (pairs : List (Tree × Tree)) : Prop :=
  ∃ context draft, ({} : Draft).addAll schema context pairs = .ok draft

/-- In reading order, the line of an attribute is the first element of a document that is not
accepted: the rules in front of its rule are, and of its rule the pairs and lines in front of it. -/
inductive Schema.FirstRefused (schema : Schema) : Tree → Attribute → Tree → Prop where
  | line {rules table moreRules pairs morePairs a lines line more} :
      RuleTable.ofTree schema (.sequence rules) = .ok table →
      schema.AcceptsPairs (pairs ++ [(.scalar a.key, .sequence lines)]) →
      ¬ schema.AcceptsPairs (pairs ++ [(.scalar a.key, .sequence (lines ++ [line]))]) →
      FirstRefused schema
        (.sequence (rules ++ .mapping
          (pairs ++ (.scalar a.key, .sequence (lines ++ line :: more)) :: morePairs) :: moreRules))
        a line

theorem Decimal.splitSign_append {sign number : List Char}
    (signed : sign = [] ∨ sign = ['+'] ∨ sign = ['-']) (digits : ∀ c ∈ number, c.isDigit = true) :
    (splitSign (sign ++ number)).2 = number := by
  rcases signed with rfl | rfl | rfl
  · rw [List.nil_append]
    unfold splitSign
    split
    · exact absurd (digits '-' List.mem_cons_self) (by decide)
    · exact absurd (digits '+' List.mem_cons_self) (by decide)
    · rfl
  · rfl
  · rfl

theorem Decimal.exists_sign (cs : List Char) :
    ∃ sign, cs = sign ++ (splitSign cs).2 ∧ (sign = [] ∨ sign = ['+'] ∨ sign = ['-']) := by
  unfold splitSign
  split
  · exact ⟨['-'], rfl, by simp⟩
  · exact ⟨['+'], rfl, by simp⟩
  · exact ⟨[], rfl, by simp⟩

theorem splitInteger?_eq_some {cs number : List Char} {negative : Bool} :
    splitInteger? cs = some (negative, number) ↔
      Decimal.splitSign cs = (negative, number) ∧ number ≠ [] ∧ ∀ c ∈ number, c.isDigit = true := by
  unfold splitInteger?
  obtain ⟨negative', number'⟩ := Decimal.splitSign cs
  simp only [Option.ite_none_left_eq_some, Bool.or_eq_true, List.isEmpty_iff, Bool.not_eq_true',
    not_or, Bool.not_eq_false, List.all_eq_true, Option.some.injEq, Prod.mk.injEq]
  constructor
  · rintro ⟨digits, rfl, rfl⟩
    exact ⟨⟨rfl, rfl⟩, digits⟩
  · rintro ⟨⟨rfl, rfl⟩, digits⟩
    exact ⟨digits, rfl, rfl⟩

theorem readInteger_eq_error {literal : String} {d : Defect} :
    readInteger literal.toList = .error d ↔
      ∃ digits, IsOverlong literal digits ∧ d = .tooManyDigits (some digits) := by
  unfold readInteger
  constructor
  · intro h
    split at h
    · cases h
    · rename_i negative number split
      obtain ⟨signed, _, all⟩ := splitInteger?_eq_some.mp split
      split at h
      · rename_i many
        cases h
        obtain ⟨sign, stripped, either⟩ := Decimal.exists_sign (Text.strip literal.toList)
        rw [signed] at stripped
        exact ⟨_, ⟨sign, number, stripped, either, all, rfl, many⟩, rfl⟩
      · cases h
  · rintro ⟨digits, ⟨sign, number, stripped, either, all, rfl, many⟩, rfl⟩
    have filled : number ≠ [] := by
      rintro rfl
      cases many
    have split : splitInteger? (Text.strip literal.toList) =
        some ((Decimal.splitSign (sign ++ number)).1, number) := by
      rw [splitInteger?_eq_some, stripped]
      exact ⟨Prod.ext rfl (Decimal.splitSign_append either all), filled, all⟩
    simp only [split, if_pos many]

theorem IsOverlong.ne_empty {literal : String} {digits : Nat} (h : IsOverlong literal digits) :
    literal ≠ "" := by
  rintro rfl
  obtain ⟨sign, number, stripped, _, _, rfl, many⟩ := h
  have nothing : sign = [] ∧ number = [] := by simpa using stripped.symm
  rw [nothing.2] at many
  cases many

theorem Value.ofLiteral_eq_error {type : ScalarType} {literal : String} {d : Defect} :
    Value.ofLiteral type literal = .error d ↔
      type = .int ∧ ∃ digits, IsOverlong literal digits ∧ d = .tooManyDigits (some digits) := by
  unfold Value.ofLiteral
  split
  · rename_i empty
    simp only [reduceCtorEq, false_iff, not_and, not_exists]
    exact fun _ digits overlong _ => overlong.ne_empty (by simpa using empty)
  · rw [map_eq_error]
    cases type with
    | int => simp [ScalarType.read, map_eq_error, readInteger_eq_error]
    | string | decimal | bool => simp [ScalarType.read]

def Schema.BreaksOn (schema : Schema) (a : Attribute) (line : Tree) (d : Defect) : Prop :=
  ∃ digits, schema.Overlong a line digits ∧ d = .tooManyDigits (some digits)

variable {schema : Schema}

theorem Schema.fact_eq_defect {id literal : String} {d : Defect} :
    schema.fact id literal = .error (.defect d) ↔
      schema.get? id = some .int ∧
        ∃ digits, IsOverlong literal digits ∧ d = .tooManyDigits (some digits) := by
  unfold Schema.fact
  cases declared : schema.lookup id with
  | error e => simp [(lookup_eq_error declared).1]
  | ok type =>
    rw [lookup_eq_ok.mp declared, Option.some.injEq, ← Value.ofLiteral_eq_error]
    dsimp only
    cases Value.ofLiteral type literal with
    | error d' => simp
    | ok value => by_cases unset : value.isUnset <;> simp [unset]

theorem text?_of_spaces (front back : String) :
    (Tree.scalar (front ++ " " ++ back)).text? = some (front ++ " " ++ back) := by
  rw [Tree.text?_eq_some]
  simp

theorem readCondition_eq_defect {line : Tree} {d : Defect} :
    readCondition schema line = .error (.defect d) ↔ schema.BreaksOn .conditions line d := by
  constructor
  · intro h
    unfold readCondition at h
    split at h
    · cases h
    · rename_i text said
      obtain ⟨rfl, _⟩ := Tree.text?_eq_some.mp said
      unfold readConditionText at h
      split at h
      · split at h
        · split at h <;> cases h
        · split at h <;> cases h
      · cases h
      · rename_i id token literal parts
        obtain ⟨rfl, first, second⟩ := Line.ofText_eq_three.mp parts
        split at h
        · rename_i failure failed
          cases h
          obtain ⟨declared, digits, overlong, rfl⟩ :=
            Schema.fact_eq_defect.mp (atPlace_eq_defect.mp failed)
          exact ⟨digits, .condition first second declared overlong, rfl⟩
        · split at h <;> cases h
  · rintro ⟨digits, @⟨id, token, literal, _, first, second, declared, overlong⟩, rfl⟩
    have said := text?_of_spaces (id ++ " " ++ token) literal
    have parts : Line.ofText (id ++ " " ++ token ++ " " ++ literal) = .three id token literal :=
      Line.ofText_eq_three.mpr ⟨rfl, first, second⟩
    have failed := Schema.fact_eq_defect.mpr ⟨declared, digits, overlong, rfl⟩
    simp only [readCondition, said, readConditionText, parts, atPlace_eq_defect.mpr failed]

theorem readFact_eq_defect {line : Tree} {d : Defect} :
    readFact schema line = .error (.defect d) ↔ schema.BreaksOn .facts line d := by
  have equals (id literal : String) : id ++ " = " ++ literal = id ++ " " ++ "=" ++ " " ++ literal := by
    simp [String.append_assoc]
  constructor
  · intro h
    unfold readFact at h
    split at h
    · cases h
    · rename_i text said
      obtain ⟨rfl, _⟩ := Tree.text?_eq_some.mp said
      unfold readFactText at h
      split at h
      · rename_i id literal parts
        obtain ⟨rfl, first, _⟩ := Line.ofText_eq_three.mp parts
        obtain ⟨declared, digits, overlong, rfl⟩ :=
          Schema.fact_eq_defect.mp (atPlace_eq_defect.mp h)
        rw [← equals]
        exact ⟨digits, .fact first declared overlong, rfl⟩
      · cases h
  · rintro ⟨digits, _ | @⟨id, literal, _, first, declared, overlong⟩, rfl⟩
    have said := text?_of_spaces (id ++ " " ++ "=") literal
    have parts : Line.ofText (id ++ " " ++ "=" ++ " " ++ literal) = .three id "=" literal :=
      Line.ofText_eq_three.mpr ⟨rfl, first, by decide⟩
    have failed := Schema.fact_eq_defect.mpr ⟨declared, digits, overlong, rfl⟩
    rw [equals]
    simp only [readFact, said, readFactText, parts, atPlace_eq_defect.mpr failed]

theorem readAction_ne_defect (line : Tree) (d : Defect) : readAction line ≠ .error (.defect d) := by
  unfold readAction readActionText
  split
  · simp
  · split
    · split <;> simp
    · simp

theorem readConditions_eq_defect {value : Tree} {d : Defect} :
    readConditions schema value = .error (.defect d) ↔
      ∃ lines line more, value = .sequence (lines ++ line :: more) ∧
        (∃ set, readConditions schema (.sequence lines) = .ok set) ∧
        schema.BreaksOn .conditions line d := by
  cases value with
  | scalar | mapping => simp [readConditions, Tree.items?]
  | sequence lines =>
    simp only [readConditions, Tree.items?, conditionSetOf_eq_defect_iff, readCondition_eq_defect,
      Tree.sequence.injEq, exists_and_left, exists_and_right]

theorem readFacts_eq_defect {value : Tree} {d : Defect} :
    readFacts schema value = .error (.defect d) ↔
      ∃ lines line more, value = .sequence (lines ++ line :: more) ∧
        (∃ facts, readFacts schema (.sequence lines) = .ok facts) ∧
        schema.BreaksOn .facts line d := by
  cases value with
  | scalar | mapping => simp [readFacts, Tree.items?]
  | sequence lines =>
    simp only [readFacts, Tree.items?, factsFrom_eq_gather, gather_eq_defect_iff, readFact_eq_defect,
      Tree.sequence.injEq, exists_and_left, exists_and_right]

theorem readActions_ne_defect (value : Tree) (d : Defect) :
    readActions value ≠ .error (.defect d) := by
  cases value with
  | scalar | mapping => simp [readActions, Tree.items?]
  | sequence lines =>
    simp [readActions, Tree.items?, actionsFrom_eq_gather, gather_eq_defect_iff, readAction_ne_defect]

/-- Only conditions and facts have literals. -/
theorem not_breaksOn {a : Attribute} (other : a ≠ .conditions ∧ a ≠ .facts) (line : Tree)
    (d : Defect) : ¬ schema.BreaksOn a line d := by
  rintro ⟨digits, overlong, _⟩
  cases overlong with
  | condition => exact other.1 rfl
  | fact => exact other.2 rfl

namespace Draft

variable {draft next : Draft} {context : String}

theorem set_eq_defect {value : Tree} {a : Attribute} {d : Defect} :
    draft.set schema value a = .error (.defect d) ↔
      ∃ lines line more, value = .sequence (lines ++ line :: more) ∧
        (∃ next, draft.set schema (.sequence lines) a = .ok next) ∧ schema.BreaksOn a line d := by
  cases a with
  | name | description => simp [set, not_breaksOn]
  | conditions => simp only [set, map_eq_error, readConditions_eq_defect, exists_map_eq_ok]
  | facts => simp only [set, map_eq_error, readFacts_eq_defect, exists_map_eq_ok]
  | actions => simp [set, map_eq_error, readActions_ne_defect, not_breaksOn]

theorem addAll_eq_defect {pairs : List (Tree × Tree)} {d : Defect} :
    draft.addAll schema context pairs = .error (.defect d) ↔
      ∃ front a lines line more back,
        pairs = front ++ (.scalar a.key, .sequence (lines ++ line :: more)) :: back ∧
        (∃ next, draft.addAll schema context (front ++ [(.scalar a.key, .sequence lines)]) =
          .ok next) ∧
        schema.BreaksOn a line d := by
  simp only [addAll_eq_error_iff, add_eq_defect_iff, addAll_append]
  constructor
  · rintro ⟨front, _, value, back, middle, rfl, accepted, a, rfl, new, failed⟩
    obtain ⟨lines, line, more, rfl, ⟨next, read⟩, breaks⟩ := set_eq_defect.mp failed
    refine ⟨front, a, lines, line, more, back, rfl, ⟨next, ?_⟩, breaks⟩
    rw [accepted, Except.bind, addAll_single]
    exact add_eq_ok_iff.mpr ⟨a, rfl, new, read⟩
  · rintro ⟨front, a, lines, line, more, back, rfl, ⟨next, accepted⟩, breaks⟩
    cases before : draft.addAll schema context front with
    | error failure =>
      rw [before] at accepted
      cases accepted
    | ok middle =>
      rw [before, Except.bind, addAll_single] at accepted
      obtain ⟨a', key, new, read⟩ := add_eq_ok_iff.mp accepted
      have same := Attribute.key_inj (Tree.scalar.inj key)
      subst same
      refine ⟨front, _, _, back, middle, rfl, before, a, rfl, new, ?_⟩
      exact set_eq_defect.mpr ⟨lines, line, more, rfl, ⟨next, read⟩, breaks⟩

theorem rule_ne_defect (d : Defect) : draft.rule context ≠ .error (.defect d) := by
  unfold rule
  split <;> simp

end Draft

/-- Whether pairs are accepted does not depend on what describes their rule. -/
theorem Schema.acceptsPairs_iff {pairs : List (Tree × Tree)} (context : String) :
    schema.AcceptsPairs pairs ↔
      ∃ draft, ({} : Draft).addAll schema context pairs = .ok draft := by
  constructor
  · rintro ⟨_, draft, accepted⟩
    exact ⟨draft, Draft.addAll_eq_ok_congr accepted context⟩
  · exact fun accepted => ⟨context, accepted⟩

theorem readRule_eq_defect {item : Tree} {d : Defect} :
    readRule schema item = .error (.defect d) ↔
      ∃ front a lines line more back,
        item = .mapping (front ++ (.scalar a.key, .sequence (lines ++ line :: more)) :: back) ∧
        schema.AcceptsPairs (front ++ [(.scalar a.key, .sequence lines)]) ∧
        schema.BreaksOn a line d := by
  cases item with
  | scalar | sequence => simp [readRule, Tree.pairs?]
  | mapping pairs =>
    have stops : readRule schema (.mapping pairs) = .error (.defect d) ↔
        ({} : Draft).addAll schema (Tree.mapping pairs).flowText pairs = .error (.defect d) := by
      simp only [readRule, Tree.pairs?]
      split
      · rename_i failure failed
        simp [failed]
      · rename_i draft read
        simp [read, Draft.rule_ne_defect]
    simp only [stops, Draft.addAll_eq_defect, Tree.mapping.injEq,
      Schema.acceptsPairs_iff (Tree.mapping pairs).flowText]

theorem Schema.BreaksOn.refuses {a : Attribute} {line : Tree} {d : Defect}
    (h : schema.BreaksOn a line d) {pairs : List (Tree × Tree)} {lines : List Tree}
    (accepted : schema.AcceptsPairs (pairs ++ [(.scalar a.key, .sequence lines)])) :
    ¬ schema.AcceptsPairs (pairs ++ [(.scalar a.key, .sequence (lines ++ [line]))]) := by
  rintro ⟨context, draft, more⟩
  have failed : ({} : Draft).addAll schema context
      (pairs ++ [(.scalar a.key, .sequence (lines ++ [line]))]) = .error (.defect d) :=
    Draft.addAll_eq_defect.mpr
      ⟨pairs, a, lines, line, [], [], rfl, (acceptsPairs_iff context).mp accepted, h⟩
  rw [more] at failed
  cases failed

namespace RuleTable

theorem ofTree_eq_defect {root : Tree} {d : Defect} :
    ofTree schema root = .error (.defect d) ↔
      ∃ rules item moreRules table, root = .sequence (rules ++ item :: moreRules) ∧
        ofTree schema (.sequence rules) = .ok table ∧ readRule schema item = .error (.defect d) := by
  cases root with
  | scalar | mapping => simp [ofTree, Tree.items?]
  | sequence items =>
    simp only [ofTree, Tree.items?, readFrom_eq_gather, gather_eq_defect_iff, Tree.sequence.injEq]

theorem ofTree_eq_defect_iff {root : Tree} {d : Defect} :
    ofTree schema root = .error (.defect d) ↔
      ∃ a line, schema.FirstRefused root a line ∧ schema.BreaksOn a line d := by
  rw [ofTree_eq_defect]
  constructor
  · rintro ⟨rules, item, moreRules, table, rfl, before, failed⟩
    obtain ⟨front, a, lines, line, more, back, rfl, accepted, breaks⟩ :=
      readRule_eq_defect.mp failed
    exact ⟨a, line, .line before accepted (breaks.refuses accepted), breaks⟩
  · rintro ⟨a, line, @⟨rules, table, moreRules, front, back, _, lines, _, more, before, accepted, _⟩,
      breaks⟩
    refine ⟨rules, _, moreRules, table, rfl, before, readRule_eq_defect.mpr ?_⟩
    exact ⟨front, a, lines, line, more, back, rfl, accepted, breaks⟩

end RuleTable

/-- The schema that an engine is created with is given or configured, and its source of rules holds
the document. -/
structure Engine.Reads (files : Files) (settings : Settings) (given : Option Schema)
    (filename content : Option String) (schema : Schema) (root : Tree) : Prop where
  schema : given = some schema ∨
    given = none ∧ (configuredSchema files settings).2 = .ok schema
  document : ∃ text, sourceText files
      (if filename.isNone && content.isNone then some settings.rulesFile else filename) content =
        .ok text ∧ Tree.ofText text = .ok root

theorem Engine.Reads.create {files : Files} {settings : Settings} {given : Option Schema}
    {filename content : Option String} {root : Tree}
    (h : Reads files settings given filename content schema root) :
    (Engine.create files settings given filename content).2 =
      ((RuleTable.ofTree schema root).mapError readingRules).map (Engine.mk schema) := by
  obtain ⟨text, source, tree⟩ := h.document
  have read (filename : Option String) (same : sourceText files filename content = .ok text) :
      (ofSchema files schema filename content).2 =
        ((RuleTable.ofTree schema root).mapError readingRules).map (Engine.mk schema) := by
    simp only [ofSchema, same, Except.bind, RuleTable.ofText, tree]
    cases RuleTable.ofTree schema root <;> rfl
  unfold Engine.create
  rcases h.schema with rfl | ⟨rfl, configured⟩
  · exact read _ source
  · generalize configuredSchema files settings = found at configured ⊢
    obtain ⟨journal, answer⟩ := found
    dsimp only at configured
    subst configured
    exact read _ source

def nines (digits : Nat) : String := String.ofList (List.replicate digits '9')

theorem isOverlong_nines {digits : Nat} (many : maxIntDigits < digits) :
    IsOverlong (nines digits) digits := by
  refine ⟨[], List.replicate digits '9', ?_, .inl rfl, ?_, List.length_replicate, many⟩
  · rw [nines, String.toList_ofList, List.nil_append]
    apply Text.strip_eq_self
    · intro c first
      rw [List.eq_of_mem_replicate (List.mem_of_mem_head? first)]
      decide
    · intro c last
      rw [List.eq_of_mem_replicate (List.mem_of_mem_getLast? last)]
      decide
  · intro c member
    rw [List.eq_of_mem_replicate member]
    decide

namespace RuleTable

structure ReadingEnds (schema : Schema) (root : Tree) : Prop where
  ends : (∃ table, ofTree schema root = .ok table) ∨
    (∃ e, ofTree schema root = .error (.error e)) ∨
    ∃ digits, ofTree schema root = .error (.defect (.tooManyDigits (some digits)))
  defect : ∀ digits, ofTree schema root = .error (.defect (.tooManyDigits (some digits))) ↔
    ∃ a line, schema.FirstRefused root a line ∧ schema.Overlong a line digits
  /-- A defect is left as it is. -/
  kept : ∀ files settings given filename content,
    Engine.Reads files settings given filename content schema root →
      ∀ d, ofTree schema root = .error (.defect d) →
        (Engine.create files settings given filename content).2 = .error (.defect d)
  /-- An error gets a prefix and keeps its details. -/
  prefixed : ∀ files settings given filename content,
    Engine.Reads files settings given filename content schema root →
      ∀ e, ofTree schema root = .error (.error e) →
        ∃ e', (Engine.create files settings given filename content).2 = .error (.error e') ∧
          e'.message = "Cannot read YAML rules: " ++ e.message ∧ e'.details = e.details

/-- An overlong integer is the one thing that is refused without an error. -/
theorem reading_ends (schema : Schema) (root : Tree) : ReadingEnds schema root := by
  constructor
  case ends =>
    cases answer : ofTree schema root with
    | ok table => exact .inl ⟨table, rfl⟩
    | error failure =>
      cases failure with
      | error e => exact .inr (.inl ⟨e, rfl⟩)
      | defect d =>
        obtain ⟨_, _, _, digits, _, rfl⟩ := ofTree_eq_defect_iff.mp answer
        exact .inr (.inr ⟨digits, rfl⟩)
  case defect =>
    intro digits
    rw [ofTree_eq_defect_iff]
    constructor
    · rintro ⟨a, line, refused, _, overlong, same⟩
      cases same
      exact ⟨a, line, refused, overlong⟩
    · rintro ⟨a, line, refused, overlong⟩
      exact ⟨a, line, refused, digits, overlong, rfl⟩
  case kept =>
    intro files settings given filename content reads d failed
    rw [reads.create, failed]
    rfl
  case prefixed =>
    intro files settings given filename content reads e failed
    rw [reads.create, failed]
    exact ⟨.readingRules e, rfl, rfl, rfl⟩

/-- The literal is looked at before the word in front of it. -/
theorem nines_reading_ends :
    ofTree ⟨"facts", [("n", .int)], by decide⟩ (.sequence [.mapping [
        (.scalar "name", .scalar "late"),
        (.scalar "conditions", .sequence [.scalar "or",
          .scalar ("n" ++ " " ++ "is" ++ " " ++ nines 4301)])]]) =
      .error (.defect (.tooManyDigits (some 4301))) ∧
    ∃ e, (Engine.create {} {} (some ⟨"facts", [("n", .int)], by decide⟩) none (some "none")).2 =
        .error (.error e) ∧
      e.message = "Cannot read YAML rules: " ++ Error.notRuleList.message ∧ e.details = [] := by
  constructor
  · have overlong : Schema.Overlong ⟨"facts", [("n", .int)], by decide⟩ .conditions
        (.scalar ("n" ++ " " ++ "is" ++ " " ++ nines 4301)) 4301 :=
      .condition (by decide) (by decide) rfl (isOverlong_nines (by decide))
    have accepted : Schema.AcceptsPairs ⟨"facts", [("n", .int)], by decide⟩
        ([(.scalar "name", .scalar "late")] ++
          [(.scalar Attribute.conditions.key, .sequence [.scalar "or"])]) := ⟨"", _, rfl⟩
    exact ((reading_ends _ _).defect 4301).mpr
      ⟨.conditions, _, @Schema.FirstRefused.line _ [] [] [] _ [] .conditions _ _ [] rfl accepted
        (Schema.BreaksOn.refuses ⟨_, overlong, rfl⟩ accepted), overlong⟩
  · exact (reading_ends _ (.scalar "none")).prefixed {} {} _ none (some "none")
      ⟨.inl rfl, "none", rfl, rfl⟩ .notRuleList rfl

end RuleTable

end Deduce
