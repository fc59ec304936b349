import Deduce.Proofs.Reading.Rendering
import Deduce.Proofs.Run

/-!
# Runs of well-typed rules

Well-typed rules on well-typed facts fail in two ways only: an order is asked of a type that has none,
or a fact that is established would change. In particular no comparison meets two types or an unset
value, no condition lacks its value, and the limit on passes is never met. Only an integer that is
supplied with too many digits can keep the error from being told.
-/

namespace Deduce

inductive RuleTable.MayFail (schema : Schema) (table : RuleTable) : Error → Prop where
  | unsupported {rule : Rule} {c : Condition} {type : ScalarType} : rule ∈ table →
      c ∈ rule.conditions → schema.get? c.id = some type → type = .string ∨ type = .bool →
      c.operator ∈ [.lessThan, .greaterThan, .lessOrEqual, .greaterOrEqual] →
      MayFail schema table
        (((Error.unsupportedOperation type c.operator).within (.condition c)).within
          (.rule rule.name))
  | contradiction {established new : Fact} : established.id = new.id →
      established.value.compare .equal new.value = .ok false →
      MayFail schema table (.establishedFact established new)

variable {schema : Schema}

theorem RuleTable.MayFail.mono {table rules : RuleTable} {e : Error} (h : rules.MayFail schema e)
    (fewer : rules ⊆ table) : table.MayFail schema e := by
  cases h with
  | unsupported member condition declared type operator =>
    exact .unsupported (fewer member) condition declared type operator
  | contradiction same differs => exact .contradiction same differs

theorem ScalarType.order_of_not_supports {type : ScalarType} {op : Operator}
    (comparison : op.isComparison = true) (unsupported : type.supports op = false) :
    (type = .string ∨ type = .bool) ∧
      op ∈ [Operator.lessThan, .greaterThan, .lessOrEqual, .greaterOrEqual] := by
  cases type with
  | int | decimal =>
    rw [supports, comparison] at unsupported
    cases unsupported
  | string | bool =>
    refine ⟨by simp, ?_⟩
    cases op <;> first | cases comparison; done | cases unsupported; done | simp

namespace State

variable {s : State}

theorem pass_mayFail (typed : s.WellTyped schema) {failure : Failure}
    (h : s.pass.result = .error failure) :
    ∃ e, failure = .error e ∧ s.remaining.MayFail schema e := by
  obtain ⟨rule, member, _, learned, sources, failed⟩ := Pass.ofRules_eq_error h
  obtain ⟨c, condition, inner, failed, same⟩ := Rule.outcome_eq_error failed
  have known := typed.known.learnAll (typed.remaining.asserts.facts sources)
  obtain ⟨type, declared, comparison, unsupported, inner'⟩ :=
    Condition.outcome_eq_error ((typed.remaining rule member).conditions c condition) known failed
  obtain ⟨types, operators⟩ := ScalarType.order_of_not_supports comparison unsupported
  rw [inner'] at same
  exact ⟨_, same, .unsupported member condition declared types operators⟩

theorem progress_mayFail (typed : s.WellTyped schema) {start : Facts} {table : RuleTable}
    (stems : s.StemsFrom start table) {failure : Failure} (h : s.progress = .error failure) :
    (∃ e, failure = .error e ∧ table.MayFail schema e) ∨ failure = .defect (.tooManyDigits none) ∧
      ∃ fact : Fact, fact.StemsFrom start table ∧ fact.value.isWritable = false := by
  rcases progress_eq_error h with failed | ⟨result, swept, failed⟩
  · obtain ⟨e, same, mayFail⟩ := pass_mayFail typed failed
    exact .inl ⟨e, same, mayFail.mono stems.remaining⟩
  · obtain ⟨front, new, back, established, split, same, _, stands, differs⟩ :=
      Facts.establish_eq_error typed.known (typed.produced swept) failed
    rcases Failure.contradiction_cases established new with told | ⟨untold, known | added⟩
    · exact .inl ⟨_, same.trans told, .contradiction (Facts.id_of_find? stands) differs⟩
    · have source := stems.learned swept established (List.mem_of_find?_eq_some stands)
      exact .inr ⟨same.trans untold, established, source, known⟩
    · have source := stems.produced swept new (by simp [split])
      exact .inr ⟨same.trans untold, new, .inr source, added⟩

end State

theorem Course.outcome_mayFail {s : State} {run : Run} (course : Course s run)
    (typed : s.WellTyped schema) {failure : Failure} (h : run.outcome = .error failure) :
    (∃ e, failure = .error e ∧ s.remaining.MayFail schema e) ∨
      failure = .defect (.tooManyDigits none) ∧
        ∃ fact : Fact, fact.StemsFrom s.known s.remaining ∧ fact.value.isWritable = false := by
  obtain ⟨t, stems, failed⟩ := course.exists_failed (.refl s) h
  exact t.progress_mayFail (stems.wellTyped typed.known typed.remaining) stems failed

namespace Engine

theorem isWritable_of_stemsFrom {engine : Engine} {tree : Tree}
    (accepted : RuleTable.ofTree engine.schema tree = .ok engine.rules) {supplied : Supplied}
    (written : supplied.IsWritable) {start : Facts}
    (known : engine.schema.knownFrom supplied = .ok start) {fact : Fact}
    (stems : fact.StemsFrom start engine.rules) : fact.value.isWritable = true := by
  rcases stems with old | ⟨rule, member, asserted⟩
  · exact Schema.knownFrom_isWritable written known old
  · exact RuleTable.isWritable_of_asserted accepted member asserted

/-- A run of rules that were read against the schema fails only on a supplied entry that the schema
refuses, on an order of strings or truth values, or on a contradiction. The error is not told if an
integer was supplied with too many digits to be written out. -/
theorem run_fails_only {engine : Engine} {tree : Tree}
    (accepted : RuleTable.ofTree engine.schema tree = .ok engine.rules) {supplied : Supplied}
    (wellFormed : supplied.IsWellFormed) {failure : Failure}
    (failed : (engine.run (some supplied)).2 = .error failure) :
    (∃ e, failure = .error e ∧
      ((∃ entry ∈ supplied, engine.schema.Refuses entry e) ∨
        engine.rules.MayFail engine.schema e)) ∨
    failure = .defect (.tooManyDigits none) ∧ ¬ supplied.IsWritable := by
  cases known : engine.schema.knownFrom supplied with
  | error failure' =>
    rw [run_of_refused known, Except.error.injEq] at failed
    subst failed
    obtain ⟨entry, member, ⟨e, same, refused⟩ | ⟨same, overlong⟩⟩ := Schema.knownFrom_eq_error known
    · exact .inl ⟨e, same, .inl ⟨entry, member, refused⟩⟩
    · exact .inr ⟨same, fun written => by simp [written entry member] at overlong⟩
  | ok start =>
    rw [run_of_accepted known, map_eq_error] at failed
    have typed : State.WellTyped engine.schema { known := start, remaining := engine.rules } :=
      ⟨Schema.knownFrom_wellTyped wellFormed known, RuleTable.ofTree_wellTyped accepted⟩
    rcases (engine.rules.run_course start).outcome_mayFail typed failed with
      ⟨e, same, mayFail⟩ | ⟨same, fact, stems, overlong⟩
    · exact .inl ⟨e, same, .inr mayFail⟩
    · exact .inr ⟨same, fun written => by
        simp [isWritable_of_stemsFrom accepted written known stems] at overlong⟩

def orderingStrings : Engine where
  schema := ⟨"facts", [("S", .string)], by decide⟩
  rules := [{
    name := "ordered"
    conditionSet := some ⟨true, [⟨"S", .lessThan, some ⟨.string, some (.string "b")⟩⟩]⟩ }]

theorem orderingStrings_fails_only :
    RuleTable.ofTree orderingStrings.schema (.sequence [.mapping [(.scalar "name", .scalar "ordered"),
      (.scalar "conditions", .sequence [.scalar "S < b"])]]) = .ok orderingStrings.rules ∧
    ∃ e, (orderingStrings.run (some [("S", .string "a")])).2 = .error (.error e) ∧
      ((∃ entry ∈ [("S", Native.string "a")], orderingStrings.schema.Refuses entry e) ∨
        orderingStrings.rules.MayFail orderingStrings.schema e) := by
  have accepted : RuleTable.ofTree orderingStrings.schema (.sequence [
      .mapping [(.scalar "name", .scalar "ordered"),
        (.scalar "conditions", .sequence [.scalar "S < b"])]]) = .ok orderingStrings.rules := rfl
  have wellFormed : Supplied.IsWellFormed [("S", .string "a")] := .singleton trivial
  refine ⟨accepted, _, rfl, ?_⟩
  obtain ⟨e, same, cause⟩ | ⟨same, _⟩ := run_fails_only accepted wellFormed rfl <;> cases same
  exact cause

end Engine

end Deduce
