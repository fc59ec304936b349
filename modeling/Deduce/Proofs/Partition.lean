import Deduce.Proofs.Pass

/-!
# Passes in parts

A pass over one table and then another is a pass over the first and, on what is known behind it, a pass
over the second. Of its own rules it decides some and leaves the others, each in the order of the table,
and the rules of the other phase have no part in it.
-/

namespace Deduce

def decidedIn (evaluations : List Evaluation) : List Rule :=
  (evaluations.filter (·.outcome != .unknown)).map Evaluation.rule

theorem decidedIn_cons_of_unknown (rule : Rule) (known : Facts) (rest : List Evaluation) :
    decidedIn (⟨rule, known, .unknown⟩ :: rest) = decidedIn rest := rfl

theorem decidedIn_cons_of_ne {e : Evaluation} (decided : e.outcome ≠ .unknown)
    (rest : List Evaluation) : decidedIn (e :: rest) = e.rule :: decidedIn rest := by
  simp [decidedIn, decided]

theorem mem_decidedIn {evaluations : List Evaluation} {rule : Rule} :
    rule ∈ decidedIn evaluations ↔ ∃ e ∈ evaluations, e.outcome ≠ .unknown ∧ e.rule = rule := by
  simp [decidedIn, and_assoc]

/-- A pass over two tables is a pass over the first and then one over the second. -/
structure Pass.Composes (isFinal : Bool) (known : Facts) (first second : RuleTable) : Prop where
  succeeds : (∃ result, (ofRules isFinal known (first ++ second)).result = .ok result) ↔
    ∃ left right, (ofRules isFinal known first).result = .ok left ∧
      (ofRules isFinal (known.learnAll left.facts) second).result = .ok right
  joined : ∀ left right, (ofRules isFinal known first).result = .ok left →
    (ofRules isFinal (known.learnAll left.facts) second).result = .ok right →
      (ofRules isFinal known (first ++ second)).result =
        .ok ⟨left.facts ++ right.facts, left.actions ++ right.actions,
          left.remaining ++ right.remaining⟩
  firstFails : ∀ failure, (ofRules isFinal known first).result = .error failure →
    (ofRules isFinal known (first ++ second)).result = .error failure
  secondFails : ∀ left failure, (ofRules isFinal known first).result = .ok left →
    (ofRules isFinal (known.learnAll left.facts) second).result = .error failure →
      (ofRules isFinal known (first ++ second)).result = .error failure

/-- A pass over rules, with what it evaluates and what comes of it, splits them into those that remain
and those it decides. -/
structure Pass.Splits (isFinal : Bool) (known : Facts) (rules : RuleTable)
    (evaluations : List Evaluation) (result : PassResult) : Prop where
  evaluated : evaluations.map Evaluation.rule = rules.filter (·.isFinal == isFinal)
  /-- A rule is evaluated on what is known behind the rules before it. -/
  answered : ∀ front e back, evaluations = front ++ e :: back →
    e.rule.outcome (known.behind front) = .ok e.outcome
  all : rules.Perm (result.remaining ++ decidedIn evaluations)
  apart : result.remaining.Disjoint (decidedIn evaluations)
  inOrder : result.remaining.Sublist rules
  mem_remaining : ∀ rule ∈ rules, rule ∈ result.remaining ↔
    rule.isFinal ≠ isFinal ∨ ∃ e ∈ evaluations, e.rule = rule ∧ e.outcome = .unknown

variable {isFinal : Bool} {known : Facts} {rules : RuleTable}

namespace Sweep

variable {evaluations : List Evaluation} {result : PassResult}

theorem map_rule (h : Sweep isFinal known rules evaluations result) :
    evaluations.map Evaluation.rule = rules.filter (·.isFinal == isFinal) := by
  induction h with
  | finish => rfl
  | otherPhase other _ ih =>
    rw [List.filter_cons_of_neg (by simpa using other), ih]
  | leftOpen phase _ _ ih | dropped phase _ _ ih | fired phase _ _ ih =>
    rw [List.filter_cons_of_pos (by simpa using phase), List.map_cons, ih]

theorem perm (h : Sweep isFinal known rules evaluations result) :
    rules.Perm (result.remaining ++ decidedIn evaluations) := by
  induction h with
  | finish => exact .nil
  | otherPhase _ _ ih => exact ih.cons _
  | leftOpen _ _ _ ih =>
    rw [decidedIn_cons_of_unknown]
    exact ih.cons _
  | dropped _ _ _ ih | fired _ _ _ ih =>
    rw [decidedIn_cons_of_ne (by simp)]
    exact (ih.cons _).trans List.perm_middle.symm

theorem splits (h : Sweep isFinal known rules evaluations result) (distinct : rules.Nodup) :
    Pass.Splits isFinal known rules evaluations result := by
  have apart : result.remaining.Disjoint (decidedIn evaluations) :=
    List.disjoint_of_nodup_append (h.perm.nodup_iff.mp distinct)
  have once : (evaluations.map Evaluation.rule).Nodup := by
    rw [h.map_rule]
    exact distinct.filter _
  constructor
  case evaluated => exact h.map_rule
  case answered =>
    intro front e back split
    rw [← h.known_at split]
    exact (h.evaluated (split ▸ List.mem_append_right front List.mem_cons_self)).2.2.1
  case all => exact h.perm
  case apart => exact apart
  case inOrder => exact h.sublist
  case mem_remaining =>
    intro rule member
    refine ⟨h.open_of_remaining, fun waits => ?_⟩
    -- a rule that does not remain was decided, and it was evaluated only once
    refine (List.mem_append.mp (h.perm.mem_iff.mp member)).resolve_right fun decided => ?_
    obtain ⟨e, present, known, same⟩ := mem_decidedIn.mp decided
    rcases waits with other | ⟨e', present', same', unknown⟩
    · exact other (same ▸ (h.evaluated present).2.1)
    · have one := List.inj_on_of_nodup_map once present present' (same.trans same'.symm)
      exact known (one ▸ unknown)

end Sweep

namespace Pass

/-- A pass over two tables fails with the first of the two that fails, and joins what both produce. -/
theorem result_append (isFinal : Bool) (known : Facts) (first second : RuleTable) :
    (ofRules isFinal known (first ++ second)).result =
      match (ofRules isFinal known first).result with
      | .error failure => .error failure
      | .ok left =>
        (ofRules isFinal (known.learnAll left.facts) second).result.map left.followedBy := by
  cases swept : (ofRules isFinal known first).result with
  | error failure => rw [ofRules_append_of_error swept, swept]
  | ok left =>
    have sweep := ofRules_sweep swept
    rw [sweep.ofRules_append second, ← sweep.learnAll_facts]

theorem composes (isFinal : Bool) (known : Facts) (first second : RuleTable) :
    Composes isFinal known first second := by
  have whole := result_append isFinal known first second
  constructor
  case succeeds =>
    constructor
    · rintro ⟨result, swept⟩
      rw [whole] at swept
      cases swept' : (ofRules isFinal known first).result with
      | error failure =>
        rw [swept'] at swept
        cases swept
      | ok left =>
        rw [swept'] at swept
        obtain ⟨right, swept, _⟩ := map_eq_ok.mp swept
        exact ⟨left, right, rfl, swept⟩
    · rintro ⟨left, right, swept, swept'⟩
      rw [whole, swept]
      exact ⟨_, map_eq_ok.mpr ⟨right, swept', rfl⟩⟩
  case joined =>
    intro left right swept swept'
    rw [whole, swept]
    exact map_eq_ok.mpr ⟨right, swept', rfl⟩
  case firstFails =>
    intro failure failed
    rw [whole, failed]
  case secondFails =>
    intro left failure swept failed
    rw [whole, swept]
    exact map_eq_error.mpr failed

/-- A pass over two tables composes. It splits the rules of both, and has the same facts, actions and
failures without the rules of the other phase. -/
theorem composes_and_splits (isFinal : Bool) (known : Facts) {first second : RuleTable}
    (distinct : ((first ++ second).map Rule.name).Nodup) :
    Composes isFinal known first second ∧
      (∀ result, (ofRules isFinal known (first ++ second)).result = .ok result →
        Splits isFinal known (first ++ second) (ofRules isFinal known (first ++ second)).evaluations
          result) ∧
      (ofRules isFinal known ((first ++ second).filter (·.isFinal == isFinal))).result =
        (ofRules isFinal known (first ++ second)).result.map fun result =>
          { result with remaining := result.remaining.filter (·.isFinal == isFinal) } := by
  refine ⟨composes isFinal known first second, fun result swept => ?_, ?_⟩
  · exact (ofRules_sweep swept).splits distinct.of_map
  · rw [ofRules_inPhase]

def pricing : RuleTable := [
  { name := "price", facts := some [⟨"D", ⟨.decimal, some (.decimal (.finite false 15 (-1)))⟩⟩] },
  { name := "unpriced"
    conditionSet := some ⟨true, [⟨"D", .notDefined, none⟩]⟩
    actions := some [⟨.field, "D"⟩]
    isFinal := true }]

def totals : RuleTable := [
  { name := "total"
    conditionSet := some ⟨true,
      [⟨"D", .equal, some ⟨.decimal, some (.decimal (.finite false 15 (-1)))⟩⟩]⟩
    facts := some [⟨"D", ⟨.decimal, some (.decimal (.finite false 150 (-2)))⟩⟩,
      ⟨"E", ⟨.int, some (.int 2)⟩⟩]
    actions := some [⟨.block, "E"⟩] },
  { name := "waits", conditionSet := some ⟨true, [⟨"C", .equal, some ⟨.int, some (.int 1)⟩⟩]⟩ }]

/-- The price asserted by one table decides a rule of the next, and a rule of each waits. -/
theorem pricing_totals :
    Composes false [] pricing totals ∧
      ∃ result, (ofRules false [] (pricing ++ totals)).result = .ok result ∧
        result.facts.map Fact.id = ["D", "D", "E"] ∧
        result.remaining.map Rule.name = ["unpriced", "waits"] ∧
        Splits false [] (pricing ++ totals) (ofRules false [] (pricing ++ totals)).evaluations
          result := by
  have swept : (ofRules false [] (pricing ++ totals)).result = .ok _ := rfl
  obtain ⟨composes, splits, _⟩ := composes_and_splits false []
    (show ((pricing ++ totals).map Rule.name).Nodup by decide)
  exact ⟨composes, _, swept, rfl, rfl, splits _ swept⟩

end Pass

end Deduce
