import Deduce.Proofs.Lockstep
import Deduce.Proofs.NormalPhase
import Deduce.Proofs.Typing.Reading
import Deduce.Proofs.Typing.Supplied

/-!
# The order of rules

The least closed map does not depend on the order of the rules, so that the normal phase ends alike
for every order. The final phase goes on in lockstep if the final rules keep theirs.
-/

namespace Deduce

variable {schema : Schema} {table table' : RuleTable} {start : Facts}

namespace State.Saturated

variable {t t' : State}

theorem meaning_eq (inv : t.Saturated schema table start) (inv' : t'.Saturated schema table' start)
    (perm : table.Perm table') (typed : start.WellTyped schema) :
    t.known.meaning = t'.known.meaning :=
  Facts.Within.antisymm inv.typed.known inv'.typed.known
    (inv.least t'.known ((inv'.closed typed).subset perm.subset))
    (inv'.least t.known ((inv.closed typed).subset perm.symm.subset))

theorem alike (inv : t.Saturated schema table start) (inv' : t'.Saturated schema table' start)
    (perm : table.Perm table') (finals : table.filter (·.isFinal) = table'.filter (·.isFinal))
    (wellTyped : table.WellTyped schema) (typed : start.WellTyped schema) : t.Alike schema t' := by
  have same := inv.meaning_eq inv' perm typed
  have answers (rule : Rule) (member : rule ∈ table) :
      rule.outcome t.known = rule.outcome t'.known :=
    Rule.outcome_eq_of_meaning (wellTyped rule member) inv.typed.known inv'.typed.known same
  constructor
  case typed => exact inv.typed
  case typed' => exact inv'.typed
  case known => exact same
  case finals => exact inv.finals.trans (finals.trans inv'.finals.symm)
  case others =>
    have left (rule : Rule) (normal : rule.isFinal = false) :
        rule ∈ t.remaining ↔ rule ∈ t'.remaining := by
      rw [inv.mem_remaining normal, inv'.mem_remaining normal, ← perm.mem_iff]
      exact and_congr_right fun member => by rw [answers rule member]
    rw [List.filter_eq_nil_iff, List.filter_eq_nil_iff]
    refine forall_congr' fun rule => ?_
    cases normal : rule.isFinal with
    | true => simp
    | false => rw [left rule normal]
  case actions =>
    intro action
    rw [inv.mem_actions, inv'.mem_actions]
    refine exists_congr fun rule => ?_
    rw [← perm.mem_iff]
    exact and_congr_right fun member => by rw [answers rule member]
  case distinct => exact inv.distinct
  case distinct' => exact inv'.distinct

end State.Saturated

theorem RuleTable.run_matched (perm : table.Perm table')
    (finals : table.filter (·.isFinal) = table'.filter (·.isFinal))
    (wellTyped : table.WellTyped schema) (supported : table.Supported schema false)
    (typed : start.WellTyped schema) :
    Matched (State.Alike schema) (table.run start).outcome (table'.run start).outcome := by
  have wellTyped' := wellTyped.subset perm.symm.subset
  have phase := (table.run_course start).settles (saturating_start wellTyped typed) wellTyped
    supported
  have phase' := (table'.run_course start).settles (saturating_start wellTyped' typed) wellTyped'
    (supported.subset perm.symm.subset)
  rcases phase with ⟨t, inv, settles⟩ | ⟨_, none, _, _, failed⟩
  · rcases phase' with ⟨t', inv', settles'⟩ | ⟨_, none, _⟩
    · have alike := inv.alike inv' perm finals wellTyped typed
      have empty := alike.remaining_eq_nil
      rcases settles.rest with ⟨nil, ended⟩ | ⟨filled, later, course, ended⟩
      · rcases settles'.rest with ⟨_, ended'⟩ | ⟨filled', _⟩
        · rw [ended, ended']
          exact .ok alike
        · exact absurd (empty.mp nil) filled'
      · rcases settles'.rest with ⟨nil', _⟩ | ⟨_, later', course', ended'⟩
        · exact absurd (empty.mpr nil') filled
        · rw [← ended, ← ended']
          exact course.matched course' (alike.inPhase true true) rfl rfl
    · exact absurd ⟨t.known, (inv.closed typed).subset perm.symm.subset⟩ none
  · rcases phase' with ⟨t', inv', _⟩ | ⟨_, _, _, _, failed'⟩
    · exact absurd ⟨t'.known, (inv'.closed typed).subset perm.subset⟩ none
    · rw [failed, failed']
      exact .failed

/-- The same fact ids with equal values, and the same actions in the same order. -/
structure Results.Same (schema : Schema) (results results' : Results) : Prop where
  keys : results.facts.keys = results'.facts.keys
  values : ∀ id ∈ results.facts.keys, ∃ v w : Value, schema.get? id = some v.type ∧
    results.facts.get? id = some v.native ∧ results'.facts.get? id = some w.native ∧
    v.compare .equal w = .ok true
  actions : results.actions = results'.actions

theorem State.Alike.results {s s' : State} (alike : s.Alike schema s') :
    Results.Same schema (.ofState schema s) (.ofState schema s') := by
  have has (id : String) : s.known.has id = s'.known.has id := by
    rw [Facts.has_eq_isSome, Facts.has_eq_isSome, alike.known]
  constructor
  case keys =>
    rw [Results.keys_facts, Results.keys_facts]
    exact List.filter_congr fun id _ => has id
  case values =>
    intro id member
    rw [Results.keys_facts, List.mem_filter] at member
    rcases Facts.find?_of_meaning alike.known id with
      ⟨absent, _⟩ | ⟨fact, other, found, found', agrees⟩
    · simp [Facts.has, absent] at member
    · have admitted := (alike.typed.known.find found).2
      have admitted' := (alike.typed'.known.find found').2
      refine ⟨fact.value, other.value, admitted.declared, ?_, ?_, ?_⟩
      · rw [Results.get?_facts, if_pos member.1, found]
        rfl
      · rw [Results.get?_facts, if_pos member.1, found']
        rfl
      · exact (Value.compare_equal_iff admitted.wellFormed admitted'.wellFormed).mpr agrees.symm
  case actions => exact sortActions_eq alike.distinct alike.distinct' alike.actions

namespace Engine

/-- Rules that are not final may come in any order: a run succeeds for all orders or for none, and
returns the same up to the passes and the form of decimals. -/
theorem run_perm {engine : Engine} {tree : Tree}
    (accepted : RuleTable.ofTree engine.schema tree = .ok engine.rules) {rules : RuleTable}
    (perm : engine.rules.Perm rules)
    (finals : engine.rules.filter (·.isFinal) = rules.filter (·.isFinal))
    (supported : engine.rules.Supported engine.schema false) {supplied : Supplied}
    (wellFormed : supplied.IsWellFormed) :
    ((∃ results, (engine.run (some supplied)).2 = .ok results) ↔
      ∃ results, (run { engine with rules := rules } (some supplied)).2 = .ok results) ∧
    ∀ results results', (engine.run (some supplied)).2 = .ok results →
      (run { engine with rules := rules } (some supplied)).2 = .ok results' →
        results.Same engine.schema results' := by
  cases known : engine.schema.knownFrom supplied with
  | error e =>
    have refused (engine' : Engine) (schema : engine'.schema = engine.schema) (results : Results) :
        (engine'.run (some supplied)).2 ≠ .ok results := by
      rw [run_of_refused (schema ▸ known)]
      simp
    simp [refused]
  | ok start =>
    have matched := RuleTable.run_matched perm finals (RuleTable.ofTree_wellTyped accepted)
      supported (Schema.knownFrom_wellTyped wellFormed known)
    rw [run_of_accepted known, @run_of_accepted { engine with rules := rules } supplied start known]
    cases first : (engine.rules.run start).outcome <;>
      cases second : (RuleTable.run rules start).outcome <;>
      rw [first, second] at matched <;> cases matched
    · simp [Except.map]
    · rename_i alike
      simpa [Except.map] using alike.results

/-- Two rules assert one number in two forms; the form of the first is returned. -/
def twoForms : Engine where
  schema := ⟨"facts", [("D", .decimal)], by decide⟩
  rules := [
    { name := "short", facts := some [⟨"D", ⟨.decimal, some (.decimal (.finite false 15 (-1)))⟩⟩] },
    { name := "long", facts := some [⟨"D", ⟨.decimal, some (.decimal (.finite false 150 (-2)))⟩⟩] }]

theorem twoForms_perm :
    ∃ results results', (twoForms.run (some [])).2 = .ok results ∧
      (run { twoForms with rules := twoForms.rules.reverse } (some [])).2 = .ok results' ∧
      results.facts ≠ results'.facts ∧ results.Same twoForms.schema results' := by
  have accepted : RuleTable.ofTree twoForms.schema (.sequence [
      .mapping [(.scalar "name", .scalar "short"),
        (.scalar "facts", .sequence [.scalar "D = 1.5"])],
      .mapping [(.scalar "name", .scalar "long"),
        (.scalar "facts", .sequence [.scalar "D = 1.50"])]]) = .ok twoForms.rules := rfl
  have wellFormed : Supplied.IsWellFormed [] := by
    intro entry member
    cases member
  obtain ⟨_, same⟩ :=
    run_perm accepted (List.reverse_perm twoForms.rules).symm (by decide) (by decide) wellFormed
  refine ⟨_, _, rfl, rfl, ?_, same _ _ rfl rfl⟩
  intro equal
  have forms : [("D", Native.decimal (.finite false 15 (-1)))] =
      [("D", Native.decimal (.finite false 150 (-2)))] := equal
  simp at forms

end Engine

end Deduce
