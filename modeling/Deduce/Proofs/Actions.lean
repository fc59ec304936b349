import Deduce.Proofs.Provenance
import Mathlib.Data.String.Basic

/-!
# Lists of actions

All lists of actions are cut out of one, which has every action of the rules once, by kind and id.
Repetitions are found by the text of an action, which tells actions apart although the name of one kind
begins with that of another.
-/

namespace Deduce

attribute [ext] Action

theorem ActionKind.order_eq_idxOf (kind : ActionKind) : kind.order = all.idxOf kind := by
  cases kind <;> rfl

namespace Action

/-- Of a kind that is declared before, or of the same kind with an id that comes before by its code
points. -/
def Precedes (a b : Action) : Prop :=
  ActionKind.all.idxOf a.kind < ActionKind.all.idxOf b.kind ∨
    a.kind = b.kind ∧ a.id.toList.map Char.toNat < b.id.toList.map Char.toNat

theorem precedes_of_before {a b : Action} (before : a.before b = true) (other : a ≠ b) :
    a.Precedes b := by
  simp only [Action.before, Bool.or_eq_true, Bool.and_eq_true, decide_eq_true_eq, beq_iff_eq,
    ActionKind.order_eq_idxOf] at before
  apply before.imp_right
  rintro ⟨order, le⟩
  have kinds : a.kind = b.kind :=
    (List.idxOf_inj (by cases a.kind <;> decide)).mp order
  have less : a.id < b.id :=
    String.not_le.mp fun le' => other (Action.ext kinds (String.le_antisymm le le'))
  exact ⟨kinds, List.map_lt (fun _ _ smaller => smaller) (String.lt_iff_toList_lt.mp less)⟩

end Action

theorem sortActions_precedes {actions : List Action} (distinct : actions.Nodup) :
    (sortActions actions).Pairwise Action.Precedes :=
  (pairwise_sortActions actions).imp₂ (fun _ _ => Action.precedes_of_before)
    (nodup_sortActions distinct)

/-- Collecting keeps the first of the actions that have one kind and one id. -/
theorem collect_eq_eraseDupsBy (found more : List Action) :
    collect found more = found ++ (more.filter (· ∉ found)).eraseDupsBy
      fun a b => (a.kind, a.id) == (b.kind, b.id) := by
  induction more generalizing found with
  | nil => simp [collect, List.eraseDupsBy, List.eraseDupsBy.loop]
  | cons head rest ih =>
    rw [collect_cons, ih]
    by_cases known : head ∈ found
    · rw [if_pos known, List.filter_cons_of_neg (by simpa using known)]
    · rw [if_neg known, List.filter_cons_of_pos (by simpa using known), List.eraseDupsBy_cons,
        List.filter_filter, List.append_assoc, List.singleton_append]
      congr 3
      apply List.filter_congr
      intro action _
      rw [Bool.eq_iff_iff]
      simp only [Action.ext_iff, List.mem_append, List.mem_singleton, not_or, decide_eq_true_eq,
        Bool.and_eq_true, beq_eq_false_iff_ne, Prod.mk.injEq, ne_eq, and_comm]

namespace RuleTable

theorem actions_precedes {table : RuleTable} {kind : Option ActionKind} :
    (table.actions kind).Pairwise Action.Precedes :=
  sortActions_precedes (nodup_collect List.nodup_nil)

theorem actions_ofKind (table : RuleTable) (kind : ActionKind) :
    table.actions (some kind) = (table.actions none).filter (·.kind == kind) := by
  apply sortActions_eq_filter (nodup_collect List.nodup_nil) (nodup_collect List.nodup_nil)
  intro action
  simp [mem_collect]

end RuleTable

/-- What the engine says about its actions: the list of all is in strict order and has just the actions
of the rules, and the list of a kind is cut out of it. -/
structure Engine.ListsActions (engine : Engine) (all : List Action) : Prop where
  listed : engine.possibleActions none = .ok all
  ordered : all.Pairwise Action.Precedes
  distinct : all.Nodup
  declared : ∀ action, action ∈ all ↔ ∃ rule ∈ engine.rules, action ∈ rule.triggered
  ofKind : ∀ kind : ActionKind,
    engine.possibleActions (some kind.name) = .ok (all.filter (·.kind == kind))

structure Results.TriggersFired (results : Results) (all : List Action) (fired : List Rule) :
    Prop where
  among : results.actions.Sublist all
  triggers : ∀ (kind : ActionKind) (id : String), results.triggers kind.name id =
    .ok (decide (∃ rule ∈ fired, ⟨kind, id⟩ ∈ rule.triggered))

namespace Engine

theorem listsActions (engine : Engine) : engine.ListsActions (engine.rules.actions none) where
  listed := rfl
  ordered := RuleTable.actions_precedes
  distinct := RuleTable.nodup_actions
  declared := by simp [RuleTable.mem_actions]
  ofKind := by
    intro kind
    rw [possibleActions, ActionKind.ofName_eq_ok.mpr rfl, ← RuleTable.actions_ofKind]
    rfl

variable {engine : Engine} {supplied : Supplied} {results : Results}

theorem triggersFired (returned : (engine.run (some supplied)).2 = .ok results) :
    ∃ run, engine.runOn supplied = .ok run ∧
      results.TriggersFired (engine.rules.actions none) run.fired := by
  obtain ⟨start, last, known, ended, rfl⟩ := run_eq_ok returned
  have course := engine.rules.run_course start
  have triggered (action : Action) : action ∈ last.actions ↔
      ∃ rule ∈ (engine.rules.run start).fired, action ∈ rule.triggered := by
    rw [course.mem_actions ended]
    simp
  refine ⟨engine.rules.run start, by simp only [runOn, known, Except.map], ?_⟩
  constructor
  case among =>
    apply sortActions_sublist (course.actions_eq ended ▸ nodup_collect List.nodup_nil)
      (nodup_collect List.nodup_nil)
    intro action member
    obtain ⟨rule, fired, declared⟩ := (triggered action).mp member
    have among := course.fired_subset ended fired
    have listed : action ∈ engine.rules.actions none :=
      RuleTable.mem_actions.mpr ⟨⟨rule, among, declared⟩, rfl⟩
    exact mem_sortActions.mp listed
  case triggers =>
    intro kind id
    rw [Results.triggers, ActionKind.ofName_eq_ok.mpr rfl, Except.map, Except.ok.injEq,
      Bool.eq_iff_iff, decide_eq_true_iff, ← triggered, ← Results.mem_actions_ofState]
    simp only [List.any_eq_true, Bool.and_eq_true, beq_iff_eq]
    constructor
    · rintro ⟨action, member, rfl, rfl⟩
      exact member
    · exact fun member => ⟨_, member, rfl, rfl⟩

/-- The list of all actions is in strict order and has each action of a rule, the list of a kind and
the actions of a run are cut out of it, and repetitions are just those of kind and id. -/
theorem actions_canonical (engine : Engine) :
    (∃ all, engine.ListsActions all ∧
      ∀ supplied results, (engine.run (some supplied)).2 = .ok results →
        ∃ run, engine.runOn supplied = .ok run ∧ results.TriggersFired all run.fired) ∧
    ∀ found more : List Action, collect found more = found ++
      (more.filter (· ∉ found)).eraseDupsBy fun a b => (a.kind, a.id) == (b.kind, b.id) :=
  ⟨⟨_, listsActions engine, fun _ _ returned => triggersFired returned⟩, collect_eq_eraseDupsBy⟩

/-- One action has the name of another one's kind in it, and one comes up twice. -/
def grouped : Engine where
  schema := ⟨"facts", [("A", .int)], by decide⟩
  rules := [
    { name := "fires"
      conditionSet := some ⟨true, [⟨"A", .equal, some ⟨.int, some (.int 1)⟩⟩]⟩
      actions := some [⟨.fieldGroup, "A"⟩, ⟨.field, "Group"⟩] },
    { name := "again", actions := some [⟨.field, "Group"⟩] },
    { name := "fails"
      conditionSet := some ⟨true, [⟨"A", .equal, some ⟨.int, some (.int 2)⟩⟩]⟩
      actions := some [⟨.field, "A"⟩] }]

theorem grouped_canonical :
    ∃ all results run, grouped.ListsActions all ∧
      (grouped.run (some [("A", .int 1)])).2 = .ok results ∧
      grouped.runOn [("A", .int 1)] = .ok run ∧ results.TriggersFired all run.fired ∧
      ⟨.field, "A"⟩ ∈ all ∧ results.triggers "Field" "A" = .ok false ∧
      results.triggers "Field" "Group" = .ok true := by
  obtain ⟨⟨all, lists, runs⟩, _⟩ := actions_canonical grouped
  have returned : (grouped.run (some [("A", .int 1)])).2 = .ok _ := rfl
  obtain ⟨run, ran, fired⟩ := runs _ _ returned
  cases ran
  refine ⟨all, _, _, lists, returned, rfl, fired, (lists.declared _).mpr (by decide), ?_, ?_⟩
  · exact (fired.triggers .field "A").trans (by decide)
  · exact (fired.triggers .field "Group").trans (by decide)

end Engine

end Deduce
