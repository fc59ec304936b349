import Deduce.Engine
import Deduce.Proofs.Typing.Basic
import Mathlib.Data.List.Nodup

/-!
# What a run returns

The facts returned are the known ones with a declared id. The actions returned depend only on the set
of those that were triggered, since each comes up once and they are sorted.
-/

namespace Deduce

namespace Entries

variable {α : Type}

theorem mem_keys (entries : Entries α) {key : String} :
    key ∈ entries.keys ↔ ∃ value, entries.get? key = some value := by
  induction entries with
  | nil => simp [keys, get?]
  | cons entry rest ih =>
    obtain ⟨k, v⟩ := entry
    by_cases same : k = key
    · simp [keys, get?, same]
    · have other : ¬ key = k := fun same' => same same'.symm
      simpa [keys, get?, same, other] using ih

theorem get?_filterMap (ids : List String) (f : String → Option α) (id : String) :
    get? (ids.filterMap fun id => (f id).map fun v => (id, v)) id =
      if id ∈ ids then f id else none := by
  induction ids with
  | nil => rfl
  | cons head rest ih =>
    cases found : f head with
    | none =>
      simp only [List.filterMap_cons, found, Option.map_none, ih, List.mem_cons]
      by_cases same : id = head
      · simp [same, found]
      · simp [same]
    | some value =>
      simp only [List.filterMap_cons, found, Option.map_some, List.mem_cons]
      by_cases same : id = head
      · simp [get?, same, found]
      · have other : ¬ head = id := fun same' => same same'.symm
        simpa [get?, same, other] using ih

end Entries

namespace Schema

theorem mem_ids (schema : Schema) {id : String} :
    id ∈ schema.ids ↔ ∃ type, schema.get? id = some type :=
  Entries.mem_keys schema.types

end Schema

namespace Results

variable (schema : Schema) (s : State)

theorem get?_facts (id : String) :
    (ofState schema s).facts.get? id =
      if id ∈ schema.ids then (s.known.find? id).map fun fact => fact.value.native else none := by
  have pairs : (ofState schema s).facts = schema.ids.filterMap fun id =>
      ((s.known.find? id).map fun fact => fact.value.native).map fun v => (id, v) := by
    simp only [ofState, Schema.natives, Option.map_map, Function.comp_def]
  rw [pairs, Entries.get?_filterMap]

theorem keys_facts : (ofState schema s).facts.keys = schema.ids.filter s.known.has := by
  simp only [ofState, Schema.natives, Entries.keys, List.map_filterMap]
  rw [← List.filterMap_eq_filter]
  congr 1
  funext id
  cases found : s.known.find? id <;> simp [Facts.has, found, Option.guard]

theorem get?_facts_isSome {id : String} (declared : id ∈ schema.ids) :
    ((ofState schema s).facts.get? id).isSome = s.known.has id := by
  simp [get?_facts, declared, Facts.has]

end Results

namespace Action

theorem text_injective {a b : Action} (same : a.text = b.text) : a = b := by
  obtain ⟨kindA, idA⟩ := a
  obtain ⟨kindB, idB⟩ := b
  have chars : kindA.name.toList ++ ' ' :: idA.toList = kindB.name.toList ++ ' ' :: idB.toList := by
    simpa [text] using congrArg String.toList same
  -- no name of a kind is another one with a space behind it
  cases kindA <;> cases kindB <;> simp [ActionKind.name, String.toList_inj] at chars
  all_goals rw [chars]

theorem before_trans (a b c : Action) (first : a.before b = true) (second : b.before c = true) :
    a.before c = true := by
  simp only [before, Bool.or_eq_true, Bool.and_eq_true, decide_eq_true_eq, beq_iff_eq] at *
  rcases first with less | ⟨same, le⟩
  · rcases second with less' | ⟨same', _⟩ <;> exact .inl (by omega)
  · rcases second with less' | ⟨same', le'⟩
    · exact .inl (by omega)
    · exact .inr ⟨same.trans same', String.le_trans le le'⟩

theorem before_total (a b : Action) : (a.before b || b.before a) = true := by
  simp only [before, Bool.or_eq_true, Bool.and_eq_true, decide_eq_true_eq, beq_iff_eq]
  rcases Nat.lt_trichotomy a.kind.order b.kind.order with less | same | more
  · exact .inl (.inl less)
  · exact (String.le_total a.id b.id).imp (fun le => .inr ⟨same, le⟩) fun le => .inr ⟨same.symm, le⟩
  · exact .inr (.inl more)

theorem before_antisymm {a b : Action} (first : a.before b = true) (second : b.before a = true) :
    a = b := by
  obtain ⟨kindA, idA⟩ := a
  obtain ⟨kindB, idB⟩ := b
  simp only [before, Bool.or_eq_true, Bool.and_eq_true, decide_eq_true_eq, beq_iff_eq] at *
  have order : kindA.order = kindB.order := by omega
  have kinds : kindA = kindB := by cases kindA <;> cases kindB <;> first | rfl | cases order
  have ids : idA = idB := by
    apply String.le_antisymm
    · exact (first.resolve_left (by omega)).2
    · exact (second.resolve_left (by omega)).2
  rw [kinds, ids]

end Action

section Collecting

variable {actions more : List Action}

theorem collect_cons (action : Action) :
    collect actions (action :: more) =
      collect (if action ∈ actions then actions else actions ++ [action]) more := by
  have known : actions.any (·.text == action.text) = decide (action ∈ actions) := by
    rw [Bool.eq_iff_iff, List.any_eq_true, decide_eq_true_iff]
    constructor
    · rintro ⟨other, member, same⟩
      have same : other = action := Action.text_injective (by simpa using same)
      rw [← same]
      exact member
    · intro member
      exact ⟨action, member, by simp⟩
  simp only [collect, List.foldl_cons, known, decide_eq_true_eq]

theorem collect_append (actions first second : List Action) :
    collect actions (first ++ second) = collect (collect actions first) second :=
  List.foldl_append

theorem mem_collect {action : Action} :
    action ∈ collect actions more ↔ action ∈ actions ∨ action ∈ more := by
  induction more generalizing actions with
  | nil => simp [collect]
  | cons head rest ih =>
    rw [collect_cons, ih, List.mem_cons]
    split
    · rename_i known
      constructor
      · exact Or.imp_right Or.inr
      · rintro (old | rfl | new)
        · exact .inl old
        · exact .inl known
        · exact .inr new
    · simp only [List.mem_append, List.mem_singleton, or_assoc]

theorem nodup_collect (distinct : actions.Nodup) : (collect actions more).Nodup := by
  induction more generalizing actions with
  | nil => exact distinct
  | cons head rest ih =>
    rw [collect_cons]
    apply ih
    split
    · exact distinct
    · rename_i new
      exact distinct.append (List.nodup_singleton head) (List.disjoint_singleton.mpr new)

theorem perm_sortActions (actions : List Action) : (sortActions actions).Perm actions :=
  List.mergeSort_perm actions Action.before

theorem pairwise_sortActions (actions : List Action) :
    (sortActions actions).Pairwise fun a b => a.before b = true :=
  List.pairwise_mergeSort Action.before_trans Action.before_total actions

theorem mem_sortActions {action : Action} : action ∈ sortActions actions ↔ action ∈ actions :=
  (perm_sortActions actions).mem_iff

theorem nodup_sortActions (distinct : actions.Nodup) : (sortActions actions).Nodup :=
  (perm_sortActions actions).nodup_iff.mpr distinct

/-- There is one way to put actions in order, each of which comes up once. -/
theorem eq_sortActions {sorted : List Action}
    (ordered : sorted.Pairwise fun a b => a.before b = true) (distinct : sorted.Nodup)
    (distinct' : actions.Nodup) (same : ∀ action, action ∈ sorted ↔ action ∈ actions) :
    sorted = sortActions actions := by
  apply List.Perm.eq_of_pairwise (fun _ _ _ _ => Action.before_antisymm) ordered
    (pairwise_sortActions actions)
  have perm : sorted.Perm actions := (List.perm_ext_iff_of_nodup distinct distinct').mpr same
  exact perm.trans (perm_sortActions actions).symm

theorem sortActions_eq (distinct : actions.Nodup) (distinct' : more.Nodup)
    (same : ∀ action, action ∈ actions ↔ action ∈ more) :
    sortActions actions = sortActions more :=
  eq_sortActions (pairwise_sortActions actions) (nodup_sortActions distinct) distinct' fun action =>
    mem_sortActions.trans (same action)

/-- A selection of actions comes in the order of all. -/
theorem sortActions_eq_filter (distinct : actions.Nodup) (distinct' : more.Nodup)
    {selected : Action → Bool}
    (same : ∀ action, action ∈ actions ↔ action ∈ more ∧ selected action = true) :
    sortActions actions = (sortActions more).filter selected := by
  symm
  apply eq_sortActions ((pairwise_sortActions more).filter selected)
    ((nodup_sortActions distinct').filter selected) distinct
  intro action
  rw [List.mem_filter, mem_sortActions, same]

theorem sortActions_sublist (distinct : actions.Nodup) (distinct' : more.Nodup)
    (among : actions ⊆ more) : (sortActions actions).Sublist (sortActions more) := by
  have selection : sortActions actions = (sortActions more).filter (· ∈ actions) := by
    apply sortActions_eq_filter distinct distinct'
    intro action
    rw [decide_eq_true_iff]
    exact ⟨fun member => ⟨among member, member⟩, And.right⟩
  rw [selection]
  exact List.filter_sublist

end Collecting

namespace RuleTable

variable {table : RuleTable} {kind : Option ActionKind}

theorem mem_actions {action : Action} :
    action ∈ table.actions kind ↔
      (∃ rule ∈ table, action ∈ rule.triggered) ∧ kind.all (action.kind == ·) = true := by
  rw [actions, mem_sortActions, mem_collect, List.mem_filter, List.mem_flatMap]
  simp

theorem nodup_actions : (table.actions kind).Nodup :=
  nodup_sortActions (nodup_collect List.nodup_nil)

end RuleTable

namespace Engine

variable {engine : Engine} {supplied : Supplied}

theorem run_of_accepted {start : Facts} (accepted : engine.schema.knownFrom supplied = .ok start) :
    (engine.run (some supplied)).2 =
      (engine.rules.run start).outcome.map (Results.ofState engine.schema) := by
  simp only [run, runOn, accepted, Except.map]

theorem run_of_refused {failure : Failure}
    (refused : engine.schema.knownFrom supplied = .error failure) :
    (engine.run (some supplied)).2 = .error failure := by
  simp only [run, runOn, refused, Except.map]

theorem run_eq_ok {results : Results} (h : (engine.run (some supplied)).2 = .ok results) :
    ∃ start last, engine.schema.knownFrom supplied = .ok start ∧
      (engine.rules.run start).outcome = .ok last ∧
      Results.ofState engine.schema last = results := by
  cases known : engine.schema.knownFrom supplied with
  | error e =>
    rw [run_of_refused known] at h
    cases h
  | ok start =>
    rw [run_of_accepted known] at h
    obtain ⟨last, ended, same⟩ := map_eq_ok.mp h
    exact ⟨start, last, rfl, ended, same⟩

end Engine

end Deduce
