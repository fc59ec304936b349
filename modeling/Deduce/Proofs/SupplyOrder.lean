import Deduce.Proofs.Coercion
import Deduce.Proofs.Outcome

/-!
# The order of supplied facts

Known facts are kept in an order, but they are only ever looked up and counted. What is supplied in
another order, with other nulls among it, therefore leads to the very same run. So does what is supplied
as a record, up to the form in which a refused list is quoted.
-/

namespace Deduce

inductive Coincide {ε α : Type} (related : α → α → Prop) : Except ε α → Except ε α → Prop where
  | failed {e} : Coincide related (.error e) (.error e)
  | ok {a a'} : related a a' → Coincide related (.ok a) (.ok a')

theorem Coincide.map {ε α β : Type} {related : α → α → Prop} {related' : β → β → Prop} {f : α → β}
    {result result' : Except ε α} (h : Coincide related result result')
    (keeps : ∀ a a', related a a' → related' (f a) (f a')) :
    Coincide related' (result.map f) (result'.map f) := by
  cases h with
  | failed => exact .failed
  | ok alike => exact .ok (keeps _ _ alike)

namespace Facts

variable {known more : Facts}

/-- By each id the same fact is found, and the facts are as many. -/
structure Rearranged (known more : Facts) : Prop where
  find : known.find? = more.find?
  length : known.length = more.length

theorem rearranged_of_perm (distinct : (known.map Fact.id).Nodup) (perm : known.Perm more) :
    known.Rearranged more := by
  have distinct' : (more.map Fact.id).Nodup := (perm.map Fact.id).nodup_iff.mp distinct
  refine ⟨funext fun id => Option.ext fun fact => ?_, perm.length_eq⟩
  rw [find?_eq_some distinct, find?_eq_some distinct', perm.mem_iff]

theorem Rearranged.append (h : known.Rearranged more) (fact : Fact) :
    Rearranged (known ++ [fact]) (more ++ [fact]) := by
  constructor
  · funext id
    have same : List.find? (·.id == id) known = List.find? (·.id == id) more := congrFun h.find id
    simp only [find?, List.find?_append, same]
  · simp only [List.length_append, h.length]

theorem Rearranged.learn (h : known.Rearranged more) (fact : Fact) :
    (known.learn fact).Rearranged (more.learn fact) := by
  have present : known.has fact.id = more.has fact.id := by rw [has, has, h.find]
  by_cases old : more.has fact.id = true
  · rw [Facts.learn, Facts.learn, present, if_pos old, if_pos old]
    exact h
  · rw [Facts.learn, Facts.learn, present, if_neg old, if_neg old]
    exact h.append fact

theorem Rearranged.learnAll (h : known.Rearranged more) (facts : List Fact) :
    (known.learnAll facts).Rearranged (more.learnAll facts) := by
  induction facts generalizing known more with
  | nil => exact h
  | cons fact rest ih => exact ih (h.learn fact)

theorem Rearranged.establish (h : known.Rearranged more) (facts : List Fact) :
    Coincide (fun all all' => all.1.Rearranged all'.1 ∧ all.2 = all'.2)
      (known.establish facts) (more.establish facts) := by
  induction facts generalizing known more with
  | nil => exact .ok ⟨h, rfl⟩
  | cons fact rest ih =>
    unfold Facts.establish
    rw [h.find]
    cases more.find? fact.id with
    | none =>
      apply (ih (h.append fact)).map
      rintro _ _ ⟨known, added⟩
      exact ⟨known, congrArg (· + 1) added⟩
    | some established =>
      dsimp only
      cases established.value.compare .equal fact.value with
      | error failure => exact .failed
      | ok equal =>
        cases equal with
        | true => exact ih h
        | false => exact .failed

end Facts

def Evaluation.verdict (e : Evaluation) : Rule × Outcome := (e.rule, e.outcome)

namespace Pass

structure Same (pass pass' : Pass) : Prop where
  verdicts : pass.evaluations.map Evaluation.verdict = pass'.evaluations.map Evaluation.verdict
  result : pass.result = pass'.result

theorem Same.entries {pass pass' : Pass} (same : pass.Same pass') :
    (pass.evaluations.map fun e => Entry.ruleEvaluated e.rule.name e.outcome) =
      pass'.evaluations.map fun e => Entry.ruleEvaluated e.rule.name e.outcome := by
  have entries := congrArg (List.map fun v => Entry.ruleEvaluated v.1.name v.2) same.verdicts
  simpa only [List.map_map, Function.comp_def, Evaluation.verdict] using entries

theorem Same.after {pass pass' : Pass} (same : pass.Same pass') (rule : Rule) (known more : Facts)
    (outcome : Outcome) (change : PassResult → PassResult) :
    (pass.after ⟨rule, known, outcome⟩ change).Same (pass'.after ⟨rule, more, outcome⟩ change) := by
  constructor
  · simp only [evaluations_after, List.map_cons, same.verdicts, Evaluation.verdict]
  · simp only [result_after, same.result]

theorem ofRules_same {known more : Facts} (h : known.Rearranged more) (isFinal : Bool)
    (rules : RuleTable) : (ofRules isFinal known rules).Same (ofRules isFinal more rules) := by
  induction rules generalizing known more with
  | nil => exact ⟨rfl, rfl⟩
  | cons rule rest ih =>
    simp only [ofRules, Rule.outcome_eq_of_find? h.find]
    split
    · have tail := ih h
      exact ⟨tail.verdicts, by rw [tail.result]⟩
    · cases rule.outcome more with
      | error failure => exact ⟨rfl, rfl⟩
      | ok outcome =>
        cases outcome with
        | holds => exact (ih (h.learnAll rule.asserted)).after ..
        | fails | unknown => exact (ih h).after ..

end Pass

structure State.Rearranged (s s' : State) : Prop where
  known : s.known.Rearranged s'.known
  actions : s.actions = s'.actions
  remaining : s.remaining = s'.remaining
  isFinal : s.isFinal = s'.isFinal
  passes : s.passes = s'.passes

structure Progress.Rearranged (p p' : Progress) : Prop where
  known : p.known.Rearranged p'.known
  result : p.result = p'.result
  added : p.added = p'.added

structure Run.Rearranged (run run' : Run) : Prop where
  entries : ∀ number, Run.entriesFrom number run.rounds = Run.entriesFrom number run'.rounds
  outcome : Coincide State.Rearranged run.outcome run'.outcome

namespace State.Rearranged

variable {s s' : State}

theorem pass (h : s.Rearranged s') : s.pass.Same s'.pass := by
  rw [State.pass, State.pass, h.isFinal, h.remaining]
  exact Pass.ofRules_same h.known s'.isFinal s'.remaining

theorem progress (h : s.Rearranged s') :
    Coincide Progress.Rearranged s.progress s'.progress := by
  simp only [State.progress, h.pass.result]
  cases s'.pass.result with
  | error failure => exact .failed
  | ok result =>
    apply (h.known.establish result.facts).map
    rintro _ _ ⟨known, added⟩
    exact ⟨known, rfl, added⟩

theorem after (h : s.Rearranged s') {p p' : Progress} (progress : p.Rearranged p') :
    (s.after p).Rearranged (s'.after p') where
  known := progress.known
  actions := by simp only [State.after, h.actions, progress.result]
  remaining := by simp only [State.after, progress.result]
  isFinal := h.isFinal
  passes := by simp only [State.after, h.passes]

theorem advance (h : s.Rearranged s') (added : Nat) :
    (s.advance added).Rearranged (s'.advance added) :=
  ⟨h.known, h.actions, h.remaining, by simp only [State.advance, h.isFinal], h.passes⟩

theorem isDone (h : s.Rearranged s') (added : Nat) : s.isDone added = s'.isDone added := by
  simp only [State.isDone, h.remaining, h.isFinal]

theorem roundEntries (h : s.Rearranged s') {progress progress' : Option Progress}
    (related : Option.Rel Progress.Rearranged progress progress') (number : Nat) :
    Run.roundEntries number ⟨s.isFinal, s.pass.evaluations, progress⟩ =
      Run.roundEntries number ⟨s'.isFinal, s'.pass.evaluations, progress'⟩ := by
  simp only [Run.roundEntries, h.pass.entries, h.isFinal]
  cases related with
  | none => rfl
  | some same => simp only [same.added, same.result]

theorem runWithin (h : s.Rearranged s') (limit allowed : Nat) :
    (s.runWithin limit allowed).Rearranged (s'.runWithin limit allowed) := by
  induction allowed generalizing s s' with
  | zero => exact ⟨fun _ => rfl, .failed⟩
  | succ allowed ih =>
    unfold State.runWithin
    -- the two passes fail alike or have one result, so that both runs end or go on together
    have step := h.progress
    generalize s.progress = result at step
    generalize s'.progress = result' at step
    cases step with
    | failed => exact ⟨fun number => by simp only [Run.entriesFrom, h.roundEntries .none], .failed⟩
    | @ok p p' same =>
      have next := h.after same
      dsimp only
      rw [next.isDone p.added, same.added]
      split
      · exact ⟨fun number => by simp only [Run.entriesFrom, h.roundEntries (.some same)], .ok next⟩
      · have rest := ih (next.advance p'.added)
        exact ⟨fun number => by simp only [Run.entriesFrom, h.roundEntries (.some same), rest.entries],
          rest.outcome⟩

end State.Rearranged

theorem RuleTable.run_rearranged {known more : Facts} (h : known.Rearranged more)
    (table : RuleTable) : (table.run known).Rearranged (table.run more) := by
  have start : State.Rearranged { known := known, remaining := table }
      { known := more, remaining := table } := ⟨h, rfl, rfl, rfl, rfl⟩
  exact start.runWithin (passLimit table) (passLimit table)

namespace Run.Rearranged

variable {run run' : Run}

theorem journal (h : run.Rearranged run') : run.journal = run'.journal := by
  have ended := h.outcome
  rw [Run.journal, Run.journal, h.entries]
  generalize run.outcome = result at ended
  generalize run'.outcome = result' at ended
  cases ended with
  | failed => rfl
  | ok same => simp only [same.passes, same.known.length, same.actions]

theorem results (h : run.Rearranged run') (schema : Schema) :
    run.outcome.map (Results.ofState schema) = run'.outcome.map (Results.ofState schema) := by
  have ended := h.outcome
  generalize run.outcome = result at ended
  generalize run'.outcome = result' at ended
  cases ended with
  | failed => rfl
  | ok same =>
    simp only [Except.map, Results.ofState, same.known.find, same.actions, same.passes]

end Run.Rearranged

namespace Schema

variable {schema : Schema} {supplied more : Supplied}

/-- Nulls of declared facts may as well be left out. -/
theorem knownFrom_given (declared : supplied.keys ⊆ schema.ids) :
    schema.knownFrom supplied.given = schema.knownFrom supplied := by
  induction supplied with
  | nil => rfl
  | cons entry rest ih =>
    obtain ⟨id, native⟩ := entry
    obtain ⟨type, known⟩ := schema.mem_ids.mp (declared List.mem_cons_self)
    have tail := ih fun id member => declared (List.mem_cons_of_mem _ member)
    by_cases null : native.isNull = true
    · cases native <;> cases null
      simp only [knownFrom, coerce_null known, ← tail]
      rfl
    · rw [Supplied.given, List.filter_cons_of_pos (by simpa using null)]
      simp only [knownFrom, ← tail]
      rfl

theorem sublist_filterMap_factOf? (supplied : Supplied) :
    ((supplied.filterMap schema.factOf?).map Fact.id).Sublist supplied.keys := by
  induction supplied with
  | nil => exact .slnil
  | cons entry rest ih =>
    rw [List.filterMap_cons]
    cases found : schema.factOf? entry with
    | none => exact ih.cons entry.1
    | some fact =>
      have same : fact.id = entry.1 := by
        unfold factOf? at found
        split at found <;> cases found
        rfl
      simp only [List.map_cons, same]
      exact ih.cons_cons entry.1

theorem rearranged_knownFrom {known : Facts} (distinct : supplied.keys.Nodup)
    (perm : supplied.Perm more) (coerced : schema.knownFrom supplied = .ok known) :
    ∃ known', schema.knownFrom more = .ok known' ∧ known.Rearranged known' := by
  obtain ⟨each, facts⟩ := knownFrom_eq_ok.mp coerced
  refine ⟨more.filterMap schema.factOf?, knownFrom_eq_ok.mpr ⟨?_, rfl⟩, ?_⟩
  · exact fun entry member => each entry (perm.mem_iff.mpr member)
  · rw [← facts]
    exact Facts.rearranged_of_perm (distinct.sublist (sublist_filterMap_factOf? supplied))
      (perm.filterMap schema.factOf?)

theorem coerce_list_ne (id : String) (items : List Native) (value? : Option Value) :
    schema.coerce id (.list items) ≠ .ok value? := by
  intro coerced
  have accepted := coerce_eq_ok coerced
  unfold accept at accepted
  split at accepted
  · cases accepted
  · rename_i type _
    cases type <;> cases accepted

end Schema

inductive Native.HasValue : Native → Prop where
  | value {v} : HasValue (.value v)
  | list {items item} : item ∈ items → HasValue item → HasValue (.list items)

namespace Native

variable {native : Native}

theorem ofAttribute_single (untyped : ∀ v, native ≠ .value v)
    (single : ∀ items, native ≠ .list items) : native.ofAttribute = native := by
  rw [ofAttribute]
  · exact untyped
  · exact single

theorem ofAttribute_plain (plain : ¬ native.HasValue) : native.ofAttribute = native := by
  induction native using ofAttribute.induct with
  | case1 v => exact absurd .value plain
  | case2 items ih =>
    have kept (item : Native) (member : item ∈ items) : item.ofAttribute = item :=
      ih item member fun typed => plain (.list member typed)
    rw [ofAttribute, List.map_congr_left kept, List.map_id']
  | case3 native untyped single => exact ofAttribute_single untyped single

end Native

namespace Supplied

variable {supplied : Supplied}

theorem mem_of_mem_given {entry : String × Native} (member : entry ∈ supplied.given) :
    entry ∈ supplied :=
  (List.mem_filter.mp member).1

theorem ofRecord_eq_given (kept : ∀ entry ∈ supplied.given, entry.2.ofAttribute = entry.2) :
    supplied.ofRecord = supplied.given := by
  have unchanged (entry : String × Native) (member : entry ∈ supplied.given) :
      (entry.1, entry.2.ofAttribute) = entry := by
    rw [kept entry member]
  exact (List.map_congr_left unchanged).trans (List.map_id' _)

theorem ofRecord_of_accepts {schema : Schema}
    (untyped : ∀ entry ∈ supplied, ∀ v, entry.2 ≠ .value v)
    (accepts : schema.Accepts supplied.ofRecord ∨ schema.Accepts supplied.given) :
    supplied.ofRecord = supplied.given := by
  apply ofRecord_eq_given
  rintro ⟨id, native⟩ member
  -- a list would be refused, as it is or with what it holds taken apart
  apply Native.ofAttribute_single (untyped _ (mem_of_mem_given member))
  rintro items rfl
  rcases accepts with accepts | accepts
  · obtain ⟨value?, accepted⟩ := Schema.accepts_iff.mp accepts _ (List.mem_map_of_mem member)
    simp only [Native.ofAttribute] at accepted
    exact Schema.coerce_list_ne _ _ _ accepted
  · obtain ⟨value?, accepted⟩ := Schema.accepts_iff.mp accepts _ member
    exact Schema.coerce_list_ne _ _ _ accepted

end Supplied

namespace Engine

variable {engine : Engine} {supplied more : Supplied}

theorem run_rearranged {known known' : Facts}
    (coerced : engine.schema.knownFrom supplied = .ok known)
    (coerced' : engine.schema.knownFrom more = .ok known') (same : known.Rearranged known') :
    engine.run (some supplied) = engine.run (some more) := by
  have runs := RuleTable.run_rearranged same engine.rules
  simp only [run, runOn, coerced, coerced', Except.map]
  exact Prod.ext runs.journal (runs.results engine.schema)

/-- The engine does not tell apart what is supplied: coercion accepts both or neither, and if it does,
the runs are the same. -/
structure Indifferent (engine : Engine) (supplied more : Supplied) : Prop where
  accepts : engine.schema.Accepts supplied ↔ engine.schema.Accepts more
  run : engine.schema.Accepts supplied → engine.run (some supplied) = engine.run (some more)

theorem Indifferent.symm (h : engine.Indifferent supplied more) :
    engine.Indifferent more supplied :=
  ⟨h.accepts.symm, fun accepts => (h.run (h.accepts.mpr accepts)).symm⟩

theorem Indifferent.trans {most : Supplied} (h : engine.Indifferent supplied more)
    (h' : engine.Indifferent more most) : engine.Indifferent supplied most :=
  ⟨h.accepts.trans h'.accepts, fun accepts => (h.run accepts).trans (h'.run (h.accepts.mp accepts))⟩

theorem run_given (declared : supplied.keys ⊆ engine.schema.ids) :
    engine.run (some supplied.given) = engine.run (some supplied) := by
  simp only [run, runOn, Schema.knownFrom_given declared]

theorem indifferent_given (declared : supplied.keys ⊆ engine.schema.ids) :
    engine.Indifferent supplied.given supplied := by
  constructor
  · rw [Schema.Accepts, Schema.Accepts, Schema.knownFrom_given declared]
  · exact fun _ => run_given declared

theorem indifferent_of_perm (distinct : supplied.keys.Nodup) (perm : supplied.Perm more) :
    engine.Indifferent supplied more := by
  have distinct' : more.keys.Nodup := (perm.map Prod.fst).nodup_iff.mp distinct
  constructor
  case accepts =>
    constructor
    · rintro ⟨known, coerced⟩
      obtain ⟨known', coerced', _⟩ := Schema.rearranged_knownFrom distinct perm coerced
      exact ⟨known', coerced'⟩
    · rintro ⟨known, coerced⟩
      obtain ⟨known', coerced', _⟩ := Schema.rearranged_knownFrom distinct' perm.symm coerced
      exact ⟨known', coerced'⟩
  case run =>
    rintro ⟨known, coerced⟩
    obtain ⟨known', coerced', same⟩ := Schema.rearranged_knownFrom distinct perm coerced
    exact run_rearranged coerced coerced' same

theorem indifferent_ofRecord (untyped : ∀ entry ∈ supplied, ∀ v, entry.2 ≠ .value v) :
    engine.Indifferent supplied.given supplied.ofRecord := by
  have same (accepts : engine.schema.Accepts supplied.ofRecord ∨
      engine.schema.Accepts supplied.given) : supplied.ofRecord = supplied.given :=
    Supplied.ofRecord_of_accepts untyped accepts
  constructor
  · constructor
    · intro accepts
      rw [same (.inr accepts)]
      exact accepts
    · intro accepts
      rw [← same (.inl accepts)]
      exact accepts
  · intro accepts
    rw [same (.inr accepts)]

/-- Neither the order of what is supplied nor nulls matter, and a record without typed values is as good
as a mapping. Only where a list with a typed value inside is refused, the two are told apart, by the
text in which the list is quoted. -/
theorem run_supply_order (distinct : supplied.keys.Nodup)
    (declared : supplied.keys ⊆ engine.schema.ids) (declared' : more.keys ⊆ engine.schema.ids)
    (perm : supplied.given.Perm more.given) :
    engine.Indifferent supplied more ∧
      ((∀ entry ∈ supplied, ∀ v, entry.2 ≠ .value v) →
        engine.Indifferent supplied supplied.ofRecord) ∧
      ((∀ entry ∈ supplied, ¬ entry.2.HasValue) →
        engine.run (some supplied.ofRecord) = engine.run (some supplied)) := by
  have given : engine.Indifferent supplied supplied.given := (indifferent_given declared).symm
  have distinct' : supplied.given.keys.Nodup :=
    distinct.sublist (List.filter_sublist.map Prod.fst)
  refine ⟨?_, fun untyped => given.trans (indifferent_ofRecord untyped), fun plain => ?_⟩
  · exact given.trans ((indifferent_of_perm distinct' perm).trans (indifferent_given declared'))
  · rw [Supplied.ofRecord_eq_given, run_given declared]
    intro entry member
    exact Native.ofAttribute_plain (plain entry (Supplied.mem_of_mem_given member))

def lacking : Engine where
  schema := ⟨"facts", [("A", .int), ("B", .decimal), ("C", .string), ("D", .int)], by decide⟩
  rules := [
    { name := "adds"
      conditionSet := some ⟨true, [⟨"A", .equal, some ⟨.int, some (.int 1)⟩⟩]⟩
      facts := some [⟨"D", ⟨.int, some (.int 2)⟩⟩] },
    { name := "lacks"
      conditionSet := some ⟨true, [⟨"C", .notDefined, none⟩]⟩
      actions := some [⟨.field, "C"⟩]
      isFinal := true }]

def lackingTree : Tree := .sequence [
  .mapping [(.scalar "name", .scalar "adds"), (.scalar "conditions", .sequence [.scalar "A == 1"]),
    (.scalar "facts", .sequence [.scalar "D = 2"])],
  .mapping [(.scalar "name", .scalar "lacks"), (.scalar "conditions", .sequence [.scalar "!C"]),
    (.scalar "actions", .sequence [.scalar "Field C"])]]

/-- The facts come the other way around, a null is moved from one fact to another, and another one is
left out by the record. -/
theorem lacking_supply_order :
    ∃ results, (lacking.run (some [("A", .int 1), ("C", .null),
        ("B", .decimal (.finite false 150 (-2)))])).2 = .ok results ∧
      results.facts = [("A", .int 1), ("B", .decimal (.finite false 150 (-2))), ("D", .int 2)] ∧
      results.passes = 3 ∧
      lacking.run (some [("A", .int 1), ("C", .null), ("B", .decimal (.finite false 150 (-2)))]) =
        lacking.run (some [("B", .decimal (.finite false 150 (-2))), ("A", .int 1), ("D", .null)]) ∧
      lacking.run (some (Supplied.ofRecord [("A", .int 1), ("C", .null),
        ("B", .decimal (.finite false 150 (-2)))])) =
        lacking.run (some [("A", .int 1), ("C", .null), ("B", .decimal (.finite false 150 (-2)))]) := by
  obtain ⟨indifferent, _, record⟩ : lacking.Indifferent
      [("A", .int 1), ("C", .null), ("B", .decimal (.finite false 150 (-2)))]
      [("B", .decimal (.finite false 150 (-2))), ("A", .int 1), ("D", .null)] ∧ _ :=
    run_supply_order (by decide) (by decide) (by decide) (List.Perm.swap _ _ _)
  refine ⟨_, rfl, rfl, rfl, indifferent.run ⟨_, rfl⟩, record ?_⟩
  intro entry member
  simp only [List.mem_cons, List.not_mem_nil, or_false] at member
  rcases member with rfl | rfl | rfl <;> nofun

def listed : Supplied := [("A", .list [.value ⟨.int, some (.int 1)⟩])]

/-- A list with a typed value inside is no typed value, but as a mapping and as a record it is refused
with different errors. -/
theorem lacking_refuses_apart :
    RuleTable.ofTree lacking.schema lackingTree = .ok lacking.rules ∧ listed.keys.Nodup ∧
      listed.keys ⊆ lacking.schema.ids ∧ (∀ entry ∈ listed, ∀ v, entry.2 ≠ .value v) ∧
      (lacking.run (some listed)).2 = .error (.error ((Error.unsuitableNative .int "list"
        "[Value(type=<ScalarType.INT: 'int'>, data=1)]").within (.suppliedFact "A"))) ∧
      (lacking.run (some listed.ofRecord)).2 = .error (.error ((Error.unsuitableNative .int "list"
        "[\x7b'type': <ScalarType.INT: 'int'>, 'data': 1\x7d]").within (.suppliedFact "A"))) ∧
      (lacking.run (some listed.ofRecord)).2 ≠ (lacking.run (some listed)).2 := by
  have text : (Native.list [.value ⟨.int, some (.int 1)⟩]).text =
      "[Value(type=<ScalarType.INT: 'int'>, data=1)]" := by
    simp only [Native.text, Native.shown, List.map_cons, List.map_nil]
    rfl
  have text' : (Native.list [.parts ⟨.int, some (.int 1)⟩]).text =
      "[\x7b'type': <ScalarType.INT: 'int'>, 'data': 1\x7d]" := by
    simp only [Native.text, Native.shown, List.map_cons, List.map_nil]
    rfl
  have record : listed.ofRecord = [("A", .list [.parts ⟨.int, some (.int 1)⟩])] := by
    simp [listed, Supplied.ofRecord, Supplied.given, Native.isNull, Native.ofAttribute]
  have refused (items : List Native) (writable : (Native.list items).isWritable = true) :
      lacking.schema.knownFrom [("A", .list items)] =
        .error (.error ((Error.unsuitableNative .int "list" (Native.list items).text).within
          (.suppliedFact "A"))) := by
    simp only [Schema.knownFrom, Schema.coerce_eq (.inl writable)]
    rfl
  refine ⟨rfl, by decide, by decide, ?_, ?_, ?_, ?_⟩
  · intro entry member v
    rw [List.mem_singleton.mp member]
    simp
  · rw [listed, run_of_refused (refused _ rfl), text]
  · rw [record, run_of_refused (refused _ rfl), text']
  · rw [record, listed, run_of_refused (refused _ rfl), run_of_refused (refused _ rfl), text, text']
    simp

end Engine

end Deduce
