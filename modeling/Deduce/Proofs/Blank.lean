import Deduce.Proofs.Coercion
import Deduce.Proofs.Run

/-!
# Blank facts

A null is as good as a fact that is not supplied, whatever type the fact has. An empty text is so for a
string alone: for a fact of any other type it is refused, unless an entry in front is refused before it.
-/

namespace Deduce

namespace Schema

variable {schema : Schema} {id : String} {type : ScalarType} {native : Native} {front back : Supplied}

/-- Entries are coerced one after the other, up to the first that is refused. -/
theorem knownFrom_append (schema : Schema) (front back : Supplied) :
    schema.knownFrom (front ++ back) =
      match schema.knownFrom front with
      | .error e => .error e
      | .ok known => (schema.knownFrom back).map (known ++ ·) := by
  induction front with
  | nil => cases h : schema.knownFrom back <;> simp [knownFrom, h, Except.map]
  | cons entry rest ih =>
    obtain ⟨id, native⟩ := entry
    simp only [List.cons_append, knownFrom, ih]
    cases schema.coerce id native with
    | error e => rfl
    | ok value? =>
      cases value? with
      | none => rfl
      | some value =>
        cases schema.knownFrom rest with
        | error e => rfl
        | ok known => cases schema.knownFrom back <;> rfl

theorem knownFrom_of_refused {failure : Failure} (refused : schema.knownFrom front = .error failure)
    (back : Supplied) : schema.knownFrom (front ++ back) = .error failure := by
  rw [knownFrom_append, refused]

theorem knownFrom_of_absent (absent : schema.coerce id native = .ok none) (front back : Supplied) :
    schema.knownFrom (front ++ (id, native) :: back) = schema.knownFrom (front ++ back) := by
  have skipped : schema.knownFrom ((id, native) :: back) = schema.knownFrom back := by
    simp only [knownFrom, absent]
  rw [knownFrom_append, knownFrom_append, skipped]

theorem coerce_blank (declared : schema.get? id = some type)
    (blank : native = .null ∨ native = .string "") (passed : native = .null ∨ type = .string) :
    schema.coerce id native = .ok none := by
  have exact (x : Binary64) : native ≠ .float x := by
    rcases blank with rfl | rfl <;> simp
  have short (i : Int) : native = .int i → native.isWritable = true := by
    rcases blank with rfl | rfl <;> simp
  refine (coerces declared (by rcases blank with rfl | rfl <;> trivial) exact short).absent.mpr ?_
  rcases blank with null | rfl
  · exact .inl null
  · obtain rfl := passed.resolve_left (by simp)
    exact .inr ⟨.string, .empty⟩

theorem coerce_empty (declared : schema.get? id = some type) (other : type ≠ .string) :
    schema.coerce id (.string "") =
      .error (.error ((Error.unsuitableNative type "str" "").within (.suppliedFact id))) := by
  rw [coerce_eq (.inl rfl), accept_untyped declared (by simp) (by simp)]
  cases type with
  | string => exact absurd rfl other
  | int | decimal | bool => rfl

theorem Refuses.id_eq {entry : String × Native} {e : Error}
    (refused : schema.Refuses entry (e.within (.suppliedFact id))) : entry.1 = id := by
  cases refused
  rfl

end Schema

theorem Failure.OfRun.ne_supplied {failure : Failure} (h : failure.OfRun) (e : Error) (id : String) :
    failure ≠ .error (e.within (.suppliedFact id)) := by
  rintro rfl
  cases h

namespace Engine

variable {engine : Engine} {front back : Supplied} {id : String} {type : ScalarType} {native : Native}

theorem run_congr {supplied more : Supplied}
    (same : engine.schema.knownFrom supplied = engine.schema.knownFrom more) :
    engine.run (some supplied) = engine.run (some more) := by
  simp only [run, runOn, same]

theorem run_empty (declared : engine.schema.get? id = some type) (other : type ≠ .string)
    (accepts : engine.schema.Accepts front) (back : Supplied) :
    engine.run (some (front ++ (id, .string "") :: back)) =
      ([], .error (.error ((Error.unsuitableNative type "str" "").within (.suppliedFact id)))) := by
  obtain ⟨known, coerced⟩ := accepts
  have refused : engine.schema.knownFrom (front ++ (id, .string "") :: back) =
      .error (.error ((Error.unsuitableNative type "str" "").within (.suppliedFact id))) := by
    simp only [Schema.knownFrom_append, coerced, Schema.knownFrom, Schema.coerce_empty declared other,
      Except.map]
  simp only [run, runOn, refused, Except.map]

/-- Where a fact is not supplied, no run fails with the refusal of what is supplied for it. -/
theorem run_ne_refusal (new : id ∉ Entries.keys back) (accepts : engine.schema.Accepts front)
    (e : Error) :
    (engine.run (some (front ++ back))).2 ≠ .error (.error (e.within (.suppliedFact id))) := by
  obtain ⟨known, coerced⟩ := accepts
  intro failed
  cases whole : engine.schema.knownFrom (front ++ back) with
  | error failure =>
    rw [run_of_refused whole] at failed
    cases failed
    rw [Schema.knownFrom_append, coerced] at whole
    obtain ⟨entry, member, ⟨_, same, refused⟩ | ⟨same, _⟩⟩ :=
      Schema.knownFrom_eq_error (map_eq_error.mp whole) <;> cases same
    exact new (refused.id_eq ▸ List.mem_map_of_mem member)
  | ok start =>
    rw [run_of_accepted whole, map_eq_error] at failed
    exact ((engine.rules.run_course start).outcome_ofRun failed).ne_supplied e id rfl

/-- A blank among what is supplied is passed over just if it is a null, or the fact is a string, or an
entry in front is refused. Otherwise the blank itself is refused. -/
theorem run_blank (engine : Engine) (front back : Supplied)
    (distinct : (Entries.keys (front ++ (id, native) :: back)).Nodup)
    (declared : engine.schema.get? id = some type) (blank : native = .null ∨ native = .string "") :
    ((engine.run (some (front ++ (id, native) :: back))).2 = (engine.run (some (front ++ back))).2 ↔
      native = .null ∨ type = .string ∨ ¬ engine.schema.Accepts front) ∧
    (native = .null ∨ type = .string ∨ ¬ engine.schema.Accepts front →
      engine.run (some (front ++ (id, native) :: back)) = engine.run (some (front ++ back))) ∧
    (native ≠ .null → type ≠ .string → engine.schema.Accepts front →
      engine.run (some (front ++ (id, native) :: back)) =
        ([], .error (.error ((Error.unsuitableNative type "str" "").within (.suppliedFact id))))) := by
  have passedOver (h : native = .null ∨ type = .string ∨ ¬ engine.schema.Accepts front) :
      engine.run (some (front ++ (id, native) :: back)) = engine.run (some (front ++ back)) := by
    rw [← or_assoc] at h
    apply run_congr
    rcases h with passed | refuses
    · exact Schema.knownFrom_of_absent (Schema.coerce_blank declared blank passed) front back
    · cases coerced : engine.schema.knownFrom front with
      | error failure => rw [Schema.knownFrom_of_refused coerced, Schema.knownFrom_of_refused coerced]
      | ok known => exact absurd ⟨known, coerced⟩ refuses
  have refused (given : native ≠ .null) (other : type ≠ .string)
      (accepts : engine.schema.Accepts front) :
      engine.run (some (front ++ (id, native) :: back)) =
        ([], .error (.error ((Error.unsuitableNative type "str" "").within (.suppliedFact id)))) := by
    obtain rfl := blank.resolve_left given
    exact run_empty declared other accepts back
  refine ⟨⟨fun same => ?_, fun h => by rw [passedOver h]⟩, passedOver, refused⟩
  by_contra noticed
  simp only [not_or, not_not] at noticed
  obtain ⟨given, other, accepts⟩ := noticed
  have new : id ∉ Entries.keys back := by
    rw [Entries.keys, List.map_append, List.map_cons] at distinct
    exact (List.nodup_cons.mp (List.nodup_append.mp distinct).2.1).1
  rw [refused given other accepts] at same
  exact run_ne_refusal new accepts _ same.symm

def asking : Engine where
  schema := ⟨"facts", [("Age", .int), ("Name", .string)], by decide⟩
  rules := [{
    name := "asks"
    conditionSet := some ⟨true, [⟨"Age", .notDefined, none⟩]⟩
    actions := some [⟨.field, "Age"⟩]
    isFinal := true }]

/-- An empty text is passed over for the string, and refused for the number behind it. -/
theorem asking_blank :
    (asking.run (some [("Name", .string "")])).2 = (asking.run (some [])).2 ∧
      asking.run (some [("Name", .string ""), ("Age", .string "")]) =
        ([], .error (.error ((Error.unsuitableNative .int "str" "").within (.suppliedFact "Age")))) := by
  have name : asking.schema.get? "Name" = some .string := rfl
  have age : asking.schema.get? "Age" = some .int := rfl
  have empty : Native.string "" = .null ∨ Native.string "" = .string "" := .inr rfl
  obtain ⟨passed, _, _⟩ := run_blank asking [] [] (by decide) name empty
  obtain ⟨_, _, refused⟩ := run_blank asking [("Name", .string "")] [] (by decide) age empty
  exact ⟨passed.mpr (.inr (.inl rfl)), refused (by simp) (by decide) ⟨[], rfl⟩⟩

/-- Left out, the number is asked for; supplied as an empty text, it makes the run fail. -/
theorem asking_refuses_empty :
    RuleTable.ofTree asking.schema (.sequence [.mapping [(.scalar "name", .scalar "asks"),
        (.scalar "conditions", .sequence [.scalar "!Age"]),
        (.scalar "actions", .sequence [.scalar "Field Age"])]]) = .ok asking.rules ∧
      asking.schema.get? "Age" = some .int ∧
      (∃ results, (asking.run (some [])).2 = .ok results ∧ results.passes = 2 ∧
        ⟨.field, "Age"⟩ ∈ results.actions) ∧
      (asking.run (some [("Age", .null)])).2 = (asking.run (some [])).2 ∧
      (asking.run (some [("Age", .string "")])).2 =
        .error (.error ((Error.unsuitableNative .int "str" "").within (.suppliedFact "Age"))) ∧
      (asking.run (some [("Age", .string "")])).2 ≠ (asking.run (some [])).2 := by
  have refused : asking.schema.knownFrom [("Age", .string "")] =
      .error (.error ((Error.unsuitableNative .int "str" "").within (.suppliedFact "Age"))) := rfl
  refine ⟨rfl, rfl, ⟨_, rfl, rfl, ?_⟩, rfl, run_of_refused refused, ?_⟩
  · exact mem_sortActions.mpr List.mem_cons_self
  rw [run_of_refused refused]
  nofun

end Engine

end Deduce
