import Deduce.Proofs.Results
import Deduce.Proofs.Typing.Supplied

/-!
# Coercion and its inverse

A native is refused if it does not suit the declared type, and otherwise becomes the typed value of the
very datum that it denotes. Typed values and their natives are taken as they are, so that known facts
which are returned can be supplied again, and nothing of them is lost.
-/

namespace Deduce

namespace Native

/-- The native suits the type. A truth value is no number, a whole number is also a decimal, and a
decimal has to be finite. Doubles are left out. -/
inductive Suits : Native → ScalarType → Prop where
  | string {s} : Suits (.string s) .string
  | int {i} : Suits (.int i) .int
  | whole {i} : Suits (.int i) .decimal
  | decimal {d} : d.isFinite = true → Suits (.decimal d) .decimal
  | bool {b} : Suits (.bool b) .bool
  | value {v} : Suits (.value v) v.type

inductive IsAbsent : Native → Prop where
  | null : IsAbsent .null
  | empty : IsAbsent (.string "")
  | unset {type} : IsAbsent (.value ⟨type, none⟩)

/-- The datum of a native. That of a whole number may also be the decimal with no places. -/
inductive Denotes : Native → Datum → Prop where
  | string {s} : Denotes (.string s) (.string s)
  | int {i} : Denotes (.int i) (.int i)
  | whole {i} : Denotes (.int i) (.decimal (.finite (decide (i < 0)) i.natAbs 0))
  | decimal {d} : Denotes (.decimal d) (.decimal d)
  | bool {b} : Denotes (.bool b) (.bool b)
  | value {type datum} : Denotes (.value ⟨type, some datum⟩) datum

variable {native : Native} {type : ScalarType}

theorem kinds (native : Native) :
    native = .null ∨ (∃ v, native = .value v) ∨ native ≠ .null ∧ ∀ v, native ≠ .value v := by
  cases native <;> simp

theorem suits_value {v : Value} : (value v).Suits type ↔ v.type = type := by
  constructor
  · rintro ⟨⟩
    rfl
  · rintro rfl
    exact .value

/-- A native that is neither a typed value nor a double has a datum in the types that it suits. -/
theorem datum?_eq_none_iff (untyped : ∀ v, native ≠ .value v) (exact : ∀ x, native ≠ .float x) :
    native.datum? type = none ↔ ¬ native.Suits type := by
  constructor
  · intro missing suits
    cases suits with
    | string | int | whole | bool => cases missing
    | decimal finite => simp [datum?, finite] at missing
    | value => exact untyped _ rfl
  · intro unsuited
    unfold datum?
    split
    case h_1 => exact absurd .string unsuited
    case h_2 => exact absurd .bool unsuited
    case h_3 => exact absurd .int unsuited
    case h_4 => exact if_neg fun finite => unsuited (.decimal finite)
    case h_5 => exact absurd .whole unsuited
    case h_6 => exact absurd rfl (exact _)
    case h_7 => rfl

theorem eq_empty_of_datum? (exact : ∀ x, native ≠ .float x)
    (blank : native.datum? type = some none) : native = .string "" ∧ type = .string := by
  unfold datum? at blank
  split at blank
  case h_1 s =>
    have empty : s = "" := by simpa using blank
    rw [empty]
    exact ⟨rfl, rfl⟩
  case h_6 => exact absurd rfl (exact _)
  case h_4 => split at blank <;> cases blank
  all_goals cases blank

theorem denotes_of_datum? (exact : ∀ x, native ≠ .float x) {datum : Datum}
    (denoted : native.datum? type = some (some datum)) : native.Denotes datum := by
  unfold datum? at denoted
  split at denoted
  case h_1 s =>
    have filled : s ≠ "" ∧ Datum.string s = datum := by simpa using denoted
    rw [← filled.2]
    exact .string
  case h_2 =>
    cases denoted
    exact .bool
  case h_3 =>
    cases denoted
    exact .int
  case h_4 d =>
    have finite : d.isFinite = true ∧ Datum.decimal d = datum := by simpa using denoted
    rw [← finite.2]
    exact .decimal
  case h_5 =>
    cases denoted
    exact .whole
  case h_6 => exact absurd rfl (exact _)
  case h_7 => cases denoted

end Native

theorem Datum.datum?_native {type : ScalarType} {datum : Datum} (suits : datum.Suits type) :
    (Native.ofDatum? (some datum)).datum? type = some (some datum) := by
  cases type <;> cases datum <;> try contradiction
  · rename_i s
    have filled : s.isEmpty = false := String.isEmpty_eq_false_iff.mpr suits
    simp [Native.ofDatum?, Native.datum?, filled]
  · rfl
  · rename_i d
    have finite : d.isFinite = true := suits
    simp [Native.ofDatum?, Native.datum?, finite]
  · rfl

theorem Datum.isTaken_native {type : ScalarType} {datum : Datum} (suits : datum.Suits type) :
    (Native.ofDatum? (some datum)).isTaken type = true := by
  have known := datum?_native suits
  cases type <;> cases datum <;> try contradiction
  all_goals simp only [Native.ofDatum?] at known ⊢
  · simp only [Native.isTaken, known, Option.isSome_some]
  · rfl
  · simp only [Native.isTaken, known, Option.isSome_some]
  · simp only [Native.isTaken, known, Option.isSome_some]

theorem Value.native_isWellFormed (v : Value) : v.native.IsWellFormed := by
  obtain ⟨type, data⟩ := v
  cases data with
  | none => trivial
  | some datum => cases datum <;> trivial

structure Schema.Coerces (schema : Schema) (id : String) (type : ScalarType) (native : Native) :
    Prop where
  refused : (∃ failure, schema.coerce id native = .error failure) ↔
    native ≠ .null ∧ ¬ native.Suits type
  absent : schema.coerce id native = .ok none ↔
    native = .null ∨ native.Suits type ∧ native.IsAbsent
  /-- A value has the datum of the native, and stays the same when it is supplied again. -/
  accepted : ∀ value, schema.coerce id native = .ok (some value) →
    value.type = type ∧ value.IsWellFormed ∧ (∃ datum, value.data = some datum ∧ native.Denotes datum) ∧
      schema.coerce id (.value value) = .ok (some value) ∧
      schema.coerce id value.native = .ok (some value)

namespace Schema

variable {schema : Schema} {id : String} {type : ScalarType} {native : Native}

theorem accept_null (declared : schema.get? id = some type) : schema.accept id .null = .ok none := by
  simp only [accept, lookup_eq_ok.mpr declared]

theorem accept_value (declared : schema.get? id = some type) (v : Value) :
    schema.accept id (.value v) =
      if v.type = type then .ok v.set? else .error (.otherTypeSupplied id type v.type) := by
  simp only [accept, lookup_eq_ok.mpr declared]

theorem accept_untyped (declared : schema.get? id = some type) (given : native ≠ .null)
    (untyped : ∀ v, native ≠ .value v) :
    schema.accept id native =
      match native.datum? type with
      | some data => .ok (Value.set? ⟨type, data⟩)
      | none =>
        .error ((Error.unsuitableNative type native.kindName native.text).within (.suppliedFact id)) := by
  cases native
  case null => exact absurd rfl given
  case value v => exact absurd rfl (untyped v)
  all_goals
    simp only [accept, lookup_eq_ok.mpr declared, Value.ofNative]
    generalize Native.datum? type _ = datum
    cases datum <;> rfl

theorem accept_native {value : Value} (admitted : schema.Admits id value) :
    schema.accept id value.native = .ok (some value) := by
  obtain ⟨declared, datum, set, suits⟩ := admitted
  obtain ⟨type, data⟩ := value
  simp only at declared set suits
  subst set
  have typed : Value.ofNative type (Native.ofDatum? (some datum)) = .ok ⟨type, some datum⟩ := by
    simp only [Value.ofNative, Datum.datum?_native suits]
  cases datum <;> simp only [Native.ofDatum?] at typed <;>
    simp only [accept, lookup_eq_ok.mpr declared, Value.native, Native.ofDatum?, typed] <;> rfl

theorem accept_admitted {value : Value} (admitted : schema.Admits id value) :
    schema.accept id (.value value) = .ok (some value) := by
  obtain ⟨datum, set, _⟩ := admitted.wellFormed
  rw [accept_value admitted.declared, if_pos rfl, Value.set?]
  simp [Value.isUnset, set]

theorem refused_iff (declared : schema.get? id = some type) (exact : ∀ x, native ≠ .float x) :
    (∃ e, schema.accept id native = .error e) ↔ native ≠ .null ∧ ¬ native.Suits type := by
  rcases native.kinds with rfl | ⟨v, rfl⟩ | ⟨given, untyped⟩
  · simp [accept_null declared]
  · rw [accept_value declared, Native.suits_value]
    split <;> simp_all
  · rw [accept_untyped declared given untyped, ← Native.datum?_eq_none_iff untyped exact]
    cases native.datum? type <;> simp [given]

theorem suits_of_accept (declared : schema.get? id = some type) (exact : ∀ x, native ≠ .float x)
    (given : native ≠ .null) {value? : Option Value}
    (accepted : schema.accept id native = .ok value?) : native.Suits type := by
  by_contra unsuited
  obtain ⟨e, failed⟩ := (refused_iff declared exact).mpr ⟨given, unsuited⟩
  rw [accepted] at failed
  cases failed

theorem absent_iff (declared : schema.get? id = some type) (exact : ∀ x, native ≠ .float x) :
    schema.accept id native = .ok none ↔ native = .null ∨ native.Suits type ∧ native.IsAbsent := by
  constructor
  · intro absent
    rcases native.kinds with null | ⟨v, rfl⟩ | ⟨given, untyped⟩
    · exact .inl null
    · have suits := suits_of_accept declared exact (by simp) absent
      refine .inr ⟨suits, ?_⟩
      rw [accept_value declared, if_pos (Native.suits_value.mp suits)] at absent
      obtain ⟨type', data⟩ := v
      cases data with
      | none => exact .unset
      | some datum => cases absent
    · refine .inr ⟨suits_of_accept declared exact given absent, ?_⟩
      rw [accept_untyped declared given untyped] at absent
      cases data? : native.datum? type with
      | none => simp [data?] at absent
      | some data =>
        cases data with
        | none =>
          obtain ⟨rfl, _⟩ := Native.eq_empty_of_datum? exact data?
          exact .empty
        | some datum => simp [data?, Value.set?, Value.isUnset] at absent
  · rintro (rfl | ⟨suits, absent⟩)
    · exact accept_null declared
    · cases absent with
      | null => exact accept_null declared
      | empty =>
        cases suits
        rw [accept_untyped declared (by simp) (by simp)]
        rfl
      | unset =>
        rw [accept_value declared, if_pos (Native.suits_value.mp suits)]
        rfl

theorem denotes_of_accept (exact : ∀ x, native ≠ .float x) {value : Value}
    (accepted : schema.accept id native = .ok (some value)) :
    ∃ datum, value.data = some datum ∧ native.Denotes datum := by
  obtain ⟨declared, set, _⟩ := accept_eq_ok accepted
  obtain ⟨type, data⟩ := value
  obtain ⟨datum, rfl⟩ : ∃ datum, data = some datum :=
    Option.isSome_iff_exists.mp (by simpa [Value.isUnset] using set)
  refine ⟨datum, rfl, ?_⟩
  rcases native.kinds with rfl | ⟨v, rfl⟩ | ⟨given, untyped⟩
  · rw [accept_null declared] at accepted
    cases accepted
  · rw [accept_value declared] at accepted
    split at accepted
    · simp only [Except.ok.injEq] at accepted
      obtain ⟨rfl, _⟩ := Value.set?_eq_some accepted
      exact .value
    · cases accepted
  · rw [accept_untyped declared given untyped] at accepted
    cases data? : native.datum? type with
    | none => simp [data?] at accepted
    | some data =>
      simp only [data?, Except.ok.injEq] at accepted
      obtain ⟨same, _⟩ := Value.set?_eq_some accepted
      cases same
      exact Native.denotes_of_datum? exact data?

/-- What is accepted has to be written out for it only where a whole number becomes a decimal. -/
theorem taken_of_accept (declared : schema.get? id = some type) {value? : Option Value}
    (accepted : schema.accept id native = .ok value?) (exact : ∀ i, native ≠ .int i) :
    native.isTaken type = true := by
  rcases native.kinds with rfl | ⟨v, rfl⟩ | ⟨given, untyped⟩
  · rfl
  · rfl
  · rw [accept_untyped declared given untyped] at accepted
    cases native with
    | null | value => rfl
    | int i => exact absurd rfl (exact i)
    | string | decimal | bool | float | list | parts =>
      rw [Native.isTaken, Option.isSome_iff_ne_none]
      · intro missing
        simp [missing] at accepted
      all_goals simp

theorem coerce_eq_ok_iff (short : ∀ i, native = .int i → native.isWritable = true)
    {value? : Option Value} :
    schema.coerce id native = .ok value? ↔ schema.accept id native = .ok value? := by
  refine ⟨coerce_eq_ok, fun accepted => ?_⟩
  have written : native.isWritable = true ∨ ∀ type ∈ schema.get? id, native.isTaken type = true := by
    by_cases whole : ∃ i, native = .int i
    · obtain ⟨i, same⟩ := whole
      exact .inl (short i same)
    · refine .inr fun type' declared' => taken_of_accept declared' accepted fun i same => whole ⟨i, same⟩
  rw [coerce_eq written, mapError_eq_ok]
  exact accepted

theorem coerce_null (declared : schema.get? id = some type) : schema.coerce id .null = .ok none :=
  (coerce_eq_ok_iff (by simp)).mpr (accept_null declared)

theorem coerce_admitted {value : Value} (admitted : schema.Admits id value) :
    schema.coerce id (.value value) = .ok (some value) :=
  (coerce_eq_ok_iff (by simp)).mpr (accept_admitted admitted)

/-- The native of a value is taken as it is, however many digits it has. -/
theorem coerce_native {value : Value} (admitted : schema.Admits id value) :
    schema.coerce id value.native = .ok (some value) := by
  have taken : value.native.isTaken value.type = true := by
    obtain ⟨datum, set, suits⟩ := admitted.wellFormed
    rw [Value.native, set]
    exact Datum.isTaken_native suits
  rw [coerce_eq (.inr (by simp [admitted.declared, taken])), accept_native admitted]
  rfl

theorem coerces (declared : schema.get? id = some type) (wellFormed : native.IsWellFormed)
    (exact : ∀ x, native ≠ .float x) (short : ∀ i, native = .int i → native.isWritable = true) :
    schema.Coerces id type native where
  refused := by
    rw [← refused_iff declared exact]
    have same (value? : Option Value) :
        schema.coerce id native = .ok value? ↔ schema.accept id native = .ok value? :=
      coerce_eq_ok_iff short
    cases coerced : schema.coerce id native <;> cases accepted : schema.accept id native <;> simp_all
  absent := (coerce_eq_ok_iff short).trans (absent_iff declared exact)
  accepted := by
    intro value coerced
    have admitted := coerce_admits wellFormed coerced
    have same : value.type = type :=
      Option.some_inj.mp (admitted.declared.symm.trans declared)
    exact ⟨same, admitted.wellFormed, denotes_of_accept exact (coerce_eq_ok coerced),
      coerce_admitted admitted, coerce_native admitted⟩

def factOf? (schema : Schema) (entry : String × Native) : Option Fact :=
  match schema.coerce entry.1 entry.2 with
  | .ok (some value) => some ⟨entry.1, value⟩
  | _ => none

theorem knownFrom_eq_ok {supplied : Supplied} {known : Facts} :
    schema.knownFrom supplied = .ok known ↔
      (∀ entry ∈ supplied, ∃ value?, schema.coerce entry.1 entry.2 = .ok value?) ∧
        supplied.filterMap schema.factOf? = known := by
  induction supplied generalizing known with
  | nil => simp [knownFrom]
  | cons entry rest ih =>
    obtain ⟨id, native⟩ := entry
    simp only [knownFrom, List.forall_mem_cons, List.filterMap_cons, factOf?]
    cases coerced : schema.coerce id native with
    | error e => simp
    | ok value? =>
      cases value? with
      | none => simp [ih]
      | some value => simp [map_eq_ok, ih, and_assoc]

def Accepts (schema : Schema) (supplied : Supplied) : Prop :=
  ∃ known, schema.knownFrom supplied = .ok known

theorem accepts_iff {supplied : Supplied} : schema.Accepts supplied ↔
    ∀ entry ∈ supplied, ∃ value?, schema.coerce entry.1 entry.2 = .ok value? := by
  constructor
  · rintro ⟨known, coerced⟩
    exact (knownFrom_eq_ok.mp coerced).1
  · exact fun each => ⟨_, knownFrom_eq_ok.mpr ⟨each, rfl⟩⟩

def factsOf (schema : Schema) (known : String → Option Value) : Facts :=
  schema.ids.filterMap fun id => (known id).map (Fact.mk id)

section FactsOf

variable {known : String → Option Value}

theorem mem_factsOf {fact : Fact} :
    fact ∈ schema.factsOf known ↔ fact.id ∈ schema.ids ∧ known fact.id = some fact.value := by
  simp only [factsOf, List.mem_filterMap, Option.map_eq_some_iff]
  constructor
  · rintro ⟨id, declared, value, found, rfl⟩
    exact ⟨declared, found⟩
  · exact fun ⟨declared, found⟩ => ⟨_, declared, _, found, rfl⟩

theorem ids_factsOf :
    (schema.factsOf known).map Fact.id = schema.ids.filter fun id => (known id).isSome := by
  rw [factsOf, List.map_filterMap, ← List.filterMap_eq_filter]
  congr 1
  funext id
  cases found : known id <;> simp [Option.guard, found]

theorem knownFrom_natives
    (admitted : ∀ id value, known id = some value → schema.Admits id value) :
    schema.knownFrom (schema.natives known) = .ok (schema.factsOf known) := by
  rw [knownFrom_eq_ok, natives]
  constructor
  · intro entry member
    obtain ⟨id, _, rendered⟩ := List.mem_filterMap.mp member
    obtain ⟨value, found, rfl⟩ := Option.map_eq_some_iff.mp rendered
    exact ⟨_, coerce_native (admitted id value found)⟩
  · rw [List.filterMap_filterMap, factsOf]
    congr 1
    funext id
    cases found : known id with
    | none => rfl
    | some value => simp [factOf?, coerce_native (admitted id value found)]

end FactsOf

end Schema

namespace Entries

variable {α : Type} {entries : Entries α}

theorem mem_of_get? {key : String} {value : α} (found : entries.get? key = some value) :
    (key, value) ∈ entries := by
  obtain ⟨⟨key', _⟩, first, rfl⟩ := Option.map_eq_some_iff.mp found
  have same : key' = key := by simpa using List.find?_some first
  exact same ▸ List.mem_of_find?_eq_some first

theorem get?_of_mem (distinct : entries.keys.Nodup) {key : String} {value : α}
    (member : (key, value) ∈ entries) : entries.get? key = some value := by
  obtain ⟨other, found⟩ := entries.mem_keys.mp (List.mem_map_of_mem member)
  have one := List.inj_on_of_nodup_map distinct member (mem_of_get? found) rfl
  simp only [Prod.mk.injEq, true_and] at one
  rw [found, one]

end Entries

namespace Schema

variable {schema : Schema} {map : Entries Value}

theorem perm_factsOf (distinct : map.keys.Nodup)
    (admitted : ∀ id value, map.get? id = some value → schema.Admits id value) :
    ((schema.factsOf map.get?).map fun fact => (fact.id, fact.value)).Perm map := by
  have ids : ((schema.factsOf map.get?).map fun fact => (fact.id, fact.value)).map Prod.fst =
      schema.ids.filter fun id => (map.get? id).isSome := by
    rw [List.map_map, ← ids_factsOf]
    rfl
  have distinct' := List.Nodup.of_map Prod.fst (ids ▸ schema.distinct.filter _)
  apply (List.perm_ext_iff_of_nodup distinct' (List.Nodup.of_map _ distinct)).mpr
  rintro ⟨id, value⟩
  rw [List.mem_map]
  constructor
  · rintro ⟨fact, member, same⟩
    cases same
    exact Entries.mem_of_get? (mem_factsOf.mp member).2
  · intro member
    have found := Entries.get?_of_mem distinct member
    have declared := schema.mem_ids.mpr ⟨_, (admitted id value found).declared⟩
    exact ⟨⟨id, value⟩, mem_factsOf.mpr ⟨declared, found⟩, rfl⟩

/-- Coercion refuses a native just if it does not suit the type, and gives the datum of any other one as
a value which it gives again. So a map of such values can be rendered and read back, with nothing lost. -/
theorem coercion_inverts_rendering (schema : Schema) :
    (∀ id type native, schema.get? id = some type → native.IsWellFormed →
      (∀ x, native ≠ .float x) → (∀ i, native = .int i → native.isWritable = true) →
      schema.Coerces id type native) ∧
    ∀ map : Entries Value, map.keys.Nodup →
      (∀ id value, (id, value) ∈ map →
        ∃ native : Native, native.IsWellFormed ∧ schema.coerce id native = .ok (some value)) →
      ∃ facts, schema.knownFrom (schema.natives map.get?) = .ok facts ∧
        (facts.map fun fact => (fact.id, fact.value)).Perm map ∧
        (facts.map Fact.id).Sublist schema.ids := by
  refine ⟨fun _ _ _ => coerces, fun map distinct coerced => ?_⟩
  have admitted (id : String) (value : Value) (found : map.get? id = some value) :
      schema.Admits id value := by
    obtain ⟨native, wellFormed, accepted⟩ := coerced id value (Entries.mem_of_get? found)
    exact coerce_admits wellFormed accepted
  refine ⟨_, knownFrom_natives admitted, perm_factsOf distinct admitted, ?_⟩
  rw [ids_factsOf]
  exact List.filter_sublist

def measured : Schema := ⟨"facts", [("A", .decimal), ("B", .string), ("C", .bool)], by decide⟩

/-- A whole number becomes a decimal, which a truth value does not, and facts that were supplied the
other way around come back in the order of declaration. -/
theorem measured_inverts :
    measured.Coerces "A" .decimal (.int (-3)) ∧ measured.Coerces "A" .decimal (.bool true) ∧
      ∃ facts, measured.knownFrom (measured.natives (Entries.get? [("B", ⟨.string, some (.string "b")⟩),
          ("A", ⟨.decimal, some (.decimal (.finite true 3 0))⟩)])) = .ok facts ∧
        (facts.map fun fact => (fact.id, fact.value)).Perm
          [("B", ⟨.string, some (.string "b")⟩),
            ("A", ⟨.decimal, some (.decimal (.finite true 3 0))⟩)] ∧
        (facts.map Fact.id).Sublist measured.ids := by
  obtain ⟨single, all⟩ := coercion_inverts_rendering measured
  refine ⟨single _ _ _ rfl trivial (by simp) fun _ _ => rfl,
    single _ _ _ rfl trivial (by simp) (by simp), all _ (by decide) ?_⟩
  intro id value member
  rcases List.mem_pair.mp member with same | same <;> cases same
  · exact ⟨.string "b", trivial, rfl⟩
  · exact ⟨.int (-3), trivial, rfl⟩

end Schema

end Deduce
