import Deduce.Engine
import Deduce.Proofs.Typing.Basic
import Mathlib.Data.List.Nodup

/-!
# Typing of supplied facts

What the schema accepts becomes well-typed facts, and what it refuses is refused for one of three
reasons. Natives are checked; a typed value is taken as it is.
-/

namespace Deduce

/-- A typed value is unset or well formed; any other native will do. -/
def Native.IsWellFormed : Native → Prop
  | value v => v.isUnset = true ∨ v.IsWellFormed
  | _ => True

def Supplied.IsWellFormed (supplied : Supplied) : Prop :=
  ∀ entry ∈ supplied, entry.2.IsWellFormed

theorem Supplied.IsWellFormed.singleton {id : String} {native : Native} (h : native.IsWellFormed) :
    IsWellFormed [(id, native)] :=
  List.forall_mem_singleton.mpr h

def Supplied.IsWritable (supplied : Supplied) : Prop :=
  ∀ entry ∈ supplied, entry.2.isWritable = true

/-- Why a supplied entry is refused: its id is not declared, or its typed value has another type, or
its native does not suit the type. -/
inductive Schema.Refuses (schema : Schema) : String × Native → Error → Prop where
  | undeclared {id native} : schema.get? id = none →
      Refuses schema (id, native) (.unknownFact id schema.name)
  | otherType {id type v} : schema.get? id = some type → v.type ≠ type →
      Refuses schema (id, .value v) (.otherTypeSupplied id type v.type)
  | unsuitable {id type native} : schema.get? id = some type → native ≠ .null →
      (∀ v, native ≠ .value v) → native.datum? type = none →
      Refuses schema (id, native)
        ((Error.unsuitableNative type native.kindName native.text).within (.suppliedFact id))

theorem Native.datum?_suits {native : Native} {type : ScalarType} {datum : Datum}
    (h : native.datum? type = some (some datum)) : datum.Suits type := by
  unfold Native.datum? at h
  split at h
  case h_1 s =>
    have filled : s ≠ "" ∧ Datum.string s = datum := by simpa using h
    rw [← filled.2]
    exact filled.1
  case h_2 | h_3 | h_5 =>
    cases h
    trivial
  case h_4 d =>
    have finite : d.isFinite = true ∧ Datum.decimal d = datum := by simpa using h
    rw [← finite.2]
    exact finite.1
  case h_6 x =>
    split at h
    · rename_i d _
      have finite : d.isFinite = true ∧ Datum.decimal d = datum := by simpa using h
      rw [← finite.2]
      exact finite.1
    · cases h
  case h_7 => cases h

theorem Native.eq_int_of_datum? {native : Native} {type : ScalarType} {i : Int}
    (h : native.datum? type = some (some (.int i))) : native = .int i := by
  unfold Native.datum? at h
  split at h
  case h_3 =>
    cases h
    rfl
  case h_6 => split at h <;> simp at h
  all_goals simp at h

theorem Value.ofNative_eq_ok {native : Native} {type : ScalarType} {v : Value}
    (h : Value.ofNative type native = .ok v) :
    v.type = type ∧ native.datum? v.type = some v.data := by
  unfold Value.ofNative at h
  split at h
  · rename_i datum
    cases h
    exact ⟨rfl, datum⟩
  · cases h

theorem Value.set?_eq_some {v w : Value} (h : v.set? = some w) : v = w ∧ w.isUnset = false := by
  unfold Value.set? at h
  split at h
  · cases h
  · rename_i set
    cases h
    exact ⟨rfl, by simpa using set⟩

namespace Schema

variable {schema : Schema} {id : String} {native : Native}

theorem lookup_eq_ok {type : ScalarType} :
    schema.lookup id = .ok type ↔ schema.get? id = some type := by
  unfold lookup
  cases schema.get? id <;> simp

theorem lookup_eq_error {e : Error} (h : schema.lookup id = .error e) :
    schema.get? id = none ∧ e = .unknownFact id schema.name := by
  unfold lookup at h
  cases found : schema.get? id with
  | some type => simp [found] at h
  | none => exact ⟨rfl, by simpa [found, eq_comm] using h⟩

/-- What is accepted is set and has the declared type. Its datum is that of the native, unless it was
supplied as a typed value. -/
theorem accept_eq_ok {value : Value} (h : schema.accept id native = .ok (some value)) :
    schema.get? id = some value.type ∧ value.isUnset = false ∧
      (native = .value value ∨ native.datum? value.type = some value.data) := by
  unfold accept at h
  split at h
  · cases h
  · rename_i type declared
    have declared := lookup_eq_ok.mp declared
    split at h
    · cases h
    · rename_i v
      split at h
      · rename_i same
        simp only [Except.ok.injEq] at h
        obtain ⟨rfl, set⟩ := Value.set?_eq_some h
        exact ⟨same ▸ declared, set, .inl rfl⟩
      · cases h
    · split at h
      · rename_i v typed
        simp only [Except.ok.injEq] at h
        obtain ⟨rfl, set⟩ := Value.set?_eq_some h
        obtain ⟨same, datum⟩ := Value.ofNative_eq_ok typed
        exact ⟨same ▸ declared, set, .inr datum⟩
      · cases h

theorem accept_admits {value : Value} (wellFormed : native.IsWellFormed)
    (h : schema.accept id native = .ok (some value)) : schema.Admits id value := by
  obtain ⟨declared, set, supplied | denoted⟩ := accept_eq_ok h
  · subst supplied
    exact ⟨declared, wellFormed.resolve_left (by simp [set])⟩
  · obtain ⟨type, data⟩ := value
    cases data with
    | none => cases set
    | some datum => exact ⟨declared, datum, rfl, Native.datum?_suits denoted⟩

theorem accept_refuses {e : Error} (h : schema.accept id native = .error e) :
    schema.Refuses (id, native) e := by
  unfold accept at h
  split at h
  · rename_i unknown
    obtain ⟨missing, rfl⟩ := lookup_eq_error unknown
    cases h
    exact .undeclared missing
  · rename_i type declared
    have declared := lookup_eq_ok.mp declared
    split at h
    · cases h
    · split at h
      · cases h
      · rename_i other
        cases h
        exact .otherType declared other
    · rename_i notNull notValue
      unfold Value.ofNative at h
      cases datum : native.datum? type with
      | some data => simp [datum] at h
      | none =>
        simp only [datum, Except.error.injEq] at h
        rw [← h]
        exact .unsuitable declared notNull (fun v same => notValue v same) datum

/-- Coercion is acceptance, as long as nothing has to be written out that cannot be. -/
theorem coerce_eq (written : native.isWritable = true ∨ ∀ type ∈ schema.get? id, native.isTaken type) :
    schema.coerce id native = (schema.accept id native).mapError .error := by
  refine if_pos ?_
  rw [Bool.or_eq_true, Option.all_eq_true]
  exact written

theorem coerce_eq_ok {value? : Option Value} (h : schema.coerce id native = .ok value?) :
    schema.accept id native = .ok value? := by
  unfold coerce at h
  split at h
  · exact mapError_eq_ok.mp h
  · cases h

theorem coerce_admits {value : Value} (wellFormed : native.IsWellFormed)
    (h : schema.coerce id native = .ok (some value)) : schema.Admits id value :=
  accept_admits wellFormed (coerce_eq_ok h)

theorem isWritable_of_coerce {value : Value} (written : native.isWritable = true)
    (h : schema.coerce id native = .ok (some value)) : value.isWritable = true := by
  obtain ⟨_, _, rfl | denoted⟩ := accept_eq_ok (coerce_eq_ok h)
  · simpa only [Native.isWritable] using written
  · obtain ⟨type, data⟩ := value
    match data with
    | none | some (.string _) | some (.decimal _) | some (.bool _) | some (.float _) => rfl
    | some (.int i) =>
      rw [Native.eq_int_of_datum? denoted, Native.isWritable] at written
      exact written

theorem coerce_eq_error {failure : Failure} (h : schema.coerce id native = .error failure) :
    (∃ e, failure = .error e ∧ schema.Refuses (id, native) e) ∨
      failure = .defect (.tooManyDigits none) ∧ native.isWritable = false := by
  unfold coerce at h
  split at h
  · obtain ⟨e, refused, same⟩ := mapError_eq_error.mp h
    exact .inl ⟨e, same.symm, accept_refuses refused⟩
  · rename_i overlong
    cases h
    exact .inr ⟨rfl, by simpa using (not_or.mp (mt (Bool.or_eq_true _ _).mpr overlong)).1⟩

def Takes (schema : Schema) (supplied : Supplied) (id : String) (value : Value) : Prop :=
  ∃ native, (id, native) ∈ supplied ∧ schema.coerce id native = .ok (some value)

theorem mem_knownFrom {supplied : Supplied} {known : Facts}
    (h : schema.knownFrom supplied = .ok known) {fact : Fact} :
    fact ∈ known ↔ schema.Takes supplied fact.id fact.value := by
  induction supplied generalizing known with
  | nil =>
    cases h
    simp [Takes]
  | cons entry rest ih =>
    obtain ⟨id, native⟩ := entry
    have split : schema.Takes ((id, native) :: rest) fact.id fact.value ↔
        (fact.id = id ∧ schema.coerce id native = .ok (some fact.value)) ∨
          schema.Takes rest fact.id fact.value := by
      simp only [Takes, List.mem_cons, Prod.mk.injEq]
      constructor
      · rintro ⟨native', ⟨same, rfl⟩ | later, accepted⟩
        · exact .inl ⟨same, same ▸ accepted⟩
        · exact .inr ⟨native', later, accepted⟩
      · rintro (⟨same, accepted⟩ | ⟨native', later, accepted⟩)
        · exact ⟨native, .inl ⟨same, rfl⟩, same ▸ accepted⟩
        · exact ⟨native', .inr later, accepted⟩
    rw [split]
    simp only [knownFrom] at h
    cases accepted : schema.coerce id native with
    | error e => simp [accepted] at h
    | ok value? =>
      cases value? with
      | none =>
        simp only [accepted] at h
        simp [ih h]
      | some value =>
        simp only [accepted, map_eq_ok] at h
        obtain ⟨facts, tail, rfl⟩ := h
        obtain ⟨id', value'⟩ := fact
        simp [ih tail, eq_comm]

theorem knownFrom_wellTyped {supplied : Supplied} {known : Facts}
    (wellFormed : supplied.IsWellFormed) (h : schema.knownFrom supplied = .ok known) :
    Facts.WellTyped schema known := by
  intro fact member
  obtain ⟨native, entry, accepted⟩ := (mem_knownFrom h).mp member
  exact coerce_admits (wellFormed _ entry) accepted

theorem knownFrom_isWritable {supplied : Supplied} {known : Facts} (written : supplied.IsWritable)
    (h : schema.knownFrom supplied = .ok known) {fact : Fact} (member : fact ∈ known) :
    fact.value.isWritable = true := by
  obtain ⟨native, entry, coerced⟩ := (mem_knownFrom h).mp member
  exact isWritable_of_coerce (written _ entry) coerced

theorem has_knownFrom {supplied : Supplied} {known : Facts}
    (h : schema.knownFrom supplied = .ok known) (id : String) :
    known.has id = true ↔ ∃ value, schema.Takes supplied id value := by
  rw [Facts.has_iff]
  constructor
  · rintro ⟨fact, member, rfl⟩
    exact ⟨fact.value, (mem_knownFrom h).mp member⟩
  · rintro ⟨value, taken⟩
    exact ⟨⟨id, value⟩, (mem_knownFrom h).mpr taken, rfl⟩

/-- Where each id is supplied once, its fact is known with just the value that is supplied. -/
theorem find?_knownFrom {supplied : Supplied} (distinct : supplied.keys.Nodup) {known : Facts}
    (h : schema.knownFrom supplied = .ok known) {id : String} {value : Value}
    (taken : schema.Takes supplied id value) : known.find? id = some ⟨id, value⟩ := by
  obtain ⟨fact, found⟩ := Option.isSome_iff_exists.mp ((has_knownFrom h id).mpr ⟨value, taken⟩)
  have same : fact.id = id := by simpa using List.find?_some found
  subst same
  obtain ⟨native, entry, accepted⟩ := (mem_knownFrom h).mp (List.mem_of_find?_eq_some found)
  obtain ⟨native', entry', accepted'⟩ := taken
  have one := List.inj_on_of_nodup_map distinct entry entry' rfl
  simp only [Prod.mk.injEq, true_and] at one
  rw [one, accepted', Except.ok.injEq, Option.some.injEq] at accepted
  rw [accepted]
  exact found

theorem knownFrom_eq_error {supplied : Supplied} {failure : Failure}
    (h : schema.knownFrom supplied = .error failure) :
    ∃ entry ∈ supplied, (∃ e, failure = .error e ∧ schema.Refuses entry e) ∨
      failure = .defect (.tooManyDigits none) ∧ entry.2.isWritable = false := by
  induction supplied with
  | nil => cases h
  | cons entry rest ih =>
    obtain ⟨id, native⟩ := entry
    simp only [knownFrom] at h
    cases coerced : schema.coerce id native with
    | error failure' =>
      simp only [coerced, Except.error.injEq] at h
      exact ⟨_, List.mem_cons_self, coerce_eq_error (h ▸ coerced)⟩
    | ok value? =>
      have failed : schema.knownFrom rest = .error failure := by
        cases value? with
        | none => simpa only [coerced] using h
        | some value => simpa only [coerced, map_eq_error] using h
      obtain ⟨entry, member, cause⟩ := ih failed
      exact ⟨entry, List.mem_cons_of_mem _ member, cause⟩

end Schema

end Deduce
