import Deduce.Proofs.Quantity
import Deduce.Proofs.Typing.Basic
import Mathlib.Data.Finset.Card

/-!
# Known facts as maps

Known facts are a map from ids to facts, in which the first fact of an id stands. Two orders compare
such maps: a submap has the same facts, and a map within another has equal ones. What a pass produces
is established by extending the map, unless a produced fact differs from the one that stands.
-/

namespace Deduce

attribute [ext] Fact

theorem Schema.Admits.isTyped {schema : Schema} {id : String} {value : Value}
    (admitted : schema.Admits id value) : value.IsTyped :=
  admitted.wellFormed.isTyped

namespace Facts

def Submap (known more : Facts) : Prop :=
  ∀ id fact, known.find? id = some fact → more.find? id = some fact

def Holds (known : Facts) (fact : Fact) : Prop :=
  ∃ found, known.find? fact.id = some found ∧ found.value.compare .equal fact.value = .ok true

/-- Each fact known here is known there with an equal value. -/
def Within (known more : Facts) : Prop :=
  ∀ id fact, known.find? id = some fact → more.Holds fact

def ids (known : Facts) : Finset String := (known.map Fact.id).toFinset

theorem id_of_find? {known : Facts} {id : String} {fact : Fact} (h : known.find? id = some fact) :
    fact.id = id := by
  simpa using List.find?_some h

theorem has_of_find? {known : Facts} {id : String} {fact : Fact} (h : known.find? id = some fact) :
    known.has id = true := by
  rw [has, h]
  rfl

theorem find?_eq_none {known : Facts} {id : String} :
    known.find? id = none ↔ known.has id = false := by
  simp [has]

theorem mem_ids (known : Facts) (id : String) : id ∈ known.ids ↔ known.has id = true := by
  simp [ids, has_iff]

theorem find?_eq_some {known : Facts} (distinct : (known.map Fact.id).Nodup) {id : String}
    {fact : Fact} : known.find? id = some fact ↔ fact ∈ known ∧ fact.id = id := by
  constructor
  · exact fun found => ⟨List.mem_of_find?_eq_some found, id_of_find? found⟩
  · rintro ⟨member, rfl⟩
    obtain ⟨other, found⟩ :=
      Option.isSome_iff_exists.mp ((has_iff known fact.id).mpr ⟨fact, member, rfl⟩)
    have one := List.inj_on_of_nodup_map distinct (List.mem_of_find?_eq_some found) member
      (id_of_find? found)
    rw [← one] at found ⊢
    exact found

theorem find?_learn (known : Facts) (fact : Fact) (id : String) :
    (known.learn fact).find? id = (known.find? id).or (find? [fact] id) := by
  unfold learn
  split
  · rename_i established
    cases found : known.find? id with
    | some other => rfl
    | none =>
      have other : fact.id ≠ id := by
        rintro rfl
        rw [has, found] at established
        cases established
      simp [find?, other]
  · simp [find?, List.find?_append]

theorem find?_cons (fact : Fact) (rest : List Fact) (id : String) :
    find? (fact :: rest) id = (find? [fact] id).or (find? rest id) := by
  simp only [find?, List.find?_cons, List.find?_nil]
  cases fact.id == id <;> rfl

theorem find?_learnAll (known : Facts) (facts : List Fact) (id : String) :
    (known.learnAll facts).find? id = (known.find? id).or (find? facts id) := by
  induction facts generalizing known with
  | nil => simp [learnAll]
  | cons fact rest ih =>
    have step := ih (known.learn fact)
    simp only [learnAll, List.foldl_cons] at step ⊢
    rw [step, find?_learn, Option.or_assoc, find?_cons fact rest]

theorem learnAll_append (known : Facts) (facts more : List Fact) :
    known.learnAll (facts ++ more) = (known.learnAll facts).learnAll more :=
  List.foldl_append

theorem isPrefix_learnAll (known : Facts) (facts : List Fact) :
    known.IsPrefix (known.learnAll facts) := by
  induction facts generalizing known with
  | nil => exact List.prefix_rfl
  | cons fact rest ih =>
    refine List.IsPrefix.trans ?_ (ih (known.learn fact))
    unfold learn
    split
    · exact List.prefix_rfl
    · exact List.prefix_append known [fact]

theorem mem_learnAll {known : Facts} {facts : List Fact} {fact : Fact}
    (member : fact ∈ known.learnAll facts) : fact ∈ known ∨ fact ∈ facts := by
  induction facts generalizing known with
  | nil => exact .inl member
  | cons head rest ih =>
    rcases @ih (known.learn head) member with old | new
    · unfold learn at old
      split at old
      · exact .inl old
      · rcases List.mem_append.mp old with old | own
        · exact .inl old
        · exact .inr (List.mem_singleton.mp own ▸ List.mem_cons_self)
    · exact .inr (List.mem_cons_of_mem _ new)

theorem WellTyped.learn {schema : Schema} {known : Facts} (h : WellTyped schema known) {fact : Fact}
    (admitted : schema.Admits fact.id fact.value) : WellTyped schema (known.learn fact) := by
  unfold Facts.learn
  split
  · exact h
  · exact h.append (WellTyped.singleton admitted)

theorem WellTyped.learnAll {schema : Schema} {known : Facts} (h : WellTyped schema known)
    {facts : List Fact} (admitted : WellTyped schema facts) :
    WellTyped schema (known.learnAll facts) := by
  induction facts generalizing known with
  | nil => exact h
  | cons fact rest ih =>
    exact ih (h.learn (admitted fact List.mem_cons_self)) admitted.tail

theorem Submap.refl (known : Facts) : known.Submap known := fun _ _ found => found

theorem Submap.trans {first second third : Facts} (h : first.Submap second)
    (h' : second.Submap third) : first.Submap third :=
  fun id fact found => h' id fact (h id fact found)

theorem submap_learnAll (known : Facts) (facts : List Fact) :
    known.Submap (known.learnAll facts) := by
  intro id fact found
  rw [find?_learnAll, found]
  rfl

theorem Submap.has {known more : Facts} (h : known.Submap more) {id : String}
    (present : known.has id = true) : more.has id = true := by
  obtain ⟨fact, found⟩ := Option.isSome_iff_exists.mp present
  exact has_of_find? (h id fact found)

theorem Submap.ids_subset {known more : Facts} (h : known.Submap more) : known.ids ⊆ more.ids := by
  intro id member
  rw [mem_ids] at member ⊢
  exact h.has member

variable {schema : Schema} {known more : Facts}

theorem holds_iff (typed : WellTyped schema known) {fact : Fact}
    (admitted : schema.Admits fact.id fact.value) :
    known.Holds fact ↔
      ∃ found, known.find? fact.id = some found ∧ found.value.Agrees fact.value := by
  constructor
  · rintro ⟨found, present, equal⟩
    have wellFormed := (typed.find present).2.wellFormed
    exact ⟨found, present, (Value.compare_equal_iff wellFormed admitted.wellFormed).mp equal⟩
  · rintro ⟨found, present, agrees⟩
    have wellFormed := (typed.find present).2.wellFormed
    exact ⟨found, present, (Value.compare_equal_iff wellFormed admitted.wellFormed).mpr agrees⟩

theorem within_iff (typed : WellTyped schema known) (typed' : WellTyped schema more) :
    known.Within more ↔ ∀ id fact, known.find? id = some fact →
      ∃ found, more.find? id = some found ∧ found.value.Agrees fact.value := by
  constructor
  · intro h id fact found
    obtain ⟨same, admitted⟩ := typed.find found
    subst same
    exact (holds_iff typed' admitted).mp (h fact.id fact found)
  · intro h id fact found
    obtain ⟨same, admitted⟩ := typed.find found
    subst same
    exact (holds_iff typed' admitted).mpr (h fact.id fact found)

theorem Submap.within (h : known.Submap more) (typed : WellTyped schema known)
    (typed' : WellTyped schema more) : known.Within more := by
  rw [within_iff typed typed']
  intro id fact found
  exact ⟨fact, h id fact found, .refl _⟩

theorem Within.has (h : known.Within more) {id : String} (present : known.has id = true) :
    more.has id = true := by
  obtain ⟨fact, found⟩ := Option.isSome_iff_exists.mp present
  obtain ⟨other, found', _⟩ := h id fact found
  rw [id_of_find? found] at found'
  exact has_of_find? found'

theorem Within.learnAll (h : known.Within more) {facts : List Fact}
    (held : ∀ fact ∈ facts, more.Holds fact) : (known.learnAll facts).Within more := by
  intro id fact found
  rw [find?_learnAll, Option.or_eq_some_iff] at found
  rcases found with old | ⟨_, new⟩
  · exact h id fact old
  · exact held fact (List.mem_of_find?_eq_some new)

theorem Holds.within (h : known.Within more) (typed : WellTyped schema known)
    (typed' : WellTyped schema more) {fact : Fact} (admitted : schema.Admits fact.id fact.value)
    (held : known.Holds fact) : more.Holds fact := by
  rw [within_iff typed typed'] at h
  rw [holds_iff typed admitted] at held
  rw [holds_iff typed' admitted]
  obtain ⟨found, present, agrees⟩ := held
  obtain ⟨other, present', agrees'⟩ := h fact.id found present
  exact ⟨other, present', agrees'.trans agrees⟩

theorem Within.trans {most : Facts} (h : known.Within more) (h' : more.Within most)
    (typed : WellTyped schema known) (typed' : WellTyped schema more)
    (typed'' : WellTyped schema most) : known.Within most := by
  intro id fact found
  have admitted := typed fact (List.mem_of_find?_eq_some found)
  exact (h id fact found).within h' typed' typed'' admitted

theorem establish_eq_ok {facts : List Fact} {all : Facts} {added : Nat}
    (h : known.establish facts = .ok (all, added)) :
    all = known.learnAll facts ∧ all.length = known.length + added := by
  induction facts generalizing known added with
  | nil =>
    cases h
    exact ⟨rfl, rfl⟩
  | cons fact rest ih =>
    simp only [establish] at h
    split at h
    · rename_i absent
      obtain ⟨⟨all', added'⟩, tail, same⟩ := map_eq_ok.mp h
      cases same
      have new : known.learn fact = known ++ [fact] := by simp [learn, has, absent]
      obtain ⟨rfl, length⟩ := ih tail
      refine ⟨by rw [← new]; rfl, ?_⟩
      rw [length, List.length_append, List.length_singleton]
      omega
    · rename_i established present
      have old : known.learn fact = known := by simp [learn, has, present]
      split at h
      · cases h
      · obtain ⟨rfl, length⟩ := ih h
        exact ⟨by simp only [learnAll, List.foldl_cons, old], length⟩
      · cases h

theorem learnAll_eq_of_establish {facts : List Fact} {all : Facts}
    (h : known.establish facts = .ok (all, 0)) : known.learnAll facts = known := by
  obtain ⟨rfl, length⟩ := establish_eq_ok h
  exact ((isPrefix_learnAll known facts).eq_of_length length.symm).symm

theorem card_ids_of_establish {facts : List Fact} {all : Facts} {added : Nat}
    (h : known.establish facts = .ok (all, added)) : all.ids.card = known.ids.card + added := by
  induction facts generalizing known added with
  | nil =>
    cases h
    rfl
  | cons fact rest ih =>
    simp only [establish] at h
    split at h
    · rename_i absent
      obtain ⟨⟨all', added'⟩, tail, same⟩ := map_eq_ok.mp h
      cases same
      have new : fact.id ∉ known.ids := by simp [mem_ids, has, absent]
      have more : ids (known ++ [fact]) = insert fact.id known.ids := by
        ext id
        simp [ids]
      rw [ih tail, more, Finset.card_insert_of_notMem new]
      omega
    · split at h
      · cases h
      · exact ih h
      · cases h

theorem card_added {facts : List Fact} {all : Facts} {added : Nat}
    (h : known.establish facts = .ok (all, added)) : added = (all.ids \ known.ids).card := by
  have grown : known.Submap all := by
    rw [(establish_eq_ok h).1]
    exact submap_learnAll known facts
  have counted := card_ids_of_establish h
  have apart := Finset.card_sdiff_add_card_eq_card grown.ids_subset
  omega

/-- All that is established holds in the end, also where what was known before is not well typed. -/
theorem holds_of_establish {facts : List Fact} {all : Facts} {added : Nat}
    (typed : WellTyped schema facts) (h : known.establish facts = .ok (all, added)) :
    ∀ fact ∈ facts, all.Holds fact := by
  induction facts generalizing known added with
  | nil =>
    intro fact member
    cases member
  | cons fact rest ih =>
    have wellFormed := (typed fact List.mem_cons_self).wellFormed
    have whole := (establish_eq_ok h).1
    simp only [establish] at h
    split at h
    · rename_i absent
      obtain ⟨⟨all', added'⟩, tail, same⟩ := map_eq_ok.mp h
      cases same
      intro other member
      rcases List.mem_cons.mp member with rfl | later
      · refine ⟨other, ?_, Value.compare_equal_self wellFormed⟩
        rw [whole, find?_learnAll, absent, find?_cons]
        simp [find?]
      · exact ih typed.tail tail other later
    · rename_i established present
      split at h
      · cases h
      · rename_i equal
        intro other member
        rcases List.mem_cons.mp member with rfl | later
        · refine ⟨established, ?_, equal⟩
          rw [whole]
          exact submap_learnAll known _ other.id established present
        · exact ih typed.tail h other later
      · cases h

/-- Establishing well-typed facts fails only on one that differs from the fact that stands, the first
of those to do so. -/
theorem establish_eq_error {facts : List Fact} {failure : Failure}
    (typed : WellTyped schema known) (typed' : WellTyped schema facts)
    (h : known.establish facts = .error failure) :
    ∃ front new back established, facts = front ++ new :: back ∧
      failure = .contradiction established new ∧
      (∀ fact ∈ front, (known.learnAll facts).Holds fact) ∧
      (known.learnAll facts).find? new.id = some established ∧
      established.value.compare .equal new.value = .ok false := by
  induction facts generalizing known with
  | nil => cases h
  | cons fact rest ih =>
    have admitted := typed' fact List.mem_cons_self
    have rest' := typed'.tail
    -- the facts behind the first one fail as they do where the first one is known
    have later (typedNext : WellTyped schema (known.learn fact))
        (failed : (known.learn fact).establish rest = .error failure)
        (held : (known.learnAll (fact :: rest)).Holds fact) :
        ∃ front new back established, fact :: rest = front ++ new :: back ∧
          failure = .contradiction established new ∧
          (∀ other ∈ front, (known.learnAll (fact :: rest)).Holds other) ∧
          (known.learnAll (fact :: rest)).find? new.id = some established ∧
          established.value.compare .equal new.value = .ok false := by
      obtain ⟨front, new, back, established, split, same, before, stands, differs⟩ :=
        ih typedNext rest' failed
      refine ⟨fact :: front, new, back, established, by rw [split]; rfl, same, ?_, stands, differs⟩
      intro other member
      rcases List.mem_cons.mp member with rfl | behind
      · exact held
      · exact before other behind
    simp only [establish] at h
    split at h
    · rename_i absent
      have step : known.learn fact = known ++ [fact] := by simp [learn, has, absent]
      refine later (typed.learn admitted) (step ▸ map_eq_error.mp h) ?_
      refine ⟨fact, ?_, Value.compare_equal_self admitted.wellFormed⟩
      rw [find?_learnAll, absent, find?_cons]
      simp [find?]
    · rename_i established present
      have admitted' := (typed.find present).2
      have types : established.value.type = fact.value.type :=
        Option.some.inj (admitted'.declared.symm.trans admitted.declared)
      have stands : (known.learnAll (fact :: rest)).find? fact.id = some established :=
        submap_learnAll known _ fact.id established present
      split at h
      · rename_i failed
        rw [Value.compare_equal admitted'.isTyped admitted.isTyped types] at failed
        cases failed
      · rename_i equal
        have step : known.learn fact = known := by simp [learn, has, present]
        exact later (typed.learn admitted) (step.symm ▸ h) ⟨established, stands, equal⟩
      · rename_i differs
        cases h
        exact ⟨[], fact, rest, established, rfl, rfl, by simp, stands, differs⟩

/-- The contradiction of an integer of too many digits cannot be told. -/
theorem establish_overlong (id : String) {i j : Int} (overlong : (Datum.int i).isWritable = false)
    (other : i ≠ j) : establish [⟨id, ⟨.int, some (.int i)⟩⟩] [⟨id, ⟨.int, some (.int j)⟩⟩] =
      .error (.defect (.tooManyDigits none)) := by
  have found : find? [⟨id, ⟨.int, some (.int i)⟩⟩] id = some ⟨id, ⟨.int, some (.int i)⟩⟩ := by
    simp [find?]
  have compared : Value.compare .equal ⟨.int, some (.int i)⟩ ⟨.int, some (.int j)⟩ = .ok false := by
    have order : compare i j ≠ .eq := by simpa using other
    have unequal : Operator.equal.holds (compare i j) = false := by simpa [Operator.holds] using order
    exact congrArg Except.ok unequal
  simp [establish, found, compared, Failure.contradiction, Failure.quoting, Value.isWritable, overlong]

theorem establish_iff {facts : List Fact} (typed : WellTyped schema known)
    (typed' : WellTyped schema facts) :
    (∃ all added, known.establish facts = .ok (all, added)) ↔
      ∀ fact ∈ facts, (known.learnAll facts).Holds fact := by
  constructor
  · rintro ⟨all, added, established⟩
    rw [← (establish_eq_ok established).1]
    exact holds_of_establish typed' established
  · intro held
    cases result : known.establish facts with
    | ok established => exact ⟨established.1, established.2, rfl⟩
    | error failure =>
      obtain ⟨front, new, back, established, split, _, _, stands, differs⟩ :=
        establish_eq_error typed typed' result
      obtain ⟨found, present, equal⟩ := held new (by simp [split])
      rw [stands, Option.some.injEq] at present
      rw [← present, differs] at equal
      cases equal

end Facts

end Deduce
