import Deduce.Proofs.Reading.Drafts

/-!
# Documents put together

A document is read one rule after the other, so that two documents one behind the other are read as
each of them is, and a refusal is that of the first element that gives offence. Within a rule the
attributes are read into places of their own, and their order does not matter.
-/

namespace Deduce

variable {schema : Schema} {context : String}

def Attribute.Content : Attribute → Type
  | .name => Option String
  | .description => Option String
  | .conditions => ConditionSet
  | .facts => List Fact
  | .actions => List Action

def Attribute.read (schema : Schema) (value : Tree) :
    (a : Attribute) → Except Failure a.Content
  | .name => .ok value.text?
  | .description => .ok value.text?
  | .conditions => readConditions schema value
  | .facts => readFacts schema value
  | .actions => readActions value

namespace Draft

variable {draft next last : Draft} {a b : Attribute}

def put (draft : Draft) : (a : Attribute) → a.Content → Draft
  | .name, text => { draft with name := some text }
  | .description, text => { draft with description := some text }
  | .conditions, set => { draft with conditions := some set }
  | .facts, facts => { draft with facts := some facts }
  | .actions, actions => { draft with actions := some actions }

theorem set_eq_ok {value : Tree} :
    draft.set schema value a = .ok next ↔
      ∃ content, a.read schema value = .ok content ∧ draft.put a content = next := by
  cases a with
  | name => simp [set, Attribute.read, put, Attribute.Content]
  | description => simp [set, Attribute.read, put, Attribute.Content]
  | conditions => exact map_eq_ok
  | facts => exact map_eq_ok
  | actions => exact map_eq_ok

theorem has_put (draft : Draft) (content : a.Content) (b : Attribute) :
    (draft.put a content).has b = (a == b || draft.has b) := by
  cases a <;> cases b <;> rfl

theorem put_comm (apart : a ≠ b) (content : a.Content) (content' : b.Content) :
    (draft.put a content).put b content' = (draft.put b content').put a content := by
  cases a <;> cases b <;> first | rfl | exact absurd rfl apart

/-- Of two pairs that are accepted, the second may as well come first. -/
theorem add_swap {key value key' value' : Tree}
    (first : draft.add schema context key value = .ok next)
    (second : next.add schema context key' value' = .ok last) :
    ∃ other, draft.add schema context key' value' = .ok other ∧
      other.add schema context key value = .ok last := by
  obtain ⟨a, rfl, new, read⟩ := add_eq_ok_iff.mp first
  obtain ⟨b, rfl, new', read'⟩ := add_eq_ok_iff.mp second
  obtain ⟨content, said, rfl⟩ := set_eq_ok.mp read
  obtain ⟨content', said', rfl⟩ := set_eq_ok.mp read'
  -- the second attribute was still unread behind the first, so it is another one
  rw [has_put, Bool.or_eq_false_iff, beq_eq_false_iff_ne] at new'
  obtain ⟨apart, fresh⟩ := new'
  refine ⟨draft.put b content', ?_, ?_⟩
  · exact add_eq_ok_iff.mpr ⟨b, rfl, fresh, set_eq_ok.mpr ⟨content', said', rfl⟩⟩
  · have unread : (draft.put b content').has a = false := by
      rw [has_put, new, Bool.or_false, beq_eq_false_iff_ne]
      exact apart.symm
    exact add_eq_ok_iff.mpr
      ⟨a, rfl, unread, set_eq_ok.mpr ⟨content, said, (put_comm apart content content').symm⟩⟩

theorem addAll_cons_eq_ok {pair : Tree × Tree} {pairs : List (Tree × Tree)} :
    draft.addAll schema context (pair :: pairs) = .ok last ↔
      ∃ next, draft.add schema context pair.1 pair.2 = .ok next ∧
        next.addAll schema context pairs = .ok last := by
  simp only [addAll]
  cases draft.add schema context pair.1 pair.2 <;> simp

theorem addAll_perm {pairs pairs' : List (Tree × Tree)} (permuted : pairs.Perm pairs')
    (h : draft.addAll schema context pairs = .ok last) :
    draft.addAll schema context pairs' = .ok last := by
  induction permuted generalizing draft with
  | nil => exact h
  | cons pair _ ih =>
    obtain ⟨next, added, rest⟩ := addAll_cons_eq_ok.mp h
    exact addAll_cons_eq_ok.mpr ⟨next, added, ih rest⟩
  | swap pair pair' pairs =>
    obtain ⟨next, first, later⟩ := addAll_cons_eq_ok.mp h
    obtain ⟨next', second, rest⟩ := addAll_cons_eq_ok.mp later
    obtain ⟨other, second', first'⟩ := add_swap first second
    exact addAll_cons_eq_ok.mpr ⟨other, second', addAll_cons_eq_ok.mpr ⟨next', first', rest⟩⟩
  | trans _ _ ih ih' => exact ih' (ih h)

theorem rule_eq_ok_congr {rule : Rule} {context : String} (h : draft.rule context = .ok rule)
    (context' : String) : draft.rule context' = .ok rule := by
  unfold Draft.rule at h ⊢
  split at h
  · cases h
  · exact h

end Draft

theorem readRule_mapping_eq_ok (context : String) {pairs : List (Tree × Tree)} {rule : Rule} :
    readRule schema (.mapping pairs) = .ok rule ↔
      ∃ draft, ({} : Draft).addAll schema context pairs = .ok draft ∧
        draft.rule context = .ok rule := by
  simp only [readRule, Tree.pairs?]
  constructor
  · intro h
    split at h
    · cases h
    · rename_i draft read
      exact ⟨draft, Draft.addAll_eq_ok_congr read context, Draft.rule_eq_ok_congr h context⟩
  · rintro ⟨draft, read, made⟩
    rw [Draft.addAll_eq_ok_congr read]
    exact Draft.rule_eq_ok_congr made _

theorem readRule_perm {pairs pairs' : List (Tree × Tree)} {rule : Rule}
    (permuted : pairs.Perm pairs') (h : readRule schema (.mapping pairs) = .ok rule) :
    readRule schema (.mapping pairs') = .ok rule := by
  obtain ⟨draft, read, made⟩ := (readRule_mapping_eq_ok "").mp h
  exact (readRule_mapping_eq_ok "").mpr ⟨draft, Draft.addAll_perm permuted read, made⟩

/-- An element behind others gives offence if it is no rule, or a rule of the name of one of them. -/
inductive Offends (schema : Schema) (front : List Tree) (item : Tree) : Failure → Prop where
  | unreadable {failure : Failure} (failed : readRule schema item = .error failure) :
      Offends schema front item failure
  | repeated {earlier : Tree} {previous rule : Rule} (before : earlier ∈ front)
      (there : readRule schema earlier = .ok previous) (here : readRule schema item = .ok rule)
      (same : previous.name = rule.name) :
      Offends schema front item (.error (.repeatedRule rule.name))

def FirstOffence (schema : Schema) (items : List Tree) (failure : Failure) : Prop :=
  ∃ front item back, items = front ++ item :: back ∧ Offends schema front item failure ∧
    ∀ before x between, front = before ++ x :: between → ∀ f, ¬ Offends schema before x f

namespace RuleTable

variable {items front back : List Tree} {item : Tree} {table : RuleTable} {failure : Failure}

theorem ofTree_sequence_eq_ok :
    ofTree schema (.sequence items) = .ok table ↔
      List.Forall₂ (fun item rule => readRule schema item = .ok rule) items table ∧
        (table.map Rule.name).Nodup := by
  simp [ofTree_eq_ok_iff]

theorem ofTree_append_eq_ok :
    ofTree schema (.sequence (front ++ back)) = .ok table ↔
      ∃ first second, ofTree schema (.sequence front) = .ok first ∧
        ofTree schema (.sequence back) = .ok second ∧
        (∀ r ∈ first, ∀ s ∈ second, r.name ≠ s.name) ∧ table = first ++ second := by
  simp only [ofTree_sequence_eq_ok, forall₂_append_left_iff]
  constructor
  · rintro ⟨⟨first, second, eachFirst, eachSecond, rfl⟩, distinct⟩
    rw [List.map_append, List.nodup_append] at distinct
    obtain ⟨distinctFirst, distinctSecond, apart⟩ := distinct
    refine ⟨first, second, ⟨eachFirst, distinctFirst⟩, ⟨eachSecond, distinctSecond⟩, ?_, rfl⟩
    exact fun r here s there => apart _ (List.mem_map_of_mem here) _ (List.mem_map_of_mem there)
  · rintro ⟨first, second, ⟨eachFirst, distinctFirst⟩, ⟨eachSecond, distinctSecond⟩, apart, rfl⟩
    refine ⟨⟨first, second, eachFirst, eachSecond, rfl⟩, ?_⟩
    rw [List.map_append, List.nodup_append]
    refine ⟨distinctFirst, distinctSecond, ?_⟩
    simpa using apart

theorem offends_iff (accepted : ofTree schema (.sequence front) = .ok table) :
    Offends schema front item failure ↔
      readRule schema item = .error failure ∨
        ∃ rule, readRule schema item = .ok rule ∧ table.any (·.name == rule.name) = true ∧
          failure = .error (.repeatedRule rule.name) := by
  have each := (ofTree_sequence_eq_ok.mp accepted).1
  constructor
  · rintro (failed | ⟨before, there, here, same⟩)
    · exact .inl failed
    · obtain ⟨rule, member, read⟩ := exists_left_of_forall₂ each.flip before
      cases there.symm.trans read
      exact .inr ⟨_, here, List.any_eq_true.mpr ⟨_, member, by simpa using same⟩, rfl⟩
  · rintro (failed | ⟨rule, here, repeats, rfl⟩)
    · exact .unreadable failed
    · obtain ⟨previous, member, same⟩ := List.any_eq_true.mp repeats
      obtain ⟨earlier, before, there⟩ := exists_left_of_forall₂ each member
      exact .repeated before there here (by simpa using same)

/-- Reading stops at the first element that gives offence behind those that are accepted. -/
theorem ofTree_eq_error_iff :
    ofTree schema (.sequence items) = .error failure ↔
      ∃ front item back table, items = front ++ item :: back ∧
        ofTree schema (.sequence front) = .ok table ∧ Offends schema front item failure := by
  have reading (front : List Tree) : ofTree schema (.sequence front) =
      gather (readRule schema) (fun r s => r.name == s.name) (fun r => .repeatedRule r.name) []
        front := readFrom_eq_gather [] front
  constructor
  · intro h
    rw [reading, gather_eq_error_iff] at h
    obtain ⟨front, item, back, table, rfl, accepted, refused⟩ := h
    rw [← reading] at accepted
    exact ⟨front, item, back, table, rfl, accepted, (offends_iff accepted).mpr refused⟩
  · rintro ⟨front, item, back, table, rfl, accepted, offends⟩
    rw [reading, gather_eq_error_iff]
    have refused := (offends_iff accepted).mp offends
    rw [reading] at accepted
    exact ⟨front, item, back, table, rfl, accepted, refused⟩

theorem exists_ofTree_iff :
    (∃ table, ofTree schema (.sequence items) = .ok table) ↔
      ∀ front item back, items = front ++ item :: back → ∀ f, ¬ Offends schema front item f := by
  constructor
  · rintro ⟨table, accepted⟩ front item back rfl f offends
    -- what stands in front is accepted as well, so reading would stop at the offender
    obtain ⟨first, _, acceptedFront, _⟩ := ofTree_append_eq_ok.mp accepted
    have refused : ofTree schema (.sequence (front ++ item :: back)) = .error f :=
      ofTree_eq_error_iff.mpr ⟨front, item, back, first, rfl, acceptedFront, offends⟩
    rw [refused] at accepted
    cases accepted
  · intro clear
    cases answer : ofTree schema (.sequence items) with
    | ok table => exact ⟨table, rfl⟩
    | error f =>
      obtain ⟨front, item, back, _, split, _, offends⟩ := ofTree_eq_error_iff.mp answer
      exact absurd offends (clear front item back split f)

theorem ofTree_eq_error_iff_firstOffence :
    ofTree schema (.sequence items) = .error failure ↔ FirstOffence schema items failure := by
  simp only [ofTree_eq_error_iff, FirstOffence, ← exists_ofTree_iff]
  constructor
  · rintro ⟨front, item, back, table, split, accepted, offends⟩
    exact ⟨front, item, back, split, offends, table, accepted⟩
  · rintro ⟨front, item, back, split, offends, table, accepted⟩
    exact ⟨front, item, back, table, split, accepted, offends⟩

structure Compositional (schema : Schema) : Prop where
  append : ∀ front back table, ofTree schema (.sequence (front ++ back)) = .ok table ↔
    ∃ first second, ofTree schema (.sequence front) = .ok first ∧
      ofTree schema (.sequence back) = .ok second ∧
      (∀ r ∈ first, ∀ s ∈ second, r.name ≠ s.name) ∧ table = first ++ second
  refused : ∀ items failure,
    ofTree schema (.sequence items) = .error failure ↔ FirstOffence schema items failure
  reordered : ∀ pairs pairs' rule, pairs.Perm pairs' →
    readRule schema (.mapping pairs) = .ok rule → readRule schema (.mapping pairs') = .ok rule

theorem documents_compose (schema : Schema) : Compositional schema where
  append _ _ _ := ofTree_append_eq_ok
  refused _ _ := ofTree_eq_error_iff_firstOffence
  reordered _ _ _ := readRule_perm

/-- A name that comes again is refused in front of an element that is no rule, and a rule may have its
name last. -/
theorem nameLast_compose :
    let schema : Schema := ⟨"facts", [("age", .int)], by decide⟩
    let conditions := (Tree.scalar "conditions", Tree.sequence [.scalar "or", .scalar "!age"])
    let name := (Tree.scalar "name", Tree.scalar "ageless")
    let rule : Rule := ⟨"ageless", none, some ⟨false, [⟨"age", .notDefined, none⟩]⟩, none, none, true⟩
    readRule schema (.mapping [conditions, name]) = .ok rule ∧
      ofTree schema (.sequence [.mapping [name], .mapping [conditions, name], .scalar "ageless"]) =
        .error (.error (.repeatedRule "ageless")) := by
  intro schema conditions name rule
  have last : readRule schema (.mapping [conditions, name]) = .ok rule :=
    (documents_compose schema).reordered [name, conditions] _ _ (.swap _ _ _) rfl
  have first : readRule schema (.mapping [name]) = .ok { name := "ageless" } := rfl
  refine ⟨last, ((documents_compose schema).refused _ _).mpr
    ⟨[.mapping [name]], .mapping [conditions, name], [.scalar "ageless"], rfl, ?_, ?_⟩⟩
  · exact .repeated (List.mem_singleton_self _) first last rfl
  · intro before x between split f offends
    obtain ⟨rfl, rfl, -⟩ : before = [] ∧ x = .mapping [name] ∧ between = [] := by
      rcases before with _ | ⟨_, _ | _⟩ <;> simp_all
    rcases offends with failed | ⟨earlier, _⟩
    · cases failed
    · cases earlier

end RuleTable

end Deduce
