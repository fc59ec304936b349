import Deduce.Proofs.Typing.Basic
import Mathlib.Data.List.Forall2

/-!
# Lists of a rule document

Conditions, facts, actions and rules are read one after the other, and each is refused if it repeats
one before it. All four readers are one, with a reader for a single element and a test for repeats:
it succeeds if every element reads and none repeats another, and it stops at the first that does not.
-/

namespace Deduce

theorem exists_left_of_forall₂ {τ α : Type} {R : τ → α → Prop} {elements : List τ} {all : List α}
    (h : List.Forall₂ R elements all) {a : α} (member : a ∈ all) : ∃ x ∈ elements, R x a := by
  induction h with
  | nil => cases member
  | @cons x b elements all first _ ih =>
    rcases List.mem_cons.mp member with rfl | later
    · exact ⟨x, List.mem_cons_self, first⟩
    · obtain ⟨y, present, related⟩ := ih later
      exact ⟨y, List.mem_cons_of_mem _ present, related⟩

theorem forall₂_append_left_iff {τ α : Type} {R : τ → α → Prop} {front back : List τ}
    {all : List α} :
    List.Forall₂ R (front ++ back) all ↔
      ∃ first second, List.Forall₂ R front first ∧ List.Forall₂ R back second ∧
        all = first ++ second := by
  constructor
  · intro h
    refine ⟨all.take front.length, all.drop front.length, ?_, ?_, ?_⟩
    · exact (List.forall₂_take_append _ _ _ h.flip).flip
    · exact (List.forall₂_drop_append _ _ _ h.flip).flip
    · exact (List.take_append_drop front.length all).symm
  · rintro ⟨first, second, eachFirst, eachSecond, rfl⟩
    exact List.rel_append eachFirst eachSecond

/-- What `read` makes of the elements behind those already `done`, up to the first that does not read
or clashes with one before it. -/
def gather {τ α : Type} (read : τ → Except Failure α) (clash : α → α → Bool)
    (refusal : α → Error) (done : List α) : List τ → Except Failure (List α)
  | [] => .ok done
  | x :: rest =>
    match read x with
    | .error failure => .error failure
    | .ok a =>
      if done.any (clash · a) then .error (.error (refusal a))
      else gather read clash refusal (done ++ [a]) rest

section Gathering

variable {τ α : Type} {read : τ → Except Failure α} {clash : α → α → Bool} {refusal : α → Error}
  {done all : List α}

theorem gather_append (front back : List τ) :
    gather read clash refusal done (front ++ back) =
      (gather read clash refusal done front).bind fun all =>
        gather read clash refusal all back := by
  induction front generalizing done with
  | nil => rfl
  | cons x rest ih =>
    simp only [List.cons_append, gather]
    split
    · rfl
    · split
      · rfl
      · exact ih

theorem pairwise_concat {R : α → α → Prop} (h : done.Pairwise R) {a : α} (last : ∀ b ∈ done, R b a) :
    (done ++ [a]).Pairwise R := by
  rw [List.pairwise_append]
  exact ⟨h, List.pairwise_singleton R a, fun b member c single => List.mem_singleton.mp single ▸
    last b member⟩

/-- Reading succeeds if every element reads and no two of the results clash. -/
theorem gather_eq_ok_iff {elements : List τ} (distinct : done.Pairwise fun a b => clash a b = false) :
    gather read clash refusal done elements = .ok all ↔
      (∃ new, all = done ++ new ∧ List.Forall₂ (fun x a => read x = .ok a) elements new) ∧
        all.Pairwise fun a b => clash a b = false := by
  induction elements generalizing done with
  | nil =>
    simp only [gather, Except.ok.injEq, List.forall₂_nil_left_iff, exists_eq_right, List.append_nil]
    constructor
    · rintro rfl
      exact ⟨rfl, distinct⟩
    · exact fun h => h.1.symm
  | cons x rest ih =>
    unfold gather
    cases answer : read x with
    | error failure => simp [List.forall₂_cons_left_iff, answer]
    | ok a =>
      have next : (∃ new, all = done ++ new ∧
            List.Forall₂ (fun x a => read x = .ok a) (x :: rest) new) ↔
          ∃ new, all = done ++ [a] ++ new ∧ List.Forall₂ (fun x a => read x = .ok a) rest new := by
        simp [List.forall₂_cons_left_iff, answer]
      rw [next]
      by_cases clear : ∀ b ∈ done, clash b a = false
      · have passes : done.any (clash · a) = false := by
          rw [List.any_eq_false]
          exact fun b member => Bool.eq_false_iff.mp (clear b member)
        simp only [passes, Bool.false_eq_true, if_false]
        exact ih (pairwise_concat distinct clear)
      · have stops : done.any (clash · a) = true := by
          rw [List.any_eq_true]
          push Not at clear
          simpa using clear
        simp only [stops, if_true, reduceCtorEq, false_iff, not_and]
        rintro ⟨new, rfl, _⟩ distinct'
        apply clear
        intro b member
        rw [List.append_assoc, List.pairwise_append] at distinct'
        exact distinct'.2.2 b member a (by simp)

theorem gather_eq_error_iff {elements : List τ} {failure : Failure} :
    gather read clash refusal done elements = .error failure ↔
      ∃ front x back all, elements = front ++ x :: back ∧
        gather read clash refusal done front = .ok all ∧
        (read x = .error failure ∨
          ∃ a, read x = .ok a ∧ all.any (clash · a) = true ∧ failure = .error (refusal a)) := by
  constructor
  · intro h
    induction elements generalizing done with
    | nil => cases h
    | cons x rest ih =>
      unfold gather at h
      split at h
      · rename_i failed
        cases h
        exact ⟨[], x, rest, done, rfl, rfl, .inl failed⟩
      · rename_i a answer
        split at h
        · rename_i clashes
          cases h
          exact ⟨[], x, rest, done, rfl, rfl, .inr ⟨a, answer, clashes, rfl⟩⟩
        · rename_i clear
          obtain ⟨front, y, back, all, rfl, accepted, refused⟩ := ih h
          refine ⟨x :: front, y, back, all, rfl, ?_, refused⟩
          simp only [gather, answer, clear]
          exact accepted
  · rintro ⟨front, x, back, all, rfl, accepted, refused⟩
    rw [gather_append, accepted]
    rcases refused with failed | ⟨a, answer, clashes, rfl⟩
    · simp only [Except.bind, gather, failed]
    · simp only [Except.bind, gather, answer, clashes, if_true]

theorem gather_eq_defect_iff {elements : List τ} {d : Defect} :
    gather read clash refusal done elements = .error (.defect d) ↔
      ∃ front x back all, elements = front ++ x :: back ∧
        gather read clash refusal done front = .ok all ∧ read x = .error (.defect d) := by
  simp [gather_eq_error_iff]

theorem gather_distinct {β : Type} {key : α → β} [BEq β] [LawfulBEq β] {elements : List τ} :
    gather read (fun a b => key a == key b) refusal [] elements = .ok all ↔
      List.Forall₂ (fun x a => read x = .ok a) elements all ∧ (all.map key).Nodup := by
  rw [gather_eq_ok_iff List.Pairwise.nil, List.Nodup, List.pairwise_map]
  simp

/-- What an optional list holds is read from lines, and no two of its elements clash. -/
theorem gather_getD {β : Type} {key : α → β} [BEq β] [LawfulBEq β] {part : Option (List α)}
    (gathered : ∀ all, part = some all → ∃ elements,
      gather read (fun a b => key a == key b) refusal [] elements = .ok all) :
    ((part.getD []).map key).Nodup ∧ ∀ a ∈ part.getD [], ∃ element, read element = .ok a := by
  cases part with
  | none => simp
  | some all =>
    obtain ⟨elements, gathered⟩ := gathered all rfl
    obtain ⟨each, distinct⟩ := gather_distinct.mp gathered
    refine ⟨distinct, fun a member => ?_⟩
    obtain ⟨element, _, answer⟩ := exists_left_of_forall₂ each member
    exact ⟨element, answer⟩

end Gathering

variable {schema : Schema}

def readPlainCondition (schema : Schema) (tree : Tree) : Except Failure Condition :=
  match readCondition schema tree with
  | .error failure => .error failure
  | .ok (.combinator _) => .error (.error .misplacedCombinator)
  | .ok (.condition c) => .ok c

/-- Two equalities of one fact, of which an AND set may have only one. -/
def Condition.contradicts (isAnd : Bool) (previous c : Condition) : Bool :=
  isAnd && c.operator == .equal && (previous.id == c.id && previous.operator == .equal)

theorem conditionsFrom_eq_gather (isAnd : Bool) (done : List Condition) (lines : List Tree) :
    conditionsFrom schema isAnd done lines =
      gather (readPlainCondition schema) (Condition.contradicts isAnd)
        (fun c => .contradictoryEqualities c.id) done lines := by
  induction lines generalizing done with
  | nil => rfl
  | cons line rest ih =>
    simp only [conditionsFrom, gather, readPlainCondition]
    cases readCondition schema line with
    | error failure => rfl
    | ok read =>
      cases read with
      | combinator isAnd' => rfl
      | condition c =>
        simp only [ih, Condition.contradicts, List.and_any_distrib_left]
        rfl

theorem factsFrom_eq_gather (done : List Fact) (lines : List Tree) :
    factsFrom schema done lines =
      gather (readFact schema) (fun f g => f.id == g.id) (fun f => .repeatedFact f.id) done lines := by
  induction lines generalizing done with
  | nil => rfl
  | cons line rest ih =>
    simp only [factsFrom, gather]
    cases readFact schema line with
    | error failure => rfl
    | ok fact => simp only [ih]

theorem actionsFrom_eq_gather (done : List Action) (lines : List Tree) :
    actionsFrom done lines =
      gather readAction (fun a b => a.text == b.text) (fun a => .repeatedAction a.text) done
        lines := by
  induction lines generalizing done with
  | nil => rfl
  | cons line rest ih =>
    simp only [actionsFrom, gather]
    cases readAction line with
    | error failure => rfl
    | ok action => simp only [ih]

theorem RuleTable.readFrom_eq_gather (done : RuleTable) (items : List Tree) :
    readFrom schema done items =
      gather (readRule schema) (fun r s => r.name == s.name) (fun r => .repeatedRule r.name) done
        items := by
  induction items generalizing done with
  | nil => rfl
  | cons item rest ih =>
    simp only [readFrom, gather]
    cases readRule schema item with
    | error failure => rfl
    | ok rule => simp only [ih]

/-- How the conditions are joined, and the lines that are left when the first one says so. -/
def splitCombinator (schema : Schema) : List Tree → Bool × List Tree
  | [] => (true, [])
  | first :: rest =>
    match readCondition schema first with
    | .ok (.combinator isAnd) => (isAnd, rest)
    | _ => (true, first :: rest)

theorem splitCombinator_append {lines : List Tree} (filled : lines ≠ []) (more : List Tree) :
    splitCombinator schema (lines ++ more) =
      ((splitCombinator schema lines).1, (splitCombinator schema lines).2 ++ more) := by
  cases lines with
  | nil => exact absurd rfl filled
  | cons first rest =>
    simp only [List.cons_append, splitCombinator]
    split <;> rfl

theorem splitCombinator_of_combinator {first : Tree} {isAnd : Bool}
    (h : readCondition schema first = .ok (.combinator isAnd)) (rest : List Tree) :
    splitCombinator schema (first :: rest) = (isAnd, rest) := by
  simp only [splitCombinator, h]

theorem splitCombinator_of_ne {first : Tree}
    (h : ∀ isAnd, readCondition schema first ≠ .ok (.combinator isAnd)) (rest : List Tree) :
    splitCombinator schema (first :: rest) = (true, first :: rest) := by
  simp only [splitCombinator]

/-- The lines in front of one that is left are split as all lines are. -/
theorem exists_front_of_split {lines front back : List Tree} {line : Tree}
    (h : (splitCombinator schema lines).2 = front ++ line :: back) :
    ∃ front', lines = front' ++ line :: back ∧
      splitCombinator schema front' = ((splitCombinator schema lines).1, front) := by
  cases lines with
  | nil => simp [splitCombinator] at h
  | cons first rest =>
    by_cases combinator : ∃ isAnd, readCondition schema first = .ok (.combinator isAnd)
    · obtain ⟨isAnd, combinator⟩ := combinator
      rw [splitCombinator_of_combinator combinator] at h ⊢
      cases h
      exact ⟨first :: front, rfl, splitCombinator_of_combinator combinator front⟩
    · push Not at combinator
      rw [splitCombinator_of_ne combinator] at h ⊢
      refine ⟨front, h, ?_⟩
      cases front with
      | nil => rfl
      | cons head tail =>
        cases h
        exact splitCombinator_of_ne combinator tail

theorem conditionSetOf_eq_gather (lines : List Tree) :
    conditionSetOf schema lines =
      (gather (readPlainCondition schema) (Condition.contradicts (splitCombinator schema lines).1)
        (fun c => .contradictoryEqualities c.id) [] (splitCombinator schema lines).2).map
          (ConditionSet.mk (splitCombinator schema lines).1) := by
  cases lines with
  | nil => rfl
  | cons first rest =>
    simp only [conditionSetOf, splitCombinator, conditionsFrom_eq_gather]
    cases answer : readCondition schema first with
    | error failure => simp only [gather, readPlainCondition, answer, Except.map]
    | ok read =>
      cases read with
      | combinator isAnd => rfl
      | condition c =>
        simp only [gather, readPlainCondition, answer, List.any_nil, Bool.false_eq_true, if_false,
          List.nil_append]

theorem readPlainCondition_eq_ok {tree : Tree} {c : Condition} :
    readPlainCondition schema tree = .ok c ↔ readCondition schema tree = .ok (.condition c) := by
  unfold readPlainCondition
  cases readCondition schema tree with
  | error failure => simp
  | ok read => cases read <;> simp

theorem readPlainCondition_eq_defect {tree : Tree} {d : Defect} :
    readPlainCondition schema tree = .error (.defect d) ↔
      readCondition schema tree = .error (.defect d) := by
  unfold readPlainCondition
  cases readCondition schema tree with
  | error failure => simp
  | ok read => cases read <;> simp

theorem conditionSetOf_eq_ok {lines : List Tree} {set : ConditionSet}
    (h : conditionSetOf schema lines = .ok set) :
    set.isAnd = (splitCombinator schema lines).1 ∧
      List.Forall₂ (fun line c => readCondition schema line = .ok (.condition c))
        (splitCombinator schema lines).2 set.conditions ∧
      set.conditions.Pairwise fun c c' => c.contradicts set.isAnd c' = false := by
  rw [conditionSetOf_eq_gather] at h
  obtain ⟨conditions, read, rfl⟩ := map_eq_ok.mp h
  obtain ⟨⟨_, rfl, each⟩, apart⟩ := (gather_eq_ok_iff List.Pairwise.nil).mp read
  simp only [readPlainCondition_eq_ok] at each
  exact ⟨rfl, each, apart⟩

theorem conditionSetOf_eq_defect_iff {lines : List Tree} {d : Defect} :
    conditionSetOf schema lines = .error (.defect d) ↔
      ∃ front line back set, lines = front ++ line :: back ∧
        conditionSetOf schema front = .ok set ∧ readCondition schema line = .error (.defect d) := by
  constructor
  · intro h
    rw [conditionSetOf_eq_gather, map_eq_error, gather_eq_defect_iff] at h
    obtain ⟨front, line, back, conditions, split, accepted, failed⟩ := h
    obtain ⟨front', rfl, split'⟩ := exists_front_of_split split
    have accepted' : conditionSetOf schema front' =
        .ok ⟨(splitCombinator schema (front' ++ line :: back)).1, conditions⟩ := by
      rw [conditionSetOf_eq_gather, split', accepted]
      rfl
    exact ⟨front', line, back, _, rfl, accepted', readPlainCondition_eq_defect.mp failed⟩
  · rintro ⟨front, line, back, set, rfl, accepted, failed⟩
    rw [conditionSetOf_eq_gather, map_eq_error, gather_eq_defect_iff]
    rw [conditionSetOf_eq_gather] at accepted
    obtain ⟨conditions, accepted, _⟩ := map_eq_ok.mp accepted
    have failed' := readPlainCondition_eq_defect.mpr failed
    by_cases first : front = []
    · subst first
      have plain : ∀ isAnd, readCondition schema line ≠ .ok (.combinator isAnd) := by
        simp [failed]
      rw [List.nil_append, splitCombinator_of_ne plain]
      exact ⟨[], line, back, [], rfl, rfl, failed'⟩
    · rw [splitCombinator_append first]
      exact ⟨_, line, back, conditions, rfl, accepted, failed'⟩

end Deduce
