import Deduce.Compare

/-!
# Known facts

What has been established so far. The first value of a fact stands: a later one is passed over inside
a pass, and has to be equal to it when the pass is over.
-/

namespace Deduce

/-- Known facts in the order in which they became known; an id comes up once. -/
abbrev Facts := List Fact

namespace Facts

def find? (known : Facts) (id : String) : Option Fact := List.find? (·.id == id) known

def has (known : Facts) (id : String) : Bool := (known.find? id).isSome

def learn (known : Facts) (fact : Fact) : Facts :=
  if known.has fact.id then known else known ++ [fact]

def learnAll (known : Facts) (facts : List Fact) : Facts := facts.foldl learn known

@[simp] theorem find?_nil (id : String) : find? [] id = none := rfl

theorem has_iff (known : Facts) (id : String) : known.has id ↔ ∃ fact ∈ known, fact.id = id := by
  simp [has, find?, List.find?_isSome]

theorem has_learn (known : Facts) (fact : Fact) (id : String) :
    (known.learn fact).has id = (known.has id || fact.id == id) := by
  rw [Bool.eq_iff_iff]
  unfold learn
  split
  · rename_i established
    simp only [Bool.or_eq_true, beq_iff_eq]
    exact ⟨Or.inl, fun h => h.elim (fun known => known) fun e => e ▸ established⟩
  · simp [has_iff, or_and_right, exists_or]

theorem has_learnAll (known : Facts) (facts : List Fact) (id : String) :
    (known.learnAll facts).has id = (known.has id || facts.any (·.id == id)) := by
  induction facts generalizing known with
  | nil => simp [learnAll]
  | cons fact rest ih =>
    have step := ih (known.learn fact)
    simp only [learnAll, List.foldl_cons] at step ⊢
    rw [step, has_learn, List.any_cons, Bool.or_assoc]

/-- Adds the facts of a pass to those known, and counts the new ones. Every other one has to be equal
to the fact that is known. -/
def establish (known : Facts) : List Fact → Except Failure (Facts × Nat)
  | [] => .ok (known, 0)
  | fact :: rest =>
    match known.find? fact.id with
    | none => (establish (known ++ [fact]) rest).map fun (all, added) => (all, added + 1)
    | some established =>
      match established.value.compare .equal fact.value with
      | .error failure => .error failure
      | .ok true => establish known rest
      | .ok false => .error (.contradiction established fact)

end Facts

end Deduce
