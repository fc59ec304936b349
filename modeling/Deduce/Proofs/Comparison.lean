import Deduce.Proofs.Lockstep
import Deduce.Proofs.Typing.Reading

/-!
# The laws of comparison

Integers are compared with each other, and so are finite decimals, as the numbers that they stand for.
Equality is an equivalence in every type, and no comparison tells equal values apart; neither does a
rule, so that an equal value may take the place of a fact's own.
-/

namespace Deduce

namespace Operator

/-- The comparison that holds when the two sides are swapped. -/
def mirror : Operator → Operator
  | lessThan => greaterThan
  | greaterThan => lessThan
  | lessOrEqual => greaterOrEqual
  | greaterOrEqual => lessOrEqual
  | op => op

theorem isComparison_mirror (op : Operator) : op.mirror.isComparison = op.isComparison := by
  cases op <;> rfl

theorem holds_mirror (op : Operator) (order : Ordering) :
    op.mirror.holds order.swap = op.holds order := by
  cases op <;> cases order <;> rfl

theorem isComparison_of_strict {op : Operator} (member : op ∈ [lessThan, equal, greaterThan]) :
    op.isComparison = true := by
  revert member
  cases op <;> decide

theorem existsUnique_holds (order : Ordering) :
    ∃! op : Operator, op ∈ [lessThan, equal, greaterThan] ∧ op.holds order = true := by
  cases order with
  | lt => exact ⟨lessThan, by decide, fun op => by cases op <;> decide⟩
  | eq => exact ⟨equal, by decide, fun op => by cases op <;> decide⟩
  | gt => exact ⟨greaterThan, by decide, fun op => by cases op <;> decide⟩

end Operator

theorem Datum.eq_of_quantity {type : ScalarType} (exact : type = .string ∨ type = .bool)
    {a b : Datum} (fitsA : a.Fits type) (fitsB : b.Fits type) (same : a.quantity = b.quantity) :
    a = b := by
  rcases exact with rfl | rfl <;> cases a <;> cases b <;> try contradiction
  all_goals
    cases same
    rfl

namespace Value

def number (v : Value) : ℚ :=
  match v.data with
  | some (.int i) => i
  | some (.decimal d) => d.number
  | _ => 0

/-- Of the two comparisons one holds and the other does not. -/
def Opposes (v : Value) (op op' : Operator) (w : Value) : Prop :=
  ∃ holds, v.compare op w = .ok holds ∧ v.compare op' w = .ok (!holds)

end Value

namespace ScalarType

/-- The values of a type, the empty string among the strings and no decimal that is not finite. -/
abbrev Values (type : ScalarType) := { v : Value // v.type = type ∧ v.IsTyped }

structure OrdersNumbers (type : ScalarType) : Prop where
  less : ∀ v w : type.Values,
    v.val.compare .lessThan w = .ok (decide (v.val.number < w.val.number))
  equal : ∀ v w : type.Values,
    v.val.compare .equal w = .ok (decide (v.val.number = w.val.number))
  exactlyOne : ∀ v w : type.Values, ∃! op : Operator,
    op ∈ [Operator.lessThan, .equal, .greaterThan] ∧ v.val.compare op w = .ok true
  lessOrEqual : ∀ v w : type.Values, v.val.Opposes .greaterThan .lessOrEqual w
  greaterOrEqual : ∀ v w : type.Values, v.val.Opposes .lessThan .greaterOrEqual w
  notEqual : ∀ v w : type.Values, v.val.Opposes .equal .notEqual w
  mirrored : ∀ v w : type.Values, ∀ op, v.val.compare op w = w.val.compare op.mirror v
  transitive : ∀ u v w : type.Values, u.val.compare .lessOrEqual v = .ok true →
    v.val.compare .lessOrEqual w = .ok true → u.val.compare .lessOrEqual w = .ok true
  /-- Neither the scale nor the sign of a zero counts. -/
  byNumber : ∀ v v' w w' : type.Values, v.val.number = v'.val.number →
    w.val.number = w'.val.number → ∀ op, v.val.compare op w = v'.val.compare op w'

end ScalarType

namespace Value

variable {v w : Value}

theorem exists_int (typed : v.IsTyped) (isInt : v.type = .int) :
    ∃ i, v = ⟨.int, some (.int i)⟩ := by
  obtain ⟨type, data⟩ := v
  obtain ⟨datum, rfl, fits⟩ := typed
  cases isInt
  cases datum <;> first | exact ⟨_, rfl⟩ | cases fits

theorem exists_decimal (typed : v.IsTyped) (isDecimal : v.type = .decimal) :
    ∃ d : Decimal, d.isFinite = true ∧ v = ⟨.decimal, some (.decimal d)⟩ := by
  obtain ⟨type, data⟩ := v
  obtain ⟨datum, rfl, fits⟩ := typed
  cases isDecimal
  cases datum <;> first | exact ⟨_, fits, rfl⟩ | cases fits

end Value

namespace ScalarType

variable {type : ScalarType}

theorem Values.type_eq (v w : type.Values) : v.val.type = w.val.type :=
  v.property.1.trans w.property.1.symm

theorem compare_of_not_comparison (v w : type.Values) {op : Operator}
    (other : op.isComparison = false) :
    v.val.compare op w = .error (.error (.unsupportedOperation type op)) := by
  have unsupported : v.val.supports op = false := by
    unfold Value.supports
    cases v.val.type <;> cases op <;> first | rfl | cases other
  rw [Value.compare_of_not_supports unsupported, v.property.1]

namespace IsNumeric

/-- A comparison of numbers is decided by their order alone. -/
theorem compare_eq (numeric : type.IsNumeric) (v w : type.Values) {op : Operator}
    (comparison : op.isComparison = true) :
    v.val.compare op w = .ok (op.holds (compare v.val.number w.val.number)) := by
  obtain ⟨v, typeV, typedV⟩ := v
  obtain ⟨w, typeW, typedW⟩ := w
  rcases numeric with rfl | rfl
  · obtain ⟨i, rfl⟩ := Value.exists_int typedV typeV
    obtain ⟨j, rfl⟩ := Value.exists_int typedW typeW
    have order : compare (i : ℚ) j = compare i j := by
      rw [← cmp_eq_compare, ← cmp_eq_compare]
      exact Int.cast_strictMono.cmp_map_eq i j
    simp only [Value.compare, Value.supports, supports, comparison, Datum.relate, Relation.holds,
      Value.number, order]
    rfl
  · obtain ⟨c, finite, rfl⟩ := Value.exists_decimal typedV typeV
    obtain ⟨d, finite', rfl⟩ := Value.exists_decimal typedW typeW
    simp only [Value.compare, Value.supports, supports, comparison,
      Datum.relate_decimal finite finite', Relation.holds, Value.number]
    rfl

theorem less_eq (numeric : type.IsNumeric) (v w : type.Values) :
    v.val.compare .lessThan w = .ok (decide (v.val.number < w.val.number)) := by
  rw [numeric.compare_eq v w rfl, Except.ok.injEq, Bool.eq_iff_iff, decide_eq_true_iff,
    ← compare_lt_iff_lt]
  exact Ordering.isLT_iff_eq_lt

theorem equal_eq (numeric : type.IsNumeric) (v w : type.Values) :
    v.val.compare .equal w = .ok (decide (v.val.number = w.val.number)) := by
  rw [numeric.compare_eq v w rfl, Except.ok.injEq, Bool.eq_iff_iff, decide_eq_true_iff]
  exact Ordering.isEq_iff_eq_eq.trans compare_eq_iff_eq

theorem lessOrEqual_iff (numeric : type.IsNumeric) (v w : type.Values) :
    v.val.compare .lessOrEqual w = .ok true ↔ v.val.number ≤ w.val.number := by
  rw [numeric.compare_eq v w rfl, Except.ok.injEq, ← compare_le_iff_le]
  cases compare v.val.number w.val.number <;> decide

theorem existsUnique (numeric : type.IsNumeric) (v w : type.Values) : ∃! op : Operator,
    op ∈ [Operator.lessThan, .equal, .greaterThan] ∧ v.val.compare op w = .ok true := by
  apply (existsUnique_congr fun op => and_congr_right fun member => ?_).mpr
    (Operator.existsUnique_holds (compare v.val.number w.val.number))
  rw [numeric.compare_eq v w (Operator.isComparison_of_strict member), Except.ok.injEq]

/-- Swapping the sides swaps the order, and the mirrored operator swaps it back. -/
theorem mirrored (numeric : type.IsNumeric) (v w : type.Values) (op : Operator) :
    v.val.compare op w = w.val.compare op.mirror v := by
  by_cases comparison : op.isComparison = true
  · have comparison' := op.isComparison_mirror.trans comparison
    have swapped : compare w.val.number v.val.number =
        (compare v.val.number w.val.number).swap := Std.OrientedOrd.eq_swap
    rw [numeric.compare_eq v w comparison, numeric.compare_eq w v comparison', swapped,
      Operator.holds_mirror]
  · rw [Bool.not_eq_true] at comparison
    have same : op.mirror = op := by
      cases op <;> first | rfl | cases comparison
    rw [same, compare_of_not_comparison v w comparison, compare_of_not_comparison w v comparison]

theorem byNumber (numeric : type.IsNumeric) {v v' w w' : type.Values}
    (left : v.val.number = v'.val.number) (right : w.val.number = w'.val.number) (op : Operator) :
    v.val.compare op w = v'.val.compare op w' := by
  by_cases comparison : op.isComparison = true
  · rw [numeric.compare_eq v w comparison, numeric.compare_eq v' w' comparison, left, right]
  · rw [Bool.not_eq_true] at comparison
    rw [compare_of_not_comparison v w comparison, compare_of_not_comparison v' w' comparison]

theorem ordersNumbers (numeric : type.IsNumeric) : type.OrdersNumbers where
  less := numeric.less_eq
  equal := numeric.equal_eq
  exactlyOne := numeric.existsUnique
  lessOrEqual v w := ⟨_, numeric.compare_eq v w rfl, numeric.compare_eq v w rfl⟩
  greaterOrEqual v w := ⟨_, numeric.compare_eq v w rfl, numeric.compare_eq v w rfl⟩
  notEqual v w := ⟨_, numeric.compare_eq v w rfl, numeric.compare_eq v w rfl⟩
  mirrored := numeric.mirrored
  transitive u v w first second := by
    rw [numeric.lessOrEqual_iff] at first second ⊢
    exact first.trans second
  byNumber _ _ _ _ := numeric.byNumber

end IsNumeric

theorem equal_eq_agrees (v w : type.Values) :
    v.val.compare .equal w = .ok (decide (v.val.Agrees w)) :=
  Value.compare_equal v.property.2 w.property.2 (Values.type_eq v w)

theorem equal_iff (v w : type.Values) :
    v.val.compare .equal w = .ok true ↔ v.val.Agrees w := by
  rw [equal_eq_agrees, Except.ok.injEq, decide_eq_true_iff]

theorem equal_equivalence (type : ScalarType) :
    Equivalence fun v w : type.Values => v.val.compare .equal w = .ok true where
  refl v := (equal_iff v v).mpr (.refl _)
  symm {v w} equal := (equal_iff w v).mpr ((equal_iff v w).mp equal).symm
  trans {u v w} first second :=
    (equal_iff u w).mpr (((equal_iff u v).mp first).trans ((equal_iff v w).mp second))

theorem equal_opposes_notEqual (v w : type.Values) : v.val.Opposes .equal .notEqual w := by
  obtain ⟨order, _, compared⟩ :=
    Value.exists_compare v.property.2 w.property.2 (Values.type_eq v w)
  refine ⟨order.isEq, compared .equal (Value.supports_equal _), compared .notEqual ?_⟩
  unfold Value.supports
  cases v.val.type <;> rfl

theorem equal_congr {v v' w w' : type.Values} (left : v.val.compare .equal v' = .ok true)
    (right : w.val.compare .equal w' = .ok true) (op : Operator) :
    v.val.compare op w = v'.val.compare op w' := by
  apply Value.compare_congr v.property.2 v'.property.2 w.property.2 w'.property.2
  · exact Values.type_eq v w
  · exact (equal_iff v v').mp left
  · exact (equal_iff w w').mp right

theorem eq_of_agrees (exact : type = .string ∨ type = .bool) {v w : type.Values}
    (agrees : v.val.Agrees w) : v = w := by
  obtain ⟨a, dataA, fitsA⟩ := v.property.2
  obtain ⟨b, dataB, fitsB⟩ := w.property.2
  rw [v.property.1] at fitsA
  rw [w.property.1] at fitsB
  have quantities : a.quantity = b.quantity := by
    simpa [Value.quantity?, dataA, dataB] using agrees.2
  have data := Datum.eq_of_quantity exact fitsA fitsB quantities
  apply Subtype.ext
  rw [Value.mk.injEq]
  exact ⟨agrees.1, dataA.trans (data ▸ dataB.symm)⟩

theorem equal_eq_decide (exact : type = .string ∨ type = .bool) (v w : type.Values) :
    v.val.compare .equal w = .ok (decide (v = w)) := by
  rw [equal_eq_agrees, Except.ok.injEq, decide_eq_decide]
  constructor
  · exact eq_of_agrees exact
  · rintro rfl
    exact .refl _

end ScalarType

namespace Facts

variable {schema : Schema} {known more : Facts}

def IsTyped (schema : Schema) (known : Facts) : Prop :=
  ∀ fact ∈ known, schema.get? fact.id = some fact.value.type ∧ fact.value.IsTyped

def Matches (known more : Facts) : Prop :=
  ∀ id, Option.Rel (fun fact other => fact.value.compare .equal other.value = .ok true)
    (known.find? id) (more.find? id)

theorem IsTyped.find (typed : known.IsTyped schema) {id : String} {fact : Fact}
    (found : known.find? id = some fact) :
    schema.get? id = some fact.value.type ∧ fact.value.IsTyped := by
  have declared := typed fact (List.mem_of_find?_eq_some found)
  rwa [id_of_find? found] at declared

theorem Matches.find? (equal : known.Matches more) (id : String) :
    (known.find? id = none ∧ more.find? id = none) ∨ ∃ fact other, known.find? id = some fact ∧
      more.find? id = some other ∧ fact.value.compare .equal other.value = .ok true := by
  have related := equal id
  cases found : known.find? id <;> cases found' : more.find? id <;> rw [found, found'] at related <;>
    cases related
  · exact .inl ⟨rfl, rfl⟩
  · rename_i compared
    exact .inr ⟨_, _, rfl, rfl, compared⟩

end Facts

theorem Condition.outcome_eq_of_matches {schema : Schema} {c : Condition} {known more : Facts}
    (wellTyped : c.WellTyped schema) (typed : known.IsTyped schema) (typed' : more.IsTyped schema)
    (equal : known.Matches more) : c.outcome known = c.outcome more := by
  rcases equal.find? c.id with ⟨absent, absent'⟩ | ⟨fact, other, found, found', compared⟩
  · exact outcome_eq_of_find? (absent.trans absent'.symm)
  · obtain ⟨declared, set⟩ := typed.find found
    obtain ⟨_, set'⟩ := typed'.find found'
    rw [Value.compare_equal set set' (Value.type_eq_of_compare compared), Except.ok.injEq,
      decide_eq_true_iff] at compared
    exact outcome_eq_of_agrees wellTyped declared set set' found found' compared.symm

structure ComparisonLaws : Prop where
  numbers : ∀ type : ScalarType, type.IsNumeric → type.OrdersNumbers
  exact : ∀ type : ScalarType, type = .string ∨ type = .bool →
    ∀ v w : type.Values, v.val.compare .equal w = .ok (decide (v = w))
  equivalence : ∀ type : ScalarType,
    Equivalence fun v w : type.Values => v.val.compare .equal w = .ok true
  notEqual : ∀ (type : ScalarType) (v w : type.Values), v.val.Opposes .equal .notEqual w
  congruence : ∀ (type : ScalarType) (v v' w w' : type.Values),
    v.val.compare .equal v' = .ok true → w.val.compare .equal w' = .ok true →
      ∀ op, v.val.compare op w = v'.val.compare op w'
  rules : ∀ (schema : Schema) (tree : Tree) (rule : Rule), readRule schema tree = .ok rule →
    ∀ known more : Facts, known.IsTyped schema → more.IsTyped schema → known.Matches more →
      rule.outcome known = rule.outcome more

theorem comparison_laws : ComparisonLaws where
  numbers type numeric := numeric.ordersNumbers
  exact type exact := ScalarType.equal_eq_decide exact
  equivalence := ScalarType.equal_equivalence
  notEqual type := ScalarType.equal_opposes_notEqual
  congruence type v v' w w' := ScalarType.equal_congr
  rules schema tree rule read known more typed typed' equal := by
    apply Rule.outcome_congr
    · intro c member
      exact Condition.outcome_eq_of_matches ((readRule_wellTyped read).conditions c member) typed
        typed' equal
    · intro c _
      rcases equal.find? c.id with ⟨absent, absent'⟩ | ⟨_, _, found, found', _⟩
      · rw [Facts.has, absent, Facts.has, absent']
      · rw [Facts.has_of_find? found, Facts.has_of_find? found']

def notPositive : Rule where
  name := "free"
  conditionSet := some ⟨true,
    [⟨"D", .lessOrEqual, some ⟨.decimal, some (.decimal (.finite false 0 (-1)))⟩⟩]⟩

/-- Two zeros of different signs and scales, one of them with a large exponent. -/
theorem notPositive_laws :
    readRule ⟨"facts", [("D", .decimal)], by decide⟩ (.mapping [(.scalar "name", .scalar "free"),
      (.scalar "conditions", .sequence [.scalar "D <= 0.0"])]) = .ok notPositive ∧
    notPositive.outcome [⟨"D", ⟨.decimal, some (.decimal (.finite true 0 300))⟩⟩] =
      notPositive.outcome [⟨"D", ⟨.decimal, some (.decimal (.finite false 0 (-2)))⟩⟩] := by
  have accepted : readRule ⟨"facts", [("D", .decimal)], by decide⟩ (.mapping [
      (.scalar "name", .scalar "free"),
      (.scalar "conditions", .sequence [.scalar "D <= 0.0"])]) = .ok notPositive := rfl
  have typed (zero : Decimal) (finite : zero.isFinite = true) :
      Facts.IsTyped ⟨"facts", [("D", .decimal)], by decide⟩
        [⟨"D", ⟨.decimal, some (.decimal zero)⟩⟩] := by
    intro fact member
    rw [List.mem_singleton.mp member]
    exact ⟨rfl, _, rfl, finite⟩
  refine ⟨accepted, comparison_laws.rules _ _ _ accepted _ _ (typed _ rfl) (typed _ rfl) ?_⟩
  intro id
  by_cases same : "D" = id
  · subst same
    exact .some rfl
  · simp [Facts.find?, same]

end Deduce
