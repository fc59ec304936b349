import Deduce.Compare
import Deduce.Proofs.Decimal.Number

/-!
# What values stand for

Two well-formed values of one type are equal exactly when they stand for the same text, number or truth
value. A comparison sees no more of a value than this.
-/

namespace Deduce

def ScalarType.IsNumeric (type : ScalarType) : Prop := type = .int ∨ type = .decimal

/-- What a datum stands for. The scale of a decimal and the sign of a zero do not count. -/
inductive Quantity where
  | text (s : String)
  | whole (i : Int)
  | exact (q : ℚ)
  | truth (b : Bool)
  deriving DecidableEq

namespace Datum

/-- The datum is of the type's kind, and finite if it is a decimal. The empty string is a string. -/
def Fits : Datum → ScalarType → Prop
  | string _, .string | int _, .int | bool _, .bool => True
  | decimal d, .decimal => d.isFinite = true
  | _, _ => False

theorem Suits.fits {datum : Datum} {type : ScalarType} (h : datum.Suits type) : datum.Fits type := by
  cases datum <;> cases type <;> first | exact h | trivial

def quantity : Datum → Quantity
  | string s => .text s
  | int i => .whole i
  | decimal d => .exact d.number
  | bool b => .truth b
  | float x => .exact x.toDecimal.number

theorem relate_decimal {c d : Decimal} (hc : c.isFinite = true) (hd : d.isFinite = true) :
    relate (decimal c) (decimal d) = .ordered (compare c.number d.number) := by
  simp [relate, number?, isDecimal, Decimal.relate, Decimal.order?_eq_compare hc hd]

theorem exists_order {type : ScalarType} {a b : Datum} (ha : a.Fits type) (hb : b.Fits type) :
    ∃ order, a.relate b = .ordered order ∧ (order = .eq ↔ a.quantity = b.quantity) := by
  cases type with
  | string =>
    cases a <;> cases b <;> try contradiction
    exact ⟨_, rfl, by simp [quantity]⟩
  | int =>
    cases a <;> cases b <;> try contradiction
    exact ⟨_, rfl, by simp [quantity]⟩
  | decimal =>
    cases a <;> cases b <;> try contradiction
    exact ⟨_, relate_decimal ha hb, by simp [quantity]⟩
  | bool =>
    cases a <;> cases b <;> try contradiction
    exact ⟨_, rfl, by simp [quantity]⟩

theorem relate_congr {type : ScalarType} {a a' b b' : Datum} (ha : a.Fits type)
    (ha' : a'.Fits type) (hb : b.Fits type) (hb' : b'.Fits type)
    (left : a.quantity = a'.quantity) (right : b.quantity = b'.quantity) :
    a.relate b = a'.relate b' := by
  cases type with
  | decimal =>
    cases a <;> cases a' <;> try contradiction
    cases b <;> cases b' <;> try contradiction
    rw [relate_decimal ha hb, relate_decimal ha' hb']
    simp only [quantity, Quantity.exact.injEq] at left right
    rw [left, right]
  | string | int | bool =>
    cases a <;> cases a' <;> try contradiction
    cases b <;> cases b' <;> try contradiction
    cases left
    cases right
    rfl

end Datum

namespace Value

def IsTyped (v : Value) : Prop := ∃ datum, v.data = some datum ∧ datum.Fits v.type

theorem IsWellFormed.isTyped {v : Value} (h : v.IsWellFormed) : v.IsTyped := by
  obtain ⟨datum, set, suits⟩ := h
  exact ⟨datum, set, suits.fits⟩

def quantity? (v : Value) : Option Quantity := v.data.map Datum.quantity

def Agrees (v w : Value) : Prop := v.type = w.type ∧ v.quantity? = w.quantity?

instance (v w : Value) : Decidable (v.Agrees w) :=
  inferInstanceAs (Decidable (v.type = w.type ∧ v.quantity? = w.quantity?))

@[refl] theorem Agrees.refl (v : Value) : v.Agrees v := ⟨rfl, rfl⟩

@[symm] theorem Agrees.symm {v w : Value} (h : v.Agrees w) : w.Agrees v := ⟨h.1.symm, h.2.symm⟩

theorem Agrees.trans {u v w : Value} (first : u.Agrees v) (second : v.Agrees w) : u.Agrees w :=
  ⟨first.1.trans second.1, first.2.trans second.2⟩

def meaning (v : Value) : ScalarType × Option Quantity := (v.type, v.quantity?)

theorem agrees_iff {v w : Value} : v.Agrees w ↔ v.meaning = w.meaning := by
  rw [meaning, meaning, Prod.mk.injEq]
  rfl

variable {v w : Value}

theorem compare_of_not_supports {op : Operator} (unsupported : v.supports op = false) (w : Value) :
    v.compare op w = .error (.error (.unsupportedOperation v.type op)) := by
  simp [compare, unsupported]

/-- Typed values of one type compare without failing, and equal only if they agree. -/
theorem exists_compare (hv : v.IsTyped) (hw : w.IsTyped) (same : v.type = w.type) :
    ∃ order : Ordering, (order = .eq ↔ v.quantity? = w.quantity?) ∧
      ∀ op, v.supports op = true → v.compare op w = .ok (op.holds order) := by
  obtain ⟨a, dataA, fitsA⟩ := hv
  obtain ⟨b, dataB, fitsB⟩ := hw
  rw [← same] at fitsB
  obtain ⟨order, related, equal⟩ := Datum.exists_order fitsA fitsB
  refine ⟨order, by simp [quantity?, dataA, dataB, equal], ?_⟩
  intro op supported
  simp only [compare, supported, same, dataA, dataB, related, Relation.holds, Bool.not_true,
    Bool.false_eq_true, ne_eq, not_true_eq_false, if_false]
  rfl

theorem supports_equal (v : Value) : v.supports .equal = true := by
  unfold supports
  cases v.type <;> rfl

theorem compare_equal (hv : v.IsTyped) (hw : w.IsTyped) (same : v.type = w.type) :
    v.compare .equal w = .ok (decide (v.Agrees w)) := by
  obtain ⟨order, equal, holds⟩ := exists_compare hv hw same
  rw [holds .equal (supports_equal v), Except.ok.injEq, Bool.eq_iff_iff, decide_eq_true_iff]
  exact Ordering.isEq_iff_eq_eq.trans (equal.trans ⟨fun h => ⟨same, h⟩, And.right⟩)

/-- Equal values have one type, since others do not even compare. -/
theorem type_eq_of_compare {op : Operator} {holds : Bool} (h : v.compare op w = .ok holds) :
    v.type = w.type := by
  by_contra different
  have other : w.type ≠ v.type := fun same => different same.symm
  simp only [compare, if_pos other] at h
  split at h <;> cases h

theorem compare_equal_iff (hv : v.IsWellFormed) (hw : w.IsWellFormed) :
    v.compare .equal w = .ok true ↔ v.Agrees w := by
  constructor
  · intro h
    rw [compare_equal hv.isTyped hw.isTyped (type_eq_of_compare h)] at h
    simpa using h
  · intro agrees
    rw [compare_equal hv.isTyped hw.isTyped agrees.1]
    simpa using agrees

theorem compare_equal_self (hv : v.IsWellFormed) : v.compare .equal v = .ok true :=
  (compare_equal_iff hv hv).mpr (.refl v)

theorem compare_congr {v' w' : Value} (hv : v.IsTyped) (hv' : v'.IsTyped) (hw : w.IsTyped)
    (hw' : w'.IsTyped) (same : v.type = w.type) (left : v.Agrees v') (right : w.Agrees w')
    (op : Operator) : v.compare op w = v'.compare op w' := by
  obtain ⟨a, dataA, fitsA⟩ := hv
  obtain ⟨a', dataA', fitsA'⟩ := hv'
  obtain ⟨b, dataB, fitsB⟩ := hw
  obtain ⟨b', dataB', fitsB'⟩ := hw'
  have quantityA : a.quantity = a'.quantity := by simpa [quantity?, dataA, dataA'] using left.2
  have quantityB : b.quantity = b'.quantity := by simpa [quantity?, dataB, dataB'] using right.2
  rw [← left.1] at fitsA'
  rw [← same] at fitsB
  rw [← right.1, ← same] at fitsB'
  have related := Datum.relate_congr fitsA fitsA' fitsB fitsB' quantityA quantityB
  have types : v'.type = w'.type := left.1.symm.trans (same.trans right.1)
  simp [compare, supports, dataA, dataA', dataB, dataB', related, same, ← types, ← left.1]

end Value

end Deduce
