import Deduce.Error

/-!
# Comparing values

Two data of one kind are ordered: numbers by size, strings by code points, false before true. The
kinds that hold numbers, truth values among them, are ordered with one another too. Values compare
only when they have one type that supports the operator and both are set.
-/

namespace Deduce

inductive Relation where
  | ordered (order : Ordering)
  /-- One of the two is no number, and `signaling` says that it may not even be asked. -/
  | incomparable (signaling : Bool)
  | unrelated (left right : String)
  /-- One of the two is a double that is no number, which is neither before nor behind another. -/
  | apart

namespace Decimal

def relate (a b : Decimal) : Relation :=
  match order? a b with
  | some order => .ordered order
  | none => .incomparable (a.isSignaling || b.isSignaling)

end Decimal

namespace Datum

def number? : Datum → Option Decimal
  | string _ => none
  | int i => some (Decimal.ofInt i)
  | decimal d => some d
  | bool b => some (Decimal.ofInt (if b then 1 else 0))
  | float x => some x.toDecimal

def isDecimal : Datum → Bool
  | decimal _ => true
  | _ => false

/-- The word for the kind of a datum where two kinds have no order. -/
def kindName : Datum → String
  | string _ => "str"
  | int _ => "int"
  | decimal _ => "decimal.Decimal"
  | bool _ => "bool"
  | float _ => "float"

def relate : Datum → Datum → Relation
  | string a, string b => .ordered (compare a b)
  | int a, int b => .ordered (compare a b)
  | bool a, bool b => .ordered (compare a b)
  | a, b =>
    match a.number?, b.number? with
    | some x, some y =>
      if a.isDecimal || b.isDecimal then x.relate y
      else ((Decimal.order? x y).map Relation.ordered).getD .apart
    | _, _ => .unrelated a.kindName b.kindName

end Datum

/-- Whether a comparison holds. What has no order is still equal or not. -/
def Relation.holds (op : Operator) : Relation → Except Defect Bool
  | ordered order => .ok (op.holds order)
  | incomparable signaling =>
    if op.isEquality && !signaling then .ok (op == .notEqual) else .error .orderOfNan
  | unrelated left right =>
    if op.isEquality then .ok (op == .notEqual)
    else .error (.unordered (op.token?.getD "") left right)
  | apart => .ok (op == .notEqual)

def Value.compare (op : Operator) (left right : Value) : Except Failure Bool :=
  if !left.supports op then .error (.error (.unsupportedOperation left.type op))
  else if right.type ≠ left.type then .error (.quoting [left, right] (.typesDiffer left right))
  else
    match left.data, right.data with
    | some a, some b => ((a.relate b).holds op).mapError .defect
    | _, _ => .error (.error (.unsetOperand left.type))

end Deduce
