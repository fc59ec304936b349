/-!
# Operators of conditions

Six comparisons, two presence checks, and the two combinators that only say how a set of conditions
is joined.
-/

namespace Deduce

inductive Operator where
  | and
  | or
  | notDefined
  | isDefined
  | equal
  | notEqual
  | lessThan
  | greaterThan
  | lessOrEqual
  | greaterOrEqual
  deriving DecidableEq

namespace Operator

def all : List Operator :=
  [and, or, notDefined, isDefined, equal, notEqual, lessThan, greaterThan, lessOrEqual,
    greaterOrEqual]

def name : Operator → String
  | and => "And"
  | or => "Or"
  | notDefined => "NotDefined"
  | isDefined => "IsDefined"
  | equal => "Equal"
  | notEqual => "NotEqual"
  | lessThan => "LessThan"
  | greaterThan => "GreaterThan"
  | lessOrEqual => "LessOrEqual"
  | greaterOrEqual => "GreaterOrEqual"

def ofName? (name : String) : Option Operator := all.find? (·.name == name)

def isCombinator (op : Operator) : Bool := op == and || op == or

def isPresenceCheck (op : Operator) : Bool := op == isDefined || op == notDefined

def isEquality (op : Operator) : Bool := op == equal || op == notEqual

def isComparison (op : Operator) : Bool := !op.isCombinator && !op.isPresenceCheck

/-- The token of a comparison in a condition line. -/
def token? : Operator → Option String
  | equal => some "=="
  | notEqual => some "!="
  | lessThan => some "<"
  | greaterThan => some ">"
  | lessOrEqual => some "<="
  | greaterOrEqual => some ">="
  | _ => none

def ofToken? (token : String) : Option Operator := all.find? (·.token? == some token)

/-- Whether a comparison holds of two data in this order; what is no comparison never does. -/
def holds : Operator → Ordering → Bool
  | equal, order => order.isEq
  | notEqual, order => !order.isEq
  | lessThan, order => order.isLT
  | greaterThan, order => order.isGT
  | lessOrEqual, order => !order.isGT
  | greaterOrEqual, order => !order.isLT
  | _, _ => false

end Operator

end Deduce
