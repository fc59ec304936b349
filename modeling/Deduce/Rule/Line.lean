import Deduce.Literal
import Deduce.Schema
import Deduce.Tree.Flow

/-!
# Lines of a rule

Conditions, facts and actions are written as one line each. Every fact id has to be declared, and a
literal has to read as a value of the declared type. A line's first two spaces divide it, so that a
literal may hold spaces.
-/

namespace Deduce

/-- The parts of a line up to the first and between the first and second space, and the rest. -/
inductive Line where
  | one (a : String)
  | two (a b : String)
  | three (a b c : String)
  deriving DecidableEq

/-- What stands before the first space, and what stands behind it if there is one. -/
def cutAtSpace (cs : List Char) : List Char × Option (List Char) :=
  (cs.takeWhile (· != ' '),
    match cs.dropWhile (· != ' ') with
    | [] => none
    | _ :: rest => some rest)

namespace Line

def ofText (text : String) : Line :=
  match cutAtSpace text.toList with
  | (a, none) => one (String.ofList a)
  | (a, some rest) =>
    match cutAtSpace rest with
    | (b, none) => two (String.ofList a) (String.ofList b)
    | (b, some c) => three (String.ofList a) (String.ofList b) (String.ofList c)

end Line

namespace Schema

def fact (schema : Schema) (id literal : String) : Except Failure Fact :=
  match schema.lookup id with
  | .error e => .error (.error e)
  | .ok type =>
    match Value.ofLiteral type literal with
    | .error d => .error (.defect d)
    | .ok value =>
      if value.isUnset then .error (.error (.unreadableLiteral type id literal))
      else .ok ⟨id, value⟩

end Schema

/-- What a line of a condition list says: how the conditions are joined, or a condition. -/
inductive ConditionLine where
  | combinator (isAnd : Bool)
  | condition (c : Condition)
  deriving DecidableEq

/-- The presence check of a sign in front of an id. -/
def presenceCheck? (sign : Char) : Option Operator :=
  if sign == '&' then some .isDefined else if sign == '!' then some .notDefined else none

/-- The words `and` and `or` in any letter case. -/
def combinator? (word : String) : Option Bool :=
  let lower := word.toList.map Char.toLower
  if lower == "and".toList then some true
  else if lower == "or".toList then some false
  else none

/-- The presence check that a word without spaces denotes. -/
def readPresence? (word : String) : Option (Operator × String) :=
  match word.toList with
  | [] => none
  | sign :: id => (presenceCheck? sign).map fun op => (op, String.ofList id)

def readConditionText (schema : Schema) (text : String) : Except Failure ConditionLine :=
  match Line.ofText text with
  | .one word =>
    match readPresence? word with
    | some (op, id) =>
      match schema.lookup id with
      | .ok _ => .ok (.condition ⟨id, op, none⟩)
      | .error e => .error (.error (e.within (.conditionLine text)))
    | none =>
      match combinator? word with
      | some isAnd => .ok (.combinator isAnd)
      | none => .error (.error (.conditionFormat text))
  | .two .. => .error (.error (.conditionFormat text))
  | .three id token literal =>
    match atPlace (.conditionLine text) (schema.fact id literal) with
    | .error failure => .error failure
    | .ok fact =>
      match Operator.ofToken? token with
      | some op => .ok (.condition ⟨fact.id, op, some fact.value⟩)
      | none => .error (.error (.conditionFormat text))

def readCondition (schema : Schema) (tree : Tree) : Except Failure ConditionLine :=
  match tree.text? with
  | none => .error (.error (.notConditionLine tree.flowText))
  | some text => readConditionText schema text

def readFactText (schema : Schema) (text : String) : Except Failure Fact :=
  match Line.ofText text with
  | .three id "=" literal => atPlace (.factLine text) (schema.fact id literal)
  | _ => .error (.error (.factFormat text))

def readFact (schema : Schema) (tree : Tree) : Except Failure Fact :=
  match tree.text? with
  | none => .error (.error (.notFactLine tree.flowText))
  | some text => readFactText schema text

def ActionKind.ofName (name : String) : Except Error ActionKind :=
  match ofName? name with
  | some kind => .ok kind
  | none => .error (.unknownActionKind name)

def readActionText (text : String) : Except Failure Action :=
  match Line.ofText text with
  | .two name id =>
    match ActionKind.ofName name with
    | .ok kind => .ok ⟨kind, id⟩
    | .error e => .error (.error (e.within (.actionLine text)))
  | _ => .error (.error (.actionFormat text))

def readAction (tree : Tree) : Except Failure Action :=
  match tree.text? with
  | none => .error (.error (.notActionLine tree.flowText))
  | some text => readActionText text

end Deduce
