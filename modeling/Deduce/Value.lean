import Deduce.Decimal.Shortest
import Deduce.Operator
import Deduce.Text.Quoted

/-!
# Typed values

A value is a scalar type with a datum, or without one while it is unset. Natives are what a caller
hands in before anything is checked. A datum need not suit its type: `Value.IsWellFormed` says when it does.
-/

namespace Deduce

inductive ScalarType where
  | string
  | int
  | decimal
  | bool
  deriving DecidableEq

namespace ScalarType

def all : List ScalarType := [string, int, decimal, bool]

def name : ScalarType → String
  | string => "string"
  | int => "int"
  | decimal => "decimal"
  | bool => "bool"

def ofName? (name : String) : Option ScalarType := all.find? (·.name == name)

/-- Strings and truth values are only equal or not; numbers are ordered. -/
def supports : ScalarType → Operator → Bool
  | string, op | bool, op => op.isEquality
  | int, op | decimal, op => op.isComparison

end ScalarType

inductive Datum where
  | string (s : String)
  | int (i : Int)
  | decimal (d : Decimal)
  | bool (b : Bool)
  /-- A double, which suits no type. -/
  | float (x : Binary64)
  deriving DecidableEq

namespace Datum

def boolText (b : Bool) : String := if b then "True" else "False"

def text : Datum → String
  | string s => s
  | int i => intText i
  | decimal d => d.text
  | bool b => boolText b
  | float x => x.text

/-- Whether the datum can be written out, which an integer of too many digits cannot. -/
def isWritable : Datum → Bool
  | int i => Decimal.width i.natAbs ≤ maxIntDigits
  | _ => true

/-- A string is not empty and a decimal is finite. -/
def Suits : Datum → ScalarType → Prop
  | string s, .string => s ≠ ""
  | int _, .int => True
  | decimal d, .decimal => d.isFinite = true
  | bool _, .bool => True
  | _, _ => False

end Datum

/-- A scalar of a type, or the lack of one. -/
structure Value where
  type : ScalarType
  data : Option Datum := none
  deriving DecidableEq

namespace Value

def isUnset (v : Value) : Bool := v.data.isNone

def text (v : Value) : String :=
  match v.data with
  | none => ""
  | some datum => datum.text

def isWritable (v : Value) : Bool := v.data.all Datum.isWritable

def IsWellFormed (v : Value) : Prop := ∃ datum, v.data = some datum ∧ datum.Suits v.type

def supports (v : Value) (op : Operator) : Bool := v.type.supports op

end Value

/-- What a caller may supply for a fact. Mappings, tuples and records other than typed values are left
out. -/
inductive Native where
  | null
  | string (s : String)
  | int (i : Int)
  | decimal (d : Decimal)
  | bool (b : Bool)
  | float (x : Binary64)
  | list (items : List Native)
  | value (v : Value)
  /-- A typed value taken apart, which is no typed value any more. -/
  | parts (v : Value)

namespace Native

def ofDatum? : Option Datum → Native
  | none => null
  | some (.string s) => string s
  | some (.int i) => int i
  | some (.decimal d) => decimal d
  | some (.bool b) => bool b
  | some (.float x) => float x

def kindName : Native → String
  | null => "NoneType"
  | string _ => "str"
  | int _ => "int"
  | decimal _ => "Decimal"
  | bool _ => "bool"
  | float _ => "float"
  | list _ => "list"
  | value _ => "Value"
  | parts _ => "dict"

/-- A datum as shown inside a list: strings and decimals are marked as such. -/
def datumShown : Option Datum → String
  | none => "None"
  | some (.string s) => Text.quoted s
  | some (.decimal d) => "Decimal('" ++ d.text ++ "')"
  | some datum => datum.text

def typeShown (type : ScalarType) : String :=
  "<ScalarType." ++ String.ofList (type.name.toList.map Char.toUpper) ++ ": '" ++ type.name ++ "'>"

def valueShown (v : Value) : String :=
  "Value(type=" ++ typeShown v.type ++ ", data=" ++ datumShown v.data ++ ")"

def partsShown (v : Value) : String :=
  "\x7b'type': " ++ typeShown v.type ++ ", 'data': " ++ datumShown v.data ++ "\x7d"

def shown : Native → String
  | null => datumShown none
  | string s => datumShown (some (.string s))
  | int i => datumShown (some (.int i))
  | decimal d => datumShown (some (.decimal d))
  | bool b => datumShown (some (.bool b))
  | float x => x.text
  | list items => "[" ++ String.intercalate ", " (items.map shown) ++ "]"
  | value v => valueShown v
  | parts v => partsShown v

mutual

def isWritable : Native → Bool
  | int i => (Datum.int i).isWritable
  | list items => allWritable items
  | value v | parts v => v.isWritable
  | _ => true

def allWritable : List Native → Bool
  | [] => true
  | item :: rest => item.isWritable && allWritable rest

end

def text : Native → String
  | string s => s
  | decimal d => d.text
  | value v => v.text
  | native => native.shown

end Native

end Deduce
