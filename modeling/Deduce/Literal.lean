import Deduce.Error

/-!
# Literals of rules

The text of a literal is read as the declared type of its fact says. A literal that cannot be read
gives an unset value; only an integer of too many digits is a defect.
-/

namespace Deduce

/-- An optional sign and one or more digits. -/
def splitInteger? (cs : List Char) : Option (Bool × List Char) :=
  let (negative, digits) := Decimal.splitSign cs
  if digits.isEmpty || !digits.all Char.isDigit then none else some (negative, digits)

def integerOf (negative : Bool) (digits : List Char) : Int :=
  let n : Int := Nat.ofDigitChars 10 digits 0
  if negative then -n else n

def readInteger (cs : List Char) : Except Defect (Option Int) :=
  match splitInteger? (Text.strip cs) with
  | none => .ok none
  | some (negative, digits) =>
    if maxIntDigits < digits.length then .error (.tooManyDigits (some digits.length))
    else .ok (some (integerOf negative digits))

def readDecimal? (cs : List Char) : Option Decimal := Decimal.ofPlain? (Text.strip cs)

/-- Truth values are read in any letter case, with no blanks around. -/
def readBool? (cs : List Char) : Option Bool :=
  let word := cs.map Char.toLower
  if word == "true".toList then some true
  else if word == "false".toList then some false
  else none

def ScalarType.read (type : ScalarType) (text : String) : Except Defect (Option Datum) :=
  match type with
  | .string => .ok (some (.string text))
  | .int => (readInteger text.toList).map (Option.map Datum.int)
  | .decimal => .ok ((readDecimal? text.toList).map Datum.decimal)
  | .bool => .ok ((readBool? text.toList).map Datum.bool)

/-- The value of a literal; the empty text is unset in every type. -/
def Value.ofLiteral (type : ScalarType) (text : String) : Except Defect Value :=
  if text.isEmpty then .ok ⟨type, none⟩ else (type.read text).map (Value.mk type)

end Deduce
