import Deduce.Decimal.Basic
import Deduce.Text.DecimalDigit

/-!
# Decimals as text

Writing keeps coefficient and exponent apart from the number: the coefficient's digits are all
written, with a point where the exponent is at most zero and the leading digit at most six places
behind it, and with an exponent otherwise. Reading comes in two grammars: plain digits with an
optional point, which rule literals have, and the general one that also reads what is written.
-/

namespace Deduce

/-- The most digits with which an integer is read or written. -/
def maxIntDigits : Nat := 4300

def intText (i : Int) : String :=
  let digits := Nat.toDigits 10 i.natAbs
  String.ofList (if i < 0 then '-' :: digits else digits)

namespace Decimal

/-- Digits with the point after the first `place` of them, zeros supplied on either side. -/
def pointAt (digits : List Char) (place : Int) : List Char :=
  if place ≤ 0 then '0' :: '.' :: List.replicate (-place).toNat '0' ++ digits
  else if digits.length ≤ place then digits ++ List.replicate (place.toNat - digits.length) '0'
  else digits.take place.toNat ++ '.' :: digits.drop place.toNat

/-- The digits of a finite decimal, with point or exponent. -/
def finiteText (coefficient : Nat) (exponent : Int) : List Char :=
  let digits := Nat.toDigits 10 coefficient
  let leading := adjusted coefficient exponent
  if exponent ≤ 0 ∧ -6 ≤ leading then pointAt digits (leading + 1)
  else
    let sign := if leading < 0 then '-' else '+'
    pointAt digits 1 ++ 'E' :: sign :: Nat.toDigits 10 leading.natAbs

def signText (negative : Bool) : List Char := if negative then ['-'] else []

def chars : Decimal → List Char
  | finite negative coefficient exponent => signText negative ++ finiteText coefficient exponent
  | infinite negative => signText negative ++ "Infinity".toList
  | nan negative signaling payload =>
    signText negative ++ (if signaling then ['s'] else []) ++ "NaN".toList ++
      (if payload = 0 then [] else Nat.toDigits 10 payload)

def text (d : Decimal) : String := String.ofList d.chars

def splitSign : List Char → Bool × List Char
  | '-' :: rest => (true, rest)
  | '+' :: rest => (false, rest)
  | cs => (false, cs)

/-- The digits up to a point and those after it, if there is nothing else and at least one digit. -/
def splitPoint? (cs : List Char) : Option (List Char × List Char) :=
  let whole := cs.takeWhile Char.isDigit
  match cs.dropWhile Char.isDigit with
  | [] => if whole.isEmpty then none else some (whole, [])
  | '.' :: fraction =>
    if fraction.all Char.isDigit && !(whole.isEmpty && fraction.isEmpty) then some (whole, fraction)
    else none
  | _ => none

/-- The number that digits around a point and a power of ten denote. -/
def ofDigits (negative : Bool) (whole fraction : List Char) (exponent : Int) : Decimal :=
  finite negative (Nat.ofDigitChars 10 (whole ++ fraction) 0) (exponent - fraction.length)

/-- An optional sign and digits with an optional point. -/
def ofPlain? (cs : List Char) : Option Decimal :=
  let (negative, rest) := splitSign cs
  (splitPoint? rest).map fun (whole, fraction) => ofDigits negative whole fraction 0

/-- A signed whole number. -/
def exponent? (cs : List Char) : Option Int :=
  let (negative, digits) := splitSign cs
  if digits.isEmpty || !digits.all Char.isDigit then none
  else
    let n : Int := Nat.ofDigitChars 10 digits 0
    some (if negative then -n else n)

/-- Digits with an optional point, and an optional exponent behind the letter `e`. -/
def ofScientific? (negative : Bool) (cs : List Char) : Option Decimal :=
  match splitPoint? (cs.takeWhile (· != 'e')), cs.dropWhile (· != 'e') with
  | some (whole, fraction), [] => some (ofDigits negative whole fraction 0)
  | some (whole, fraction), _ :: power => (exponent? power).map (ofDigits negative whole fraction)
  | none, _ => none

/-- The mark for a missing number: an optional `s`, `nan` and a payload. -/
def nan? (negative : Bool) (cs : List Char) : Option Decimal :=
  let mark (signaling : Bool) (payload : List Char) :=
    if payload.all Char.isDigit then some (nan negative signaling (Nat.ofDigitChars 10 payload 0))
    else none
  match cs with
  | 's' :: 'n' :: 'a' :: 'n' :: payload => mark true payload
  | 'n' :: 'a' :: 'n' :: payload => mark false payload
  | _ => none

/-- Any number that can be written: in digits of any script, with an exponent, in either letter case,
with underscores between the digits and blanks around. -/
def ofText? (s : String) : Option Decimal :=
  let cs := ((Text.strip s.toList).filter (· != '_')).map fun c => (Text.asciiDigit c).toLower
  let (negative, rest) := splitSign cs
  if rest == "inf".toList || rest == "infinity".toList then some (infinite negative)
  else
    match nan? negative rest with
    | some mark => some mark
    | none => ofScientific? negative rest

end Decimal

end Deduce
