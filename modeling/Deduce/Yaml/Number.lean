import Deduce.Text.LowerCase
import Deduce.Yaml.Cursor

/-!
# Numbers of a document

Integers in four bases and in sixties, and floats, in the digits of any script. Underscores are taken
out first.
-/

namespace Deduce.Yaml

def digitValue? (c : Char) : Option Nat :=
  if c.isDigit then some (c.toNat - '0'.toNat)
  else
    let lower := c.toLower
    if 'a' ≤ lower && lower ≤ 'f' then some (lower.toNat - 'a'.toNat + 10) else none

def isDigitIn (base : Nat) (c : Char) : Bool := (digitValue? c).any (· < base)

def numberIn (base : Nat) (digits : List Char) : Nat :=
  digits.foldl (fun n c => base * n + (digitValue? c).getD 0) 0

/-- The letter that may stand behind a zero in front of the digits of a base. -/
def baseLetter? (base : Nat) : Option Char :=
  if base = 2 then some 'b' else if base = 8 then some 'o' else if base = 16 then some 'x' else none

/-- An integer with blanks around it, a sign and the mark of its base in front. Too many digits are
noticed before what follows them. -/
def readIn (base : Nat) (cs : List Char) : Except Defect Int :=
  let (negative, rest) := Decimal.splitSign ((Text.asciiNumber cs).dropWhile Text.isAsciiBlank)
  let rest :=
    match rest with
    | '0' :: c :: more => if baseLetter? base == some c.toLower then more else rest
    | _ => rest
  let digits := rest.takeWhile (isDigitIn base)
  if base = 10 ∧ maxIntDigits < digits.length then .error (.tooManyDigits (some digits.length))
  else if digits.isEmpty || !(rest.dropWhile (isDigitIn base)).all Text.isAsciiBlank then
    .error (.notInteger base (String.ofList cs))
  else .ok (if negative then -(numberIn base digits : Int) else numberIn base digits)

def readDouble (cs : List Char) : Except Defect Binary64 :=
  match Binary64.ofText? cs with
  | some x => .ok x
  | none => .error (.notFloat (String.ofList cs))

/-- The parts of a text between colons, read one by one. -/
def readParts {α : Type} (read : List Char → Except Defect α) (cs : List Char) :
    Except Defect (List α) :=
  (cs.splitOn ':').mapM read

def withoutUnderscores (text : String) : List Char := text.toList.filter (· != '_')

def intOfScalar (text : String) : Except Defect Int :=
  let cs := withoutUnderscores text
  if cs.isEmpty then .error .emptyNumber
  else
    let (negative, rest) := Decimal.splitSign cs
    let signed (i : Int) : Int := if negative then -i else i
    match rest with
    | [] => .error .emptyNumber
    | ['0'] => .ok 0
    | '0' :: 'b' :: digits => (readIn 2 digits).map signed
    | '0' :: 'x' :: digits => (readIn 16 digits).map signed
    | '0' :: _ => (readIn 8 rest).map signed
    | _ =>
      if rest.contains ':' then
        (readParts (readIn 10) rest).map fun parts =>
          signed (parts.foldl (fun n part => 60 * n + part) 0)
      else (readIn 10 rest).map signed

/-- A sum in sixties over parts from the last one on, the first of which counts `weight`. -/
def sixtySum (sum : Binary64) (weight : Nat) : List Binary64 → Except Defect Binary64
  | [] => .ok sum
  | part :: rest =>
    match Binary64.ofNat weight with
    | .finite s m e => sixtySum (sum.add (part.mul (.finite s m e))) (weight * 60) rest
    | _ => .error .beyondDoubles

/-- The double of a scalar, or none for the sign that no number is there. -/
def floatOfScalar? (text : String) : Except Defect (Option Binary64) :=
  let cs := Text.lowerCase (withoutUnderscores text)
  if cs.isEmpty then .error .emptyNumber
  else
    let (negative, rest) := Decimal.splitSign cs
    let signed (x : Binary64) : Option Binary64 := some (if negative then x.neg else x)
    if rest == ".inf".toList then .ok (signed (.infinite false))
    else if rest == ".nan".toList then .ok none
    else if rest.contains ':' then do
      let parts ← readParts readDouble rest
      return signed (← sixtySum (.zero false) 1 parts.reverse)
    else (readDouble rest).map signed

def boolOfScalar (text : String) : Except Defect Bool :=
  let word := String.ofList (Text.lowerCase text.toList)
  if word == "yes" || word == "true" || word == "on" then .ok true
  else if word == "no" || word == "false" || word == "off" then .ok false
  else .error (.unknownWord word)

/-- The value of a character in base 64. -/
def sextet? (c : Char) : Option Nat :=
  if 'A' ≤ c && c ≤ 'Z' then some (c.toNat - 'A'.toNat)
  else if 'a' ≤ c && c ≤ 'z' then some (c.toNat - 'a'.toNat + 26)
  else if c.isDigit then some (c.toNat - '0'.toNat + 52)
  else if c == '+' then some 62
  else if c == '/' then some 63
  else none

/-- Bytes in base 64, four characters to three bytes. `place` counts the characters of the group in
hand, `left` holds the bits not used yet and `pads` the padding seen; other characters are skipped. -/
def base64From (place left pads : Nat) (done : List UInt8) : List Char → Option (List UInt8)
  | [] => if place = 0 then some done.reverse else none
  | c :: rest =>
    if c == '=' then
      if 2 ≤ place then
        if 4 ≤ place + pads + 1 then some done.reverse else base64From place left (pads + 1) done rest
      else base64From place left pads done rest
    else
      match sextet? c with
      | none => base64From place left pads done rest
      | some v =>
        if place = 0 then base64From 1 v 0 done rest
        else if place = 1 then base64From 2 (v % 16) 0 (UInt8.ofNat (left * 4 + v / 16) :: done) rest
        else if place = 2 then base64From 3 (v % 4) 0 (UInt8.ofNat (left * 16 + v / 4) :: done) rest
        else base64From 0 0 0 (UInt8.ofNat (left * 64 + v) :: done) rest

/-- The bytes of a scalar in base 64, which is ASCII. -/
def bytesOfScalar? (text : String) : Option (List UInt8) :=
  if text.toList.all (·.toNat < 0x80) then base64From 0 0 0 [] text.toList else none

end Deduce.Yaml
