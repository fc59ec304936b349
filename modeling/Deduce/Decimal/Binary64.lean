import Deduce.Decimal.Text

/-!
# Doubles

Binary numbers of 53 significant bits. Every operation gives the double nearest to the exact result,
the even one of two, and an infinity beyond the largest. All arithmetic is on whole numbers.
-/

namespace Deduce

-- one instance of powers, whatever else is imported
attribute [local instance (high)] instPowNat

/-- A binary number of 53 significant bits: `±significand · 2 ^ exponent`, an infinity, or no number.
The exponent is at least -1074, and the significand has all 53 bits unless the exponent is -1074. -/
inductive Binary64 where
  | finite (negative : Bool) (significand : Nat) (exponent : Int)
  | infinite (negative : Bool)
  | nan
  deriving DecidableEq

namespace Binary64

def zero (negative : Bool) : Binary64 := finite negative 0 (-1074)

/-- The whole number nearest to `n / d`, the even one of two. -/
def roundDiv (n d : Nat) : Nat :=
  let q := n / d
  let r := n % d
  if 2 * r < d then q else if d < 2 * r then q + 1 else if q % 2 = 0 then q else q + 1

def scaled (n d : Nat) (e : Int) : Nat × Nat := (n * 2 ^ (-e).toNat, d * 2 ^ e.toNat)

def ofRatio (negative : Bool) (n d : Nat) : Binary64 :=
  if n = 0 then zero negative
  else
    let estimate := max ((n.log2 : Int) - d.log2 - 53) (-1074)
    let (p, q) := scaled n d estimate
    let exponent := if 2 ^ (53 : Nat) ≤ p / q then estimate + 1 else estimate
    let (p, q) := scaled n d exponent
    let m := roundDiv p q
    let (m, exponent) :=
      if m = 2 ^ (53 : Nat) then (2 ^ (52 : Nat), exponent + 1) else (m, exponent)
    if 971 < exponent then infinite negative else finite negative m exponent

/-- The double nearest to a decimal. Beyond 310 places in front of the point all is infinite, and
beyond 330 behind it all is zero. -/
def ofDecimal : Decimal → Binary64
  | .nan .. => nan
  | .infinite negative => infinite negative
  | .finite negative coefficient exponent =>
    if coefficient = 0 then zero negative
    else
      let leading := Decimal.adjusted coefficient exponent
      if 310 < leading then infinite negative
      else if leading < -330 then zero negative
      else ofRatio negative (coefficient * 10 ^ exponent.toNat) (10 ^ (-exponent).toNat)

def ofNat (n : Nat) : Binary64 := ofRatio false n 1

def ratio (significand : Nat) (exponent : Int) : Nat × Nat :=
  (significand * 2 ^ exponent.toNat, 2 ^ (-exponent).toNat)

def toDecimal : Binary64 → Decimal
  | nan => .nan false false 0
  | infinite negative => .infinite negative
  | finite negative m e =>
    if 0 ≤ e then .finite negative (m * 2 ^ e.toNat) 0 else .finite negative (m * 5 ^ (-e).toNat) e

def signed (negative : Bool) (n : Nat) : Int := if negative then -n else n

/-- The double nearest to `n / d`; a zero is negative only if it is said to be. -/
def ofSignedRatio (zeroNegative : Bool) (n : Int) (d : Nat) : Binary64 :=
  if n = 0 then zero zeroNegative else ofRatio (decide (n < 0)) n.natAbs d

def add : Binary64 → Binary64 → Binary64
  | nan, _ | _, nan => nan
  | infinite s, infinite t => if s == t then infinite s else nan
  | infinite s, finite .. | finite .., infinite s => infinite s
  | finite s m e, finite t m' e' =>
    let (n, d) := ratio m e
    let (n', d') := ratio m' e'
    ofSignedRatio (s && t) (signed s (n * d') + signed t (n' * d)) (d * d')

def mul : Binary64 → Binary64 → Binary64
  | nan, _ | _, nan => nan
  | infinite s, infinite t => infinite (s != t)
  | infinite s, finite t m _ | finite t m _, infinite s => if m = 0 then nan else infinite (s != t)
  | finite s m e, finite t m' e' =>
    let (n, d) := ratio m e
    let (n', d') := ratio m' e'
    ofRatio (s != t) (n * n') (d * d')

def neg : Binary64 → Binary64
  | finite negative m e => finite (!negative) m e
  | infinite negative => infinite (!negative)
  | nan => nan

/-- The double nearest to a written number: digits of any script with blanks around them, a sign, a
point and an exponent, in either letter case; or the words for infinity and for no number. -/
def ofText? (cs : List Char) : Option Binary64 :=
  let (negative, rest) := Decimal.splitSign ((Text.stripAscii (Text.asciiNumber cs)).map Char.toLower)
  if rest == "inf".toList || rest == "infinity".toList then some (infinite negative)
  else if rest == "nan".toList then some nan
  else (Decimal.ofScientific? negative rest).map ofDecimal

end Binary64

end Deduce
