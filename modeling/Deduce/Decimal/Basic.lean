/-!
# Decimals

Decimal numbers that keep their scale: `1.50` and `1.5` are two decimals of one number. Comparison is
numeric and exact, whatever the exponents; it needs no number larger than the coefficients, because
two numbers with different leading places are told apart by those.
-/

namespace Deduce

-- one instance of powers, whatever else is imported
attribute [local instance (high)] instPowNat

/-- `±coefficient · 10 ^ exponent`, an infinity, or a mark that no number is there. -/
inductive Decimal where
  | finite (negative : Bool) (coefficient : Nat) (exponent : Int)
  | infinite (negative : Bool)
  | nan (negative signaling : Bool) (payload : Nat)
  deriving DecidableEq

namespace Decimal

/-- The number of decimal digits of a coefficient; zero has one. -/
def width (c : Nat) : Nat := (Nat.toDigits 10 c).length

theorem width_pos (c : Nat) : 0 < width c := Nat.length_toDigits_pos

theorem width_le_iff {c k : Nat} (h : 0 < k) : width c ≤ k ↔ c < 10 ^ k :=
  Nat.length_toDigits_le_iff (by decide) h

theorem lt_ten_pow_width (c : Nat) : c < 10 ^ width c :=
  (width_le_iff (width_pos c)).1 (Nat.le_refl _)

def isFinite : Decimal → Bool
  | finite .. => true
  | _ => false

def isSignaling : Decimal → Bool
  | nan _ signaling _ => signaling
  | _ => false

def ofInt (i : Int) : Decimal := finite (decide (i < 0)) i.natAbs 0

def adjusted (coefficient : Nat) (exponent : Int) : Int := exponent + width coefficient - 1

/-- The order of `c · 10 ^ e` and `d · 10 ^ f`. -/
def compareMagnitude (c : Nat) (e : Int) (d : Nat) (f : Int) : Ordering :=
  if c = 0 ∨ d = 0 then compare c d
  else
    match compare (adjusted c e) (adjusted d f) with
    | .eq => compare (c * 10 ^ (e - f).toNat) (d * 10 ^ (f - e).toNat)
    | order => order

/-- Whether the number is below zero; the negative zero is not. -/
def isBelowZero (negative : Bool) (coefficient : Nat) : Bool := negative && coefficient != 0

/-- The numeric order of two decimals; none when one of them is no number. -/
def order? : Decimal → Decimal → Option Ordering
  | nan .., _ | _, nan .. => none
  | infinite s, infinite t => some (if s == t then .eq else if s then .lt else .gt)
  | infinite s, finite .. => some (if s then .lt else .gt)
  | finite .., infinite t => some (if t then .gt else .lt)
  | finite s c e, finite t d f => some <|
    match isBelowZero s c, isBelowZero t d with
    | false, false => compareMagnitude c e d f
    | true, true => compareMagnitude d f c e
    | true, false => .lt
    | false, true => .gt

end Decimal

end Deduce
