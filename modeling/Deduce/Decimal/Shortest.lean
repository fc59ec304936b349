import Deduce.Decimal.Binary64

/-!
# The shortest text of a double

A double is written with the fewest digits that read back as the same double; of two such the nearer
one is taken, and a tie goes to the even digit. All arithmetic is on natural numbers.
-/

namespace Deduce

-- one instance of powers, whatever else is imported
attribute [local instance (high)] instPowNat

namespace Binary64

/-- The decimals `d · 10 ^ k` next to a positive double from below and above, those that read back
as the double, the nearer one first. -/
def readingBack (m : Nat) (exponent k : Int) : List Nat :=
  -- everything is counted in quarters of the last binary place
  let unit := 2 ^ (exponent - 2).toNat * 10 ^ (-k).toNat
  let grid := 2 ^ (2 - exponent).toNat * 10 ^ k.toNat
  let value := 4 * m * unit
  let low := (if m = 2 ^ (52 : Nat) ∧ -1074 < exponent then 4 * m - 1 else 4 * m - 2) * unit
  let high := (4 * m + 2) * unit
  let inside (d : Nat) : Bool :=
    if m % 2 = 0 then low ≤ d * grid && d * grid ≤ high else low < d * grid && d * grid < high
  let below := value / grid
  let nearerBelow : Bool :=
    let gap := 2 * (value % grid)
    gap < grid || (gap == grid && below % 2 == 0)
  let candidates := if nearerBelow then [below, below + 1] else [below + 1, below]
  candidates.filter fun d => d != 0 && inside d

/-- The first of the grids `10 ^ k`, `10 ^ (k - 1)`, … with a decimal that reads back; seventeen
digits always do. -/
def firstGrid (significand : Nat) (exponent : Int) : Nat → Int → Nat × Int
  | 0, k => (0, k)
  | more + 1, k =>
    match readingBack significand exponent k with
    | d :: _ => (d, k)
    | [] => firstGrid significand exponent more (k - 1)

/-- The place of the leading decimal digit of a positive double, by trial around its binary size. -/
def leadingPlace (significand : Nat) (exponent : Int) : Int :=
  let atLeast (p : Int) : Bool :=
    10 ^ p.toNat * 2 ^ (-exponent).toNat ≤ significand * 2 ^ exponent.toNat * 10 ^ (-p).toNat
  let size : Int := significand.log2 + exponent
  let guess := Int.fdiv (size * 30103) 100000
  if atLeast (guess + 1) then guess + 1 else if atLeast guess then guess else guess - 1

def shortest (significand : Nat) (exponent : Int) : Nat × Int :=
  firstGrid significand exponent 18 (leadingPlace significand exponent)

structure Layout where
  /-- Leading places that are written without an exponent. -/
  leastPlace : Int
  mostPlace : Int
  /-- Fewest digits of a written exponent. -/
  exponentWidth : Nat

/-- Doubles are written plainly from 0.0001 up to below ten to the sixteenth, and an exponent has two
digits at least. -/
def layout : Layout := ⟨-4, 15, 2⟩

def trimZeros (digits : List Char) : List Char :=
  (digits.reverse.dropWhile (· == '0')).reverse

/-- A positive double; a whole number keeps one zero behind the point. -/
def positiveText (l : Layout) (significand : Nat) (exponent : Int) : List Char :=
  let (d, k) := shortest significand exponent
  let all := Nat.toDigits 10 d
  let digits := trimZeros all
  let place := k + all.length - 1
  if l.leastPlace ≤ place ∧ place ≤ l.mostPlace then
    let plain := Decimal.pointAt digits (place + 1)
    if plain.contains '.' then plain else plain ++ ['.', '0']
  else
    let power := Nat.toDigits 10 place.natAbs
    Decimal.pointAt digits 1 ++ 'e' :: (if place < 0 then '-' else '+') ::
      (List.replicate (l.exponentWidth - power.length) '0' ++ power)

def text : Binary64 → String
  | nan => "nan"
  | infinite negative => if negative then "-inf" else "inf"
  | finite negative significand exponent => String.ofList <|
    Decimal.signText negative ++
      if significand = 0 then ['0', '.', '0'] else positiveText layout significand exponent

end Binary64

end Deduce
