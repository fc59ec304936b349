import Deduce.Yaml.Cursor
import Deduce.Yaml.Scalar

/-!
# Dates and times

The timestamps of a document as dates, or as moments with a clock time and perhaps an offset from
universal time.
-/

namespace Deduce.Yaml

structure Date where
  year : Nat
  month : Nat
  day : Nat
  deriving DecidableEq

structure Clock where
  hour : Nat
  minute : Nat
  second : Nat
  microsecond : Nat
  deriving DecidableEq

/-- A date with a clock time; the offset is counted in minutes. -/
structure Moment where
  date : Date
  clock : Clock
  offset : Option Int
  deriving DecidableEq

def isLeapYear (year : Nat) : Bool := year % 4 == 0 && (year % 100 != 0 || year % 400 == 0)

def daysInMonth (year month : Nat) : Nat :=
  if month == 2 then if isLeapYear year then 29 else 28
  else if month == 4 || month == 6 || month == 9 || month == 11 then 30
  else 31

def padded (width n : Nat) : String :=
  let digits := Nat.toDigits 10 n
  String.ofList (List.replicate (width - digits.length) '0' ++ digits)

namespace Date

def check (d : Date) : Except DatePart Date :=
  if d.year < 1 then .error (.year d.year)
  else if d.month < 1 || 12 < d.month then .error .month
  else if d.day < 1 || daysInMonth d.year d.month < d.day then .error .day
  else .ok d

def text (d : Date) : String := padded 4 d.year ++ "-" ++ padded 2 d.month ++ "-" ++ padded 2 d.day

def dayNumber (d : Date) : Nat :=
  let y := d.year - 1
  let months := (List.range (d.month - 1)).foldl (fun n m => n + daysInMonth d.year (m + 1)) 0
  y * 365 + y / 4 - y / 100 + y / 400 + months + d.day

end Date

namespace Clock

def check (c : Clock) : Except DatePart Clock :=
  if 23 < c.hour then .error .hour
  else if 59 < c.minute then .error .minute
  else if 59 < c.second then .error .second
  else .ok c

def text (c : Clock) : String :=
  padded 2 c.hour ++ ":" ++ padded 2 c.minute ++ ":" ++ padded 2 c.second ++
    (if c.microsecond = 0 then "" else "." ++ padded 6 c.microsecond)

end Clock

/-- A span of minutes as days and seconds, the days alone being negative. -/
def spanShown (minutes : Int) : String :=
  let days := Int.fdiv minutes 1440
  let seconds := Int.fmod minutes 1440 * 60
  let parts :=
    (if days = 0 then [] else ["days=" ++ intText days]) ++
      (if seconds = 0 then [] else ["seconds=" ++ intText seconds])
  "datetime.timedelta(" ++ (if parts.isEmpty then "0" else String.intercalate ", " parts) ++ ")"

namespace Moment

def offsetText (minutes : Int) : String :=
  (if minutes < 0 then "-" else "+") ++ padded 2 (minutes.natAbs / 60) ++ ":" ++
    padded 2 (minutes.natAbs % 60)

def text (m : Moment) : String :=
  m.date.text ++ " " ++ m.clock.text ++
    match m.offset with
    | none => ""
    | some minutes => offsetText minutes

/-- The numbers of a moment, those of the seconds only as far as they are not zero. -/
def parts (m : Moment) : List Nat :=
  [m.date.year, m.date.month, m.date.day, m.clock.hour, m.clock.minute] ++
    if m.clock.microsecond ≠ 0 then [m.clock.second, m.clock.microsecond]
    else if m.clock.second ≠ 0 then [m.clock.second]
    else []

def shown (m : Moment) : String :=
  let zone :=
    match m.offset with
    | none => []
    | some 0 => ["tzinfo=datetime.timezone.utc"]
    | some minutes => ["tzinfo=datetime.timezone(" ++ spanShown minutes ++ ")"]
  "datetime.datetime(" ++ String.intercalate ", " (m.parts.map (fun (n : Nat) => intText n) ++ zone) ++ ")"

/-- Microseconds since the beginning of the year 1 in universal time. -/
def instant (m : Moment) (offset : Int) : Int :=
  let minutes : Int := (m.date.dayNumber * 24 + m.clock.hour) * 60 + m.clock.minute
  ((minutes - offset) * 60 + m.clock.second) * 1000000 + m.clock.microsecond

/-- Whether two moments are the same: as instants if both have an offset, as written if none has. -/
def same (a b : Moment) : Bool :=
  match a.offset, b.offset with
  | none, none => a.date == b.date && a.clock == b.clock
  | some s, some t => a.instant s == b.instant t
  | _, _ => false

end Moment

def number (digits : List Char) : Nat := Nat.ofDigitChars 10 digits 0

/-- Six digits of a fraction, zeros supplied. -/
def microseconds (digits : List Char) : Nat :=
  let six := digits.take 6
  number (six ++ List.replicate (6 - six.length) '0')

/-- The offset of a zone in minutes, which is less than a day. -/
def offsetOf : ZoneText → Except DatePart Int
  | .universal => .ok 0
  | .offset negative hour minute =>
    let span : Int := number hour * 60 + number minute
    let minutes := if negative then -span else span
    if minutes.natAbs < 1440 then .ok minutes else .error (.offset (spanShown minutes))

/-- The date, or the moment, that a timestamp denotes. -/
def TimestampText.resolve (t : TimestampText) : Except DatePart (Date ⊕ Moment) :=
  let date : Date := ⟨number t.year, number t.month, number t.day⟩
  match t.clock with
  | none => date.check.map Sum.inl
  | some c => do
    let offset ←
      match c.zone with
      | none => pure none
      | some zone => (offsetOf zone).map some
    let date ← date.check
    let clock ← Clock.check ⟨number c.hour, number c.minute, number c.second, microseconds c.fraction⟩
    return .inr ⟨date, clock, offset⟩

end Deduce.Yaml
