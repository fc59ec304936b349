/-!
# What plain scalars stand for

A scalar without quotes or tag is a truth value, a number, a date, nothing at all or one of two signs
if it looks like one, and a string otherwise. The shapes are those of version 1.1 of the format:
numbers may hold underscores, may be binary, octal or hexadecimal, or count in sixties behind colons.
-/

namespace Deduce.Yaml

inductive ScalarKind where
  | string
  | null
  | bool
  | int
  | float
  | timestamp
  /-- The sign `<<`, under which another mapping is merged. -/
  | merge
  /-- The sign `=`, under which a mapping's own value stands. -/
  | value
  /-- A lone sign of a tag, an anchor or an alias. -/
  | sign
  deriving DecidableEq

namespace Shape

def isDigitOrUnderscore (c : Char) : Bool := c.isDigit || c == '_'

def dropSign : List Char → List Char
  | c :: rest => if c == '-' || c == '+' then rest else c :: rest
  | [] => []

/-- A digit followed by digits and underscores. -/
def isDigits : List Char → Bool
  | c :: rest => c.isDigit && rest.all isDigitOrUnderscore
  | [] => false

/-- A part of a number that counts in sixties: one digit, or two of which the first is below six. -/
def isSixtieth : List Char → Bool
  | [c] => c.isDigit
  | [c, d] => '0' ≤ c && c ≤ '5' && d.isDigit
  | _ => false

def colonParts (cs : List Char) : List (List Char) := cs.splitOn ':'

def isExponent : List Char → Bool
  | [] => true
  | e :: sign :: digits =>
    (e == 'e' || e == 'E') && (sign == '-' || sign == '+') && !digits.isEmpty &&
      digits.all Char.isDigit
  | _ => false

def isFraction (cs : List Char) : Bool := isExponent (cs.dropWhile isDigitOrUnderscore)

def isSixtyFloat (cs : List Char) : Bool :=
  let whole := cs.takeWhile (· != '.')
  match cs.dropWhile (· != '.') with
  | '.' :: fraction =>
    fraction.all isDigitOrUnderscore &&
      match colonParts whole with
      | first :: second :: more => isDigits first && (second :: more).all isSixtieth
      | _ => false
  | _ => false

def isWord (words : List String) (cs : List Char) : Bool := words.contains (String.ofList cs)

def isFloat (cs : List Char) : Bool :=
  let rest := dropSign cs
  let pointed :=
    match rest.dropWhile (· != '.') with
    | '.' :: fraction => isDigits (rest.takeWhile (· != '.')) && isFraction fraction
    | _ => false
  let bare :=
    match cs with
    | '.' :: c :: fraction => c.isDigit && isFraction fraction
    | _ => false
  pointed || bare || isSixtyFloat rest || isWord [".inf", ".Inf", ".INF"] rest ||
    isWord [".nan", ".NaN", ".NAN"] cs

def isInt (cs : List Char) : Bool :=
  match dropSign cs with
  | ['0'] => true
  | '0' :: 'b' :: digits => !digits.isEmpty && digits.all fun c => c == '0' || c == '1' || c == '_'
  | '0' :: 'x' :: digits =>
    !digits.isEmpty && digits.all fun c =>
      isDigitOrUnderscore c || ('a' ≤ c && c ≤ 'f') || ('A' ≤ c && c ≤ 'F')
  | '0' :: digits => digits.all fun c => ('0' ≤ c && c ≤ '7') || c == '_'
  | rest =>
    match colonParts rest with
    | first :: more => isDigits first && more.all isSixtieth
    | [] => false

/-- One or two digits at the start, as many as there are, and what follows them. -/
def oneOrTwoDigits? : List Char → Option (List Char × List Char)
  | c :: d :: rest =>
    if c.isDigit then
      if d.isDigit then some ([c, d], rest) else some ([c], d :: rest)
    else none
  | [c] => if c.isDigit then some ([c], []) else none
  | [] => none

def exactDigits? (n : Nat) (cs : List Char) : Option (List Char × List Char) :=
  let digits := cs.take n
  if digits.length == n && digits.all Char.isDigit then some (digits, cs.drop n) else none

def sign? (sign : Char) : List Char → Option (List Char)
  | c :: rest => if c == sign then some rest else none
  | [] => none

def dropBlanks (cs : List Char) : List Char := cs.dropWhile fun c => c == ' ' || c == '\t'

end Shape

inductive ZoneText where
  | universal
  | offset (negative : Bool) (hour : List Char) (minute : List Char)

structure ClockText where
  hour : List Char
  minute : List Char
  second : List Char
  fraction : List Char
  zone : Option ZoneText

/-- A date as written, with a clock time if it has one. -/
structure TimestampText where
  year : List Char
  month : List Char
  day : List Char
  clock : Option ClockText

namespace Shape

/-- The zone at the end of a clock time, after blanks; none when nothing is there. -/
def zone? (cs : List Char) : Option (Option ZoneText) :=
  match cs, dropBlanks cs with
  | [], _ => some none
  | _, ['Z'] => some (some .universal)
  | _, sign :: rest =>
    if sign == '-' || sign == '+' then
      match oneOrTwoDigits? rest with
      | some (hour, []) => some (some (.offset (sign == '-') hour []))
      | some (hour, ':' :: rest) =>
        match exactDigits? 2 rest with
        | some (minute, []) => some (some (.offset (sign == '-') hour minute))
        | _ => none
      | _ => none
    else none
  | _, [] => none

def clock? (cs : List Char) : Option ClockText := do
  let (hour, rest) ← oneOrTwoDigits? cs
  let rest ← sign? ':' rest
  let (minute, rest) ← exactDigits? 2 rest
  let rest ← sign? ':' rest
  let (second, rest) ← exactDigits? 2 rest
  let (fraction, rest) :=
    match rest with
    | '.' :: rest => (rest.takeWhile Char.isDigit, rest.dropWhile Char.isDigit)
    | rest => ([], rest)
  let zone ← zone? rest
  return ⟨hour, minute, second, fraction, zone⟩

/-- A date, alone or with a clock time behind a letter or blanks. -/
def timestamp? (cs : List Char) : Option TimestampText := do
  let (year, rest) ← exactDigits? 4 cs
  let rest ← sign? '-' rest
  let (month, rest) ← oneOrTwoDigits? rest
  let rest ← sign? '-' rest
  let (day, rest) ← oneOrTwoDigits? rest
  match rest with
  | [] => return ⟨year, month, day, none⟩
  | c :: after =>
    if c == 'T' || c == 't' then return ⟨year, month, day, some (← clock? after)⟩
    else if c == ' ' || c == '\t' then return ⟨year, month, day, some (← clock? (dropBlanks after))⟩
    else none

/-- A plain date has all its digits; only a date with a clock time may leave zeros out. -/
def isTimestamp (cs : List Char) : Bool :=
  match timestamp? cs with
  | some t => t.clock.isSome || (t.month.length == 2 && t.day.length == 2)
  | none => false

def boolWords : List String :=
  ["yes", "Yes", "YES", "no", "No", "NO", "true", "True", "TRUE", "false", "False", "FALSE",
    "on", "On", "ON", "off", "Off", "OFF"]

def nullWords : List String := ["~", "null", "Null", "NULL", ""]

/-- The text without a line feed at its end, which no shape minds. -/
def dropLineFeed (cs : List Char) : List Char :=
  if cs.getLast? == some '\n' then cs.dropLast else cs

end Shape

def ScalarKind.ofPlain (text : String) : ScalarKind :=
  let cs := Shape.dropLineFeed text.toList
  if Shape.isWord Shape.boolWords cs then bool
  else if Shape.isFloat cs then float
  else if Shape.isInt cs then int
  else if cs == ['<', '<'] then merge
  else if text.isEmpty || (!cs.isEmpty && Shape.isWord Shape.nullWords cs) then null
  else if Shape.isTimestamp cs then timestamp
  else if cs == ['='] then value
  else if cs == ['!'] || cs == ['&'] || cs == ['*'] then sign
  else string

end Deduce.Yaml
