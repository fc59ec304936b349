import Deduce.Error

/-!
# Log levels

Names of levels with their numbers, and the layout of a record.
-/

namespace Deduce.LogLevel

/-- The upper case of a letter in a level's name. The dotless i and the long s become plain capitals. -/
def upper (c : Char) : Char :=
  if c == '\u0131' then 'I' else if c == '\u017f' then 'S' else c.toUpper

/-- The layout that goes by the name `BASIC_FORMAT`. -/
def basicFormat : String := "%(levelname)s:%(name)s:%(message)s"

/-- The number of a level; a name that means nothing stands for information, and the name of a layout
is refused. -/
def number (name : String) : Except Defect Nat :=
  match String.ofList (name.toList.map upper) with
  | "CRITICAL" | "FATAL" => .ok 50
  | "ERROR" => .ok 40
  | "WARNING" | "WARN" => .ok 30
  | "INFO" => .ok 20
  | "DEBUG" => .ok 10
  | "NOTSET" => .ok 0
  | "BASIC_FORMAT" => .error (.layoutIsNoLevel basicFormat)
  | _ => .ok 20

structure Record where
  level : String
  logger : String
  message : String

def Record.part? (record : Record) : String → Option String
  | "levelname" => some record.level
  | "name" => some record.logger
  | "message" => some record.message
  | _ => none

/-- A place in a format for a part of the record. -/
structure Slot where
  name : String
  /-- Whether the part stands at the left of its room. -/
  left : Bool
  width : Nat
  /-- How many characters of the part are shown at most. -/
  most : Option Nat

/-- A slot at the start of a format, and what follows it: `%(name)s`, with signs, a width and a greatest
length behind the bracket. -/
def slot? : List Char → Option (Slot × List Char)
  | '%' :: '(' :: rest => do
    let name := rest.takeWhile (· != ')')
    let rest := (rest.dropWhile (· != ')')).drop 1
    let isSign (c : Char) : Bool := "#0+ -".toList.contains c
    let signs := rest.takeWhile isSign
    let rest := rest.dropWhile isSign
    let width := Nat.ofDigitChars 10 (rest.takeWhile Char.isDigit) 0
    let (most, rest) :=
      match rest.dropWhile Char.isDigit with
      | '.' :: rest =>
        (some (Nat.ofDigitChars 10 (rest.takeWhile Char.isDigit) 0), rest.dropWhile Char.isDigit)
      | rest => (none, rest)
    match rest with
    | 's' :: rest => some (⟨String.ofList name, signs.contains '-', width, most⟩, rest)
    | _ => none
  | _ => none

def Slot.fit (slot : Slot) (part : String) : List Char :=
  let shown := (slot.most.map part.toList.take).getD part.toList
  let room := List.replicate (slot.width - shown.length) ' '
  if slot.left then shown ++ room else room ++ shown

/-- The text of a place at the start of a format, and what follows it. A doubled percent sign is one. -/
def place? (record : Record) (cs : List Char) : Option (List Char × List Char) :=
  match cs with
  | '%' :: '%' :: rest => some (['%'], rest)
  | _ => do
    let (slot, rest) ← slot? cs
    return (slot.fit (← record.part? slot.name), rest)

def namesPart (record : Record) : List Char → Bool
  | [] => false
  | c :: rest =>
    ((slot? (c :: rest)).bind fun (slot, _) => record.part? slot.name).isSome || namesPart record rest

/-- A format with its places filled in; every step takes a character at least. -/
def fill (record : Record) : Nat → List Char → List Char
  | 0, cs => cs
  | _, [] => []
  | steps + 1, c :: rest =>
    match place? record (c :: rest) with
    | some (text, after) => text ++ fill record steps after
    | none => c :: fill record steps rest

/-- The line of a record in a format, which has to name a part; without a text for the format it is
the message alone. -/
def Record.line (record : Record) (format : String) : Except Defect String :=
  if format.isEmpty then .ok record.message
  else if namesPart record format.toList then
    .ok (String.ofList (fill record (format.length + 1) format.toList))
  else .error (.formatWithoutPart format)

end Deduce.LogLevel
