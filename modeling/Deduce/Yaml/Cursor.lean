import Deduce.Error
import Deduce.Text.Utf8

/-!
# A place in a text

What is still to be read, with the line and column reached. Behind the last character stands the end
mark, which no admissible text holds. Readers move a cursor forward or find a fault.
-/

namespace Deduce.Yaml

/-- Why a document cannot be read: it breaks the grammar, or an escape in it stands for nothing. -/
inductive Fault where
  | malformed
  | defect (d : Defect)
  deriving DecidableEq

def endMark : Char := '\x00'

def isEnd (c : Char) : Bool := c == endMark

/-- Line feed, carriage return, next line, line separator and paragraph separator. -/
def isBreak (c : Char) : Bool :=
  c == '\n' || c == '\r' || c == '\u0085' || c == '\u2028' || c == '\u2029'

def isBreakOrEnd (c : Char) : Bool := isBreak c || isEnd c

def isSpace (c : Char) : Bool := c == ' '

def isSpaceOrTab (c : Char) : Bool := c == ' ' || c == '\t'

/-- What may follow a directive's or a tag's last character. -/
def isSpaceBreakOrEnd (c : Char) : Bool := isSpace c || isBreakOrEnd c

/-- What may follow an indicator. -/
def isGapOrEnd (c : Char) : Bool := isSpaceOrTab c || isBreakOrEnd c

def isAdmissible (c : Char) : Bool :=
  let n := c.toNat
  n == 0x9 || n == 0xA || n == 0xD || (0x20 ≤ n && n ≤ 0x7E) || n == 0x85 ||
    (0xA0 ≤ n && n ≤ 0xD7FF) || (0xE000 ≤ n && n ≤ 0xFFFD) || (0x10000 ≤ n && n ≤ 0x10FFFF)

structure Cursor where
  rest : List Char
  index : Nat := 0
  line : Nat := 0
  column : Nat := 0

namespace Cursor

def peek (c : Cursor) : Char := c.rest.headD endMark

def peekAt (c : Cursor) (n : Nat) : Char := (c.rest.drop n).headD endMark

/-- One character further; the two characters of a carriage return and line feed end one line. -/
def advance (c : Cursor) : Cursor :=
  match c.rest with
  | [] => c
  | x :: rest =>
    if isBreak x && !(x == '\r' && rest.head? == some '\n') then
      ⟨rest, c.index + 1, c.line + 1, 0⟩
    else ⟨rest, c.index + 1, c.line, if x == Text.byteOrderMark then c.column else c.column + 1⟩

def advanceBy : Nat → Cursor → Cursor
  | 0, c => c
  | n + 1, c => advanceBy n c.advance

/-- Whether a line of three hyphens or three points begins here. -/
def atSeparator (c : Cursor) : Bool :=
  let start := c.rest.take 3
  (start == ['-', '-', '-'] || start == ['.', '.', '.']) && isGapOrEnd (c.peekAt 3)

end Cursor

/-- Where reading a text came to a stop, and why. -/
structure Stop where
  fault : Fault
  index : Nat

abbrev Reader := StateT Cursor (Except Stop)

namespace Reader

def stop {α : Type} (fault : Fault) : Reader α := do throw ⟨fault, (← get).index⟩

def fail {α : Type} : Reader α := stop .malformed

def peek : Reader Char := return (← get).peek

def peekAt (n : Nat) : Reader Char := return (← get).peekAt n

def forward (n : Nat) : Reader Unit := modify (Cursor.advanceBy n)

def takeWhile (p : Char → Bool) : Reader (List Char) := do
  let taken := (← get).rest.takeWhile p
  forward taken.length
  return taken

def skipWhile (p : Char → Bool) : Reader Unit := do
  let _ ← takeWhile p

/-- The next character must have a property; it is not passed. -/
def expect (p : Char → Bool) : Reader Unit := do
  unless p (← peek) do fail

/-- Passes a line break. A separator of lines or paragraphs is kept, every other break is a line
feed; without a break nothing is read. -/
def lineBreak : Reader (List Char) := do
  match (← get).rest with
  | '\r' :: '\n' :: _ => forward 2; return ['\n']
  | c :: _ =>
    if c == '\n' || c == '\r' || c == '\u0085' then
      forward 1
      return ['\n']
    else if c == '\u2028' || c == '\u2029' then
      forward 1
      return [c]
    else return []
  | [] => return []

/-- Blanks and a comment up to the end of the line, and the line's break. -/
def restOfLine : Reader Unit := do
  skipWhile isSpace
  if (← peek) == '#' then skipWhile (!isBreakOrEnd ·)
  expect isBreakOrEnd
  let _ ← lineBreak

end Reader

end Deduce.Yaml
