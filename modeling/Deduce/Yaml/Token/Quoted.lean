import Deduce.Yaml.Token.Tag

/-!
# Quoted scalars

Text in single quotes, where a quote is written twice, or in double quotes with escapes. A line break
is folded as in plain text, and the blanks around it vanish.
-/

namespace Deduce.Yaml

def simpleEscape? (c : Char) : Option Char :=
  match c with
  | '0' => some '\x00'
  | 'a' => some '\x07'
  | 'b' => some '\x08'
  | 't' | '\t' => some '\t'
  | 'n' => some '\n'
  | 'v' => some '\x0b'
  | 'f' => some '\x0c'
  | 'r' => some '\r'
  | 'e' => some '\x1b'
  | ' ' | '"' | '\\' | '/' => some c
  | 'N' => some '\u0085'
  | '_' => some '\u00a0'
  | 'L' => some '\u2028'
  | 'P' => some '\u2029'
  | _ => none

/-- How many hexadecimal digits follow the letter of an escape. -/
def escapeDigits? (c : Char) : Option Nat :=
  match c with
  | 'x' => some 2
  | 'u' => some 4
  | 'U' => some 8
  | _ => none

def isHighSurrogate (code : Nat) : Bool := 0xD800 ≤ code && code ≤ 0xDBFF

def isLowSurrogate (code : Nat) : Bool := 0xDC00 ≤ code && code ≤ 0xDFFF

def pairedCode (high low : Nat) : Nat := 0x10000 + (high - 0xD800) * 0x400 + (low - 0xDC00)

/-- The character of an escaped code point; a surrogate without its partner is none. -/
def charOfCode (code : Nat) : Except Fault Char :=
  if 0x7FFFFFFF < code then .error (.defect .codePointTooLarge)
  else if 0x10FFFF < code then .error (.defect .noSuchCharacter)
  else if isHighSurrogate code || isLowSurrogate code then .ok '\uFFFD'
  else .ok (Char.ofNat code)

namespace Reader

/-- Blank lines inside quotes, and the blanks in front of the next text. -/
def quotedBreaks : Nat → List Char → Reader (List Char)
  | steps + 1, breaks => do
    if (← get).atSeparator then fail
    skipWhile isSpaceOrTab
    if isBreak (← peek) then quotedBreaks steps (breaks ++ (← lineBreak)) else return breaks
  | 0, _ => fail

def codePoint (n : Nat) : Reader Nat := return hexValue (← hexDigits n)

/-- The low surrogate that is escaped next, if one is. -/
def lowSurrogate? : Reader (Option Nat) := do
  match (← get).rest with
  | '\\' :: 'u' :: rest =>
    let low := hexValue (rest.take 4)
    if (rest.take 4).length == 4 && (rest.take 4).all isHexDigit && isLowSurrogate low then
      forward 6
      return some low
    else return none
  | _ => return none

/-- The character of an escaped code point in `n` digits; two escapes may stand for one. -/
def escapedChar (n : Nat) : Reader Char := do
  let code ← codePoint n
  let low ← if isHighSurrogate code then lowSurrogate? else pure none
  match charOfCode ((low.map (pairedCode code)).getD code) with
  | .ok c => return c
  | .error fault => stop fault

/-- The character or the escaped line break behind a backslash. -/
def escape : Reader (List Char) := do
  let c ← peek
  match simpleEscape? c, escapeDigits? c with
  | some char, _ => forward 1; return [char]
  | none, some n =>
    forward 1
    return [← escapedChar n]
  | none, none =>
    unless isBreak c do fail
    let _ ← lineBreak
    quotedBreaks ((← get).rest.length + 1) []

def quotedRun (double : Bool) : Nat → List Char → Reader (List Char)
  | steps + 1, done => do
    let run ← takeWhile fun c => !(c == '\'' || c == '"' || c == '\\' || isGapOrEnd c)
    let done := done ++ run
    let c ← peek
    if !double && c == '\'' && (← peekAt 1) == '\'' then
      forward 2
      quotedRun double steps (done ++ ['\''])
    else if (double && c == '\'') || (!double && (c == '"' || c == '\\')) then
      forward 1
      quotedRun double steps (done ++ [c])
    else if double && c == '\\' then
      forward 1
      quotedRun double steps (done ++ (← escape))
    else return done
  | 0, _ => fail

/-- Blanks inside quotes: as they are within a line, folded at its end. -/
def quotedGap : Reader (List Char) := do
  let blanks ← takeWhile isSpaceOrTab
  let c ← peek
  if isEnd c then fail
  if isBreak c then
    let first ← lineBreak
    let breaks ← quotedBreaks ((← get).rest.length + 1) []
    if first != ['\n'] then return first ++ breaks
    else if breaks.isEmpty then return [' ']
    else return breaks
  else return blanks

def quotedRuns (double : Bool) (quote : Char) : Nat → List Char → Reader (List Char)
  | steps + 1, done => do
    if (← peek) == quote then
      forward 1
      return done
    let gap ← quotedGap
    let remaining := (← get).rest.length
    quotedRuns double quote steps (done ++ gap ++ (← quotedRun double (remaining + 1) []))
  | 0, _ => fail

def quotedScalar (double : Bool) : Reader Token := do
  let quote ← peek
  forward 1
  let steps := (← get).rest.length + 1
  let text ← quotedRuns double quote steps (← quotedRun double steps [])
  return .scalar (String.ofList text) false

end Reader

end Deduce.Yaml
