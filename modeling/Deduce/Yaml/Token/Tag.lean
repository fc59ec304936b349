import Deduce.Text.Utf8
import Deduce.Yaml.Token.Basic

/-!
# Directives, anchors and tags

The tokens that begin with a percent sign, an ampersand, an asterisk or an exclamation mark.
-/

namespace Deduce.Yaml

def isHexDigit (c : Char) : Bool :=
  c.isDigit || ('a' ≤ c && c ≤ 'f') || ('A' ≤ c && c ≤ 'F')

def hexValue (digits : List Char) : Nat :=
  digits.foldl (fun n c =>
    let d := if c.isDigit then c.toNat - '0'.toNat else c.toLower.toNat - 'a'.toNat + 10
    16 * n + d) 0

/-- The characters of a tag's suffix; the percent sign begins an escaped byte. -/
def isTagChar (c : Char) : Bool :=
  isWordChar c || ";/?:@&=+$,_.!~*'()[]%".toList.contains c

namespace Reader

def hexDigits (n : Nat) : Reader (List Char) := do
  let digits := (← get).rest.take n
  unless digits.length == n && digits.all isHexDigit do fail
  forward n
  return digits

/-- A run of escaped bytes, which have to be UTF-8. -/
def escapedBytes : Nat → List UInt8 → Reader (List Char)
  | steps + 1, bytes => do
    if (← peek) == '%' then
      forward 1
      escapedBytes steps (UInt8.ofNat (hexValue (← hexDigits 2)) :: bytes)
    else
      match Text.decode bytes.reverse with
      | .ok chars => return chars
      | .error _ => fail
  | 0, _ => fail

/-- Suffix characters and escaped bytes as they come. -/
def tagChars : Nat → List Char → Reader (List Char)
  | steps + 1, done => do
    let run ← takeWhile fun c => isTagChar c && c != '%'
    if (← peek) == '%' then
      let remaining := (← get).rest.length
      tagChars steps (done ++ run ++ (← escapedBytes (remaining + 1) []))
    else return done ++ run
  | 0, _ => fail

def tagSuffix : Reader (List Char) := do
  unless isTagChar (← peek) do fail
  tagChars ((← get).rest.length + 1) []

/-- A handle: an exclamation mark, or two with a word between them. -/
def tagHandle : Reader (List Char) := do
  expect (· == '!')
  forward 1
  if (← peek) == ' ' then return ['!']
  let name ← takeWhile isWordChar
  expect (· == '!')
  forward 1
  return '!' :: name ++ ['!']

def decimalNumber : Reader Nat := do
  let digits ← takeWhile Char.isDigit
  if digits.isEmpty then fail
  if maxIntDigits < digits.length then stop (.defect (.tooManyDigits (some digits.length)))
  return Nat.ofDigitChars 10 digits 0

/-- A directive, of which only the version and tag directives mean anything. -/
def directive : Reader Token := do
  forward 1
  let name := String.ofList (← word)
  expect isSpaceBreakOrEnd
  let found ←
    if name == "YAML" then do
      skipWhile isSpace
      let major ← decimalNumber
      expect (· == '.')
      forward 1
      let minor ← decimalNumber
      expect isSpaceBreakOrEnd
      pure (Directive.version major minor)
    else if name == "TAG" then do
      skipWhile isSpace
      let handle ← tagHandle
      expect isSpace
      skipWhile isSpace
      let stem ← tagSuffix
      expect isSpaceBreakOrEnd
      pure (Directive.tag (String.ofList handle) (String.ofList stem))
    else do
      skipWhile (!isBreakOrEnd ·)
      pure (Directive.other name)
  restOfLine
  return .directive found

def isAfterAnchor (c : Char) : Bool := isGapOrEnd c || "?:,]\x7d%@".toList.contains c || c.toNat == 0x60

def anchorName : Reader String := do
  forward 1
  let name ← word
  expect isAfterAnchor
  return String.ofList name

/-- Whether a tag's name holds a second exclamation mark before the next gap. -/
def hasHandle (rest : List Char) : Bool :=
  (rest.find? fun c => c == '!' || isSpaceBreakOrEnd c) == some '!'

/-- A tag: verbatim in angle brackets, a lone exclamation mark, or a suffix with or without a named
handle. -/
def tag : Reader Token := do
  let next ← peekAt 1
  let found ←
    if next == '<' then do
      forward 2
      let suffix ← tagSuffix
      expect (· == '>')
      forward 1
      pure (Token.tag none (String.ofList suffix))
    else if isGapOrEnd next then do
      forward 1
      pure (Token.tag none "!")
    else do
      let handle ←
        if hasHandle ((← get).rest.drop 1) then tagHandle
        else do
          forward 1
          pure ['!']
      pure (Token.tag (some (String.ofList handle)) (String.ofList (← tagSuffix)))
  expect isSpaceBreakOrEnd
  return found

end Reader

end Deduce.Yaml
