import Deduce.Yaml.Token.Basic

/-!
# Block scalars

Indented lines behind a bar, which keeps them as they are, or behind a greater-than sign, which folds
them. The header may give the indentation, and a sign that says what becomes of the line breaks at the
end.
-/

namespace Deduce.Yaml

/-- What becomes of the line breaks at the end of a block scalar. -/
inductive Chomping where
  | clip
  | strip
  | keep
  deriving DecidableEq

def Chomping.ofSign? (c : Char) : Option Chomping :=
  if c == '+' then some keep else if c == '-' then some strip else none

namespace Reader

def chomping? : Reader (Option Chomping) := do
  match Chomping.ofSign? (← peek) with
  | some found => forward 1; return some found
  | none => return none

/-- One digit, which is not zero. -/
def indentation? : Reader (Option Nat) := do
  let c ← peek
  if c.isDigit then
    if c == '0' then fail
    forward 1
    return some (c.toNat - '0'.toNat)
  else return none

/-- Sign and digit in either order. -/
def blockHeader : Reader (Chomping × Option Nat) := do
  match ← chomping? with
  | some found => return (found, ← indentation?)
  | none =>
    let width ← indentation?
    match width with
    | none => return (.clip, none)
    | some _ => return ((← chomping?).getD .clip, width)

/-- Leading blank lines, and the widest run of spaces in front of the text. -/
def blockIndentation : Nat → List Char → Nat → Reader (List Char × Nat)
  | steps + 1, breaks, widest => do
    let c ← peek
    if c == ' ' then
      forward 1
      blockIndentation steps breaks (max widest (← get).column)
    else if isBreak c then blockIndentation steps (breaks ++ (← lineBreak)) widest
    else return (breaks, widest)
  | 0, _, _ => fail

def skipIndent (indent : Int) : Reader Unit := do
  let here ← get
  let room := (indent - here.column).toNat
  forward ((here.rest.take room).takeWhile isSpace).length

def blockBreaks (indent : Int) : Nat → List Char → Reader (List Char)
  | steps + 1, breaks => do
    skipIndent indent
    if isBreak (← peek) then blockBreaks indent steps (breaks ++ (← lineBreak)) else return breaks
  | 0, _ => fail

/-- Lines of text, with the last line's break and the blank lines behind it. A break between two
lines that both begin with text is folded. -/
def blockLines (folded : Bool) (indent : Int) : Nat → List Char → List Char → List Char →
    Reader (List Char × List Char × List Char)
  | steps + 1, done, lastBreak, breaks => do
    let here ← get
    if here.column = indent && !isEnd here.peek then
      let startsWithText := !isSpaceOrTab here.peek
      let line ← takeWhile (!isBreakOrEnd ·)
      let done := done ++ breaks ++ line
      let lastBreak ← lineBreak
      let breaks ← blockBreaks indent ((← get).rest.length + 1) []
      let there ← get
      if there.column = indent && !isEnd there.peek then
        let joint :=
          if folded && lastBreak == ['\n'] && startsWithText && !isSpaceOrTab there.peek then
            if breaks.isEmpty then [' '] else []
          else lastBreak
        blockLines folded indent steps (done ++ joint) lastBreak breaks
      else return (done, lastBreak, breaks)
    else return (done, lastBreak, breaks)
  | 0, _, _, _ => fail

def blockScalar (folded : Bool) (indent : Int) : Reader Token := do
  forward 1
  let (chomping, width) ← blockHeader
  expect isSpaceBreakOrEnd
  restOfLine
  let steps := (← get).rest.length + 1
  let least := max (indent + 1) 1
  let (indent, breaks) ←
    match width with
    | none => do
      let (breaks, widest) ← blockIndentation steps [] 0
      pure (max least (widest : Int), breaks)
    | some width => do
      let indent := least + width - 1
      pure (indent, ← blockBreaks indent steps [])
  let (text, lastBreak, breaks) ← blockLines folded indent steps [] [] breaks
  let tail :=
    match chomping with
    | .clip => lastBreak
    | .strip => []
    | .keep => lastBreak ++ breaks
  return .scalar (String.ofList (text ++ tail)) false

end Reader

end Deduce.Yaml
