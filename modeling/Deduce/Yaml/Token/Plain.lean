import Deduce.Yaml.Token.Basic

/-!
# Plain scalars

Text without quotes. It goes on over lines that are indented more than the collection it stands in;
a single line break between two lines becomes a space, and further ones are kept.
-/

namespace Deduce.Yaml

/-- Whether a character ends a run of plain text. In a flow collection its indicators do too. -/
def endsPlain (inFlow : Bool) (c next : Char) : Bool :=
  isGapOrEnd c ||
    (c == ':' && (isGapOrEnd next || (inFlow && ",[]\x7b\x7d".toList.contains next))) ||
    (inFlow && ",?[]\x7b\x7d".toList.contains c)

def plainRun (inFlow : Bool) : List Char → List Char
  | [] => []
  | c :: rest => if endsPlain inFlow c (rest.headD endMark) then [] else c :: plainRun inFlow rest

namespace Reader

/-- Line breaks and spaces before the next line with text; none when a separator comes first. -/
def plainBreaks : Nat → List Char → Reader (Option (List Char))
  | steps + 1, breaks => do
    let c ← peek
    if c == ' ' then
      forward 1
      plainBreaks steps breaks
    else if isBreak c then
      let breaks := breaks ++ (← lineBreak)
      if (← get).atSeparator then return none
      plainBreaks steps breaks
    else return some breaks
  | 0, _ => fail

/-- The gap between two runs of plain text: as it is within a line, folded between lines. The second
part says whether a line ended. -/
def plainGap : Reader (List Char × Bool) := do
  let spaces ← takeWhile isSpace
  if isBreak (← peek) then
    let first ← lineBreak
    if (← get).atSeparator then return ([], true)
    match ← plainBreaks ((← get).rest.length + 1) [] with
    | none => return ([], true)
    | some breaks =>
      if first != ['\n'] then return (first ++ breaks, true)
      else if breaks.isEmpty then return ([' '], true)
      else return (breaks, true)
  else return (spaces, false)

/-- Runs and gaps as they come. The second part says whether the text ended behind a line break. -/
def plainRuns (inFlow : Bool) (indent : Int) : Nat → List Char → List Char → Bool →
    Reader (List Char × Bool)
  | steps + 1, done, gap, lineEnded => do
    if (← peek) == '#' then return (done, lineEnded)
    let run := plainRun inFlow (← get).rest
    if run.isEmpty then return (done, lineEnded)
    forward run.length
    let done := done ++ gap ++ run
    let (gap, lineEnded) ← plainGap
    let here ← get
    if gap.isEmpty || here.peek == '#' || (!inFlow && here.column < indent) then
      return (done, lineEnded)
    plainRuns inFlow indent steps done gap lineEnded
  | 0, _, _, _ => fail

/-- A plain scalar; the second part says whether a key may begin behind it. -/
def plainScalar (inFlow : Bool) (indent : Int) : Reader (Token × Bool) := do
  let (text, lineEnded) ← plainRuns inFlow indent ((← get).rest.length + 1) [] [] false
  return (.scalar (String.ofList text) true, lineEnded)

end Reader

end Deduce.Yaml
