import Deduce.Yaml.Token.Block
import Deduce.Yaml.Token.Plain
import Deduce.Yaml.Token.Quoted

/-!
# The tokens of a document stream

A scalar, a collection or an alias may turn out to be a mapping key only when a colon follows it, so
that a place where a key may begin stays open for a while: the tokens of the key are put in there
afterwards. A fault takes back the tokens from the first open place on, because nobody can have
relied on them yet. Thus a document in front of a fault can still be read.
-/

namespace Deduce.Yaml

structure OpenKey where
  /-- The depth of flow collections around it. -/
  depth : Nat
  /-- How many tokens stand before it. -/
  position : Nat
  /-- In a block collection's own column nothing but a key may begin. -/
  required : Bool
  index : Nat
  line : Nat
  column : Nat

/-- The tokens found so far, and what decides how the text goes on. -/
structure Scan where
  cursor : Cursor
  tokens : Array Token := #[]
  /-- How many flow collections are open. -/
  depth : Nat := 0
  /-- The column of the block collection in hand, -1 outside of all. -/
  indent : Int := -1
  /-- The columns of the collections around it. -/
  outer : List Int := []
  keyAllowed : Bool := true
  openKeys : List OpenKey := []

namespace Scan

def inFlow (s : Scan) : Bool := s.depth != 0

def push (s : Scan) (token : Token) : Scan := { s with tokens := s.tokens.push token }

def fail (s : Scan) : Except Stop Scan := .error ⟨.malformed, s.cursor.index⟩

/-- How many tokens are settled: those before the first place where a key may still begin. -/
def settled (s : Scan) : Nat :=
  s.openKeys.foldl (fun n k => min n k.position) s.tokens.size

/-- Whether a key that begins at the place can no longer be completed: it has to be on one line and
within 1024 characters. -/
def isStale (s : Scan) (k : OpenKey) : Bool :=
  k.line != s.cursor.line || k.index + 1024 < s.cursor.index

/-- Closes the places that fulfil a test; a place where a key is required must not be lost. -/
def closeKeys (s : Scan) (test : OpenKey → Bool) : Except Stop Scan :=
  if s.openKeys.any fun k => test k && k.required then s.fail
  else .ok { s with openKeys := s.openKeys.filter fun k => !test k }

def closeStale (s : Scan) : Except Stop Scan := s.closeKeys s.isStale

def closeHere (s : Scan) : Except Stop Scan := s.closeKeys (·.depth == s.depth)

/-- Opens a place for a key here, where one is allowed. -/
def openHere (s : Scan) : Except Stop Scan := do
  if s.keyAllowed then
    let required := !s.inFlow && s.indent == s.cursor.column
    let s ← s.closeHere
    let place : OpenKey :=
      ⟨s.depth, s.tokens.size, required, s.cursor.index, s.cursor.line, s.cursor.column⟩
    return { s with openKeys := s.openKeys ++ [place] }
  else return s

/-- The ends of all block collections that are indented more than a column. -/
def unwindFrom (column : Int) : List Int → Scan → Scan
  | indent :: outer, s =>
    if column < s.indent then
      unwindFrom column outer { s.push .blockEnd with indent := indent, outer := outer }
    else s
  | [], s => s

def unwind (s : Scan) (column : Int) : Scan :=
  if s.inFlow then s else unwindFrom column s.outer s

/-- Begins a block collection at a column, unless one has begun there or further right. -/
def beginBlock (s : Scan) (column : Int) (start : Token) (position : Nat) : Scan :=
  if !s.inFlow && s.indent < column then
    { s with
      outer := s.indent :: s.outer
      indent := column
      tokens := s.tokens.insertIdxIfInBounds position start }
  else s

def take (s : Scan) (n : Nat) (token : Token) : Scan :=
  { s.push token with cursor := s.cursor.advanceBy n }

def readToken (s : Scan) (reader : Reader Token) : Except Stop Scan := do
  let (token, cursor) ← reader.run s.cursor
  return { s.push token with cursor := cursor }

/-- Spaces, comments and line breaks in front of the next token. After a line break a key may begin
again. -/
def skipGaps : Nat → Scan → Scan
  | 0, s => s
  | steps + 1, s =>
    let spaces := s.cursor.rest.takeWhile isSpace
    let here := s.cursor.advanceBy spaces.length
    let comment := if here.peek == '#' then here.rest.takeWhile (!isBreakOrEnd ·) else []
    let here := here.advanceBy comment.length
    if isBreak here.peek then
      let width := if here.peek == '\r' && here.peekAt 1 == '\n' then 2 else 1
      skipGaps steps
        { s with cursor := here.advanceBy width, keyAllowed := s.keyAllowed || !s.inFlow }
    else { s with cursor := here }

/-- The byte order mark at the very start is passed over. -/
def skipMark (s : Scan) : Scan :=
  if s.cursor.index == 0 && s.cursor.peek == Text.byteOrderMark then
    { s with cursor := s.cursor.advance }
  else s

def streamEnd (s : Scan) : Except Stop Scan := do
  let s ← (s.unwind (-1)).closeHere
  return { s.push .streamEnd with keyAllowed := false, openKeys := [] }

/-- Ends all block collections in front of a directive or a separator of documents. -/
def leaveBlocks (s : Scan) : Except Stop Scan := do
  let s ← (s.unwind (-1)).closeHere
  return { s with keyAllowed := false }

def flowStart (s : Scan) (token : Token) : Except Stop Scan := do
  let s ← s.openHere
  return ({ s with depth := s.depth + 1, keyAllowed := true }).take 1 token

def flowEnd (s : Scan) (token : Token) : Except Stop Scan := do
  let s ← s.closeHere
  return ({ s with depth := s.depth - 1, keyAllowed := false }).take 1 token

def flowEntry (s : Scan) : Except Stop Scan := do
  let s ← s.closeHere
  return ({ s with keyAllowed := true }).take 1 .flowEntry

/-- In block collections an entry or a key begins only where it is allowed. -/
def checkStart (s : Scan) : Except Stop Scan :=
  if !s.inFlow && !s.keyAllowed then s.fail else .ok s

def blockEntry (s : Scan) : Except Stop Scan := do
  let s ← s.checkStart
  let s := s.beginBlock s.cursor.column .blockSequenceStart s.tokens.size
  let s ← { s with keyAllowed := true }.closeHere
  return s.take 1 .blockEntry

def explicitKey (s : Scan) : Except Stop Scan := do
  let s ← s.checkStart
  let s := s.beginBlock s.cursor.column .blockMappingStart s.tokens.size
  let s ← { s with keyAllowed := !s.inFlow }.closeHere
  return s.take 1 .key

/-- A colon completes the key that is open at this depth, or stands for one that is empty or marked. -/
def mappingValue (s : Scan) : Except Stop Scan := do
  match s.openKeys.find? (·.depth == s.depth) with
  | some place =>
    let s := { s with
      openKeys := s.openKeys.filter (·.depth != s.depth)
      tokens := s.tokens.insertIdxIfInBounds place.position .key
      keyAllowed := false }
    return (s.beginBlock place.column .blockMappingStart place.position).take 1 .value
  | none =>
    let s ← s.checkStart
    let s := s.beginBlock s.cursor.column .blockMappingStart s.tokens.size
    let s ← { s with keyAllowed := !s.inFlow }.closeHere
    return s.take 1 .value

/-- A token that may be a key, after which none may begin at once. -/
def keyToken (s : Scan) (reader : Reader Token) : Except Stop Scan := do
  let s ← s.openHere
  { s with keyAllowed := false }.readToken reader

def blockScalar (s : Scan) (folded : Bool) : Except Stop Scan := do
  let s ← { s with keyAllowed := true }.closeHere
  s.readToken (Reader.blockScalar folded s.indent)

def plainScalar (s : Scan) : Except Stop Scan := do
  let s ← s.openHere
  let ((token, keyAllowed), cursor) ← (Reader.plainScalar s.inFlow (s.indent + 1)).run s.cursor
  return { s.push token with cursor := cursor, keyAllowed := keyAllowed }

def atPlain (s : Scan) : Bool :=
  let c := s.cursor.peek
  let next := s.cursor.peekAt 1
  !(isGapOrEnd c || "-?:,[]\x7b\x7d#&*!|>'\"%@".toList.contains c || c.toNat == 0x60) ||
    (!isGapOrEnd next && (c == '-' || (!s.inFlow && (c == '?' || c == ':'))))

/-- Reads the token at the cursor, in front of which there is no gap. -/
def dispatch (s : Scan) : Except Stop Scan := do
  let c := s.cursor.peek
  let beforeGap := isGapOrEnd (s.cursor.peekAt 1)
  let lineStart := s.cursor.column == 0
  if isEnd c then s.streamEnd
  else if c == '%' && lineStart then (← s.leaveBlocks).readToken Reader.directive
  else if c == '-' && lineStart && s.cursor.atSeparator then
    return (← s.leaveBlocks).take 3 .documentStart
  else if c == '.' && lineStart && s.cursor.atSeparator then
    return (← s.leaveBlocks).take 3 .documentEnd
  else if c == '[' then s.flowStart .flowSequenceStart
  else if c == '\x7b' then s.flowStart .flowMappingStart
  else if c == ']' then s.flowEnd .flowSequenceEnd
  else if c == '\x7d' then s.flowEnd .flowMappingEnd
  else if c == ',' then s.flowEntry
  else if c == '-' && beforeGap then s.blockEntry
  else if c == '?' && (s.inFlow || beforeGap) then s.explicitKey
  else if c == ':' && (s.inFlow || beforeGap) then s.mappingValue
  else if c == '*' then s.keyToken (Token.alias <$> Reader.anchorName)
  else if c == '&' then s.keyToken (Token.anchor <$> Reader.anchorName)
  else if c == '!' then s.keyToken Reader.tag
  else if c == '|' && !s.inFlow then s.blockScalar false
  else if c == '>' && !s.inFlow then s.blockScalar true
  else if c == '\'' then s.keyToken (Reader.quotedScalar false)
  else if c == '"' then s.keyToken (Reader.quotedScalar true)
  else if s.atPlain then s.plainScalar
  else s.fail

def next (s : Scan) : Except Stop Scan := do
  let s := s.skipMark.skipGaps (s.cursor.rest.length + 1)
  let s ← s.closeStale
  let s ← (s.unwind s.cursor.column).dispatch
  s.closeStale

def isDone (s : Scan) : Bool := s.tokens.back? == some .streamEnd

end Scan

/-- The tokens that can be relied on, and the fault behind them if there is one. -/
structure TokenStream where
  tokens : List Token
  fault : Fault := .malformed

/-- The end of the part of a text that can be read, and the fault that comes out where it is reached. -/
structure Horizon where
  index : Nat
  fault : Fault

/-- Whether a place is so near that the text at the horizon is asked for. -/
def Horizon.isAt (h : Horizon) (index : Nat) : Bool := h.index ≤ index + 1

namespace TokenStream

def broken (s : Scan) (fault : Fault) : TokenStream := ⟨s.tokens.toList.take s.settled, fault⟩

/-- Every step but the last reads a character, so that their number bounds the number of steps. -/
def scanFrom (horizon : Option Horizon) : Nat → Scan → TokenStream
  | 0, s => broken s .malformed
  | steps + 1, s =>
    let index :=
      match s.next with
      | .error stop => stop.index
      | .ok s => s.cursor.index
    match horizon.filter (·.isAt index), s.next with
    | some h, _ => broken s h.fault
    | none, .error stop => broken s stop.fault
    | none, .ok s => if s.isDone then ⟨s.tokens.toList, .malformed⟩ else scanFrom horizon steps s

/-- The tokens of characters as far as the horizon. -/
def upTo (horizon : Option Horizon) (chars : List Char) : TokenStream :=
  let start : Scan := { cursor := { rest := chars } }
  if horizon.any (·.isAt 0) then broken start ((horizon.map Horizon.fault).getD .malformed)
  else scanFrom horizon (chars.length + 2) start

def ofChars (chars : List Char) : TokenStream :=
  upTo (if chars.all isAdmissible then none else some ⟨0, .malformed⟩) chars

/-- How many characters of a file are read before the first token, and how many at a time then. -/
def firstPiece : Nat := 8192

def piece : Nat := 4096

/-- The start of the piece of a file to which a character belongs. -/
def pieceStart (index : Nat) : Nat :=
  if index < firstPiece then 0 else firstPiece + (index - firstPiece) / piece * piece

/-- The tokens of a file, which is read piece by piece: its characters up to those that cannot be
read, and the fault to be found there. Among a fault and a character that no document may hold the one
in the earlier piece counts. -/
def ofFile (chars : List Char) (fault : Option Fault) : TokenStream :=
  let admissible := chars.takeWhile isAdmissible
  let unreadable := fault.map (Horizon.mk (pieceStart chars.length))
  let forbidden : Option Horizon :=
    if admissible.length < chars.length then some ⟨pieceStart admissible.length, .malformed⟩ else none
  let horizon :=
    match unreadable, forbidden with
    | some u, some f => some (if f.index < u.index then f else u)
    | u, f => u <|> f
  upTo horizon (chars.take ((horizon.map Horizon.index).getD chars.length))

end TokenStream

end Deduce.Yaml
