import Deduce.Tree.Basic
import Deduce.Yaml.Scalar
import Deduce.Yaml.Cursor

/-!
# Describing a tree

A scalar is described by its quoted text. A collection is written in flow style: items in brackets,
pairs in braces, all on one line as far as the texts in it allow. A text is plain if it then reads
back as the same string, else in single quotes, and in double quotes where those cannot hold it. A
line break inside single quotes stands on a line of its own, so that such a description has several
lines.
-/

namespace Deduce.Flow

/-- The breaks that a flow text can hold unescaped; a carriage return is none of them. -/
def isBreak (c : Char) : Bool := c == '\n' || c == '\u0085' || c == '\u2028' || c == '\u2029'

/-- What is written as it is outside of double quotes. -/
def isOrdinary (c : Char) : Bool :=
  let n := c.toNat
  n == 0xA || (0x20 ≤ n && n ≤ 0x7E) || n == 0x85 ||
    (((0xA0 ≤ n && n ≤ 0xD7FF) || (0xE000 ≤ n && n ≤ 0xFFFD) || (0x10000 ≤ n && n < 0x10FFFF)) &&
      c != Text.byteOrderMark)

def hasNeighbours (test : Char → Char → Bool) : List Char → Bool
  | a :: b :: rest => test a b || hasNeighbours test (b :: rest)
  | _ => false

def isMultiline (cs : List Char) : Bool := cs.any isBreak

def isLeadingIndicator (c : Char) : Bool :=
  "#,[]\x7b\x7d&*!|>'\"%@?:".toList.contains c || c.toNat == 0x60

def isInnerIndicator (c : Char) : Bool := ",?[]\x7b\x7d:".toList.contains c

def hasIndicator (cs : List Char) : Bool :=
  match cs with
  | [] => false
  | first :: rest =>
    cs.take 3 == ['-', '-', '-'] || cs.take 3 == ['.', '.', '.'] || isLeadingIndicator first ||
      (first == '-' && Yaml.isGapOrEnd (rest.headD Yaml.endMark)) || rest.any isInnerIndicator ||
      hasNeighbours (fun a b => b == '#' && Yaml.isGapOrEnd a) cs

def hasOuterGap (cs : List Char) : Bool :=
  let isGap (c : Char) := c == ' ' || isBreak c
  cs.head?.any isGap || cs.getLast?.any isGap

def isPlain (cs : List Char) : Bool :=
  !cs.isEmpty && cs.all isOrdinary && !isMultiline cs && !hasOuterGap cs && !hasIndicator cs &&
    Yaml.ScalarKind.ofPlain (String.ofList cs) == .string

/-- Whether a text can stand in single quotes: every character as it is, and no space beside a
break. -/
def isSingleQuotable (cs : List Char) : Bool :=
  cs.all isOrdinary &&
    !hasNeighbours (fun a b => (isBreak a && b == ' ') || (a == ' ' && isBreak b)) cs

/-- The inside of single quotes. A run of breaks that begins with a line feed has one more in front,
and the line behind it is indented. -/
def singleQuotedBody (indent : Nat) (afterBreak : Bool) : List Char → List Char
  | [] => if afterBreak then List.replicate indent ' ' else []
  | c :: rest =>
    if isBreak c then
      (if !afterBreak && c == '\n' then ['\n', c] else [c]) ++ singleQuotedBody indent true rest
    else
      (if afterBreak then List.replicate indent ' ' else []) ++
        (if c == '\'' then ['\'', '\''] else [c]) ++ singleQuotedBody indent false rest

def escapeLetter? (c : Char) : Option Char :=
  match c with
  | '\x00' => some '0'
  | '\x07' => some 'a'
  | '\x08' => some 'b'
  | '\t' => some 't'
  | '\n' => some 'n'
  | '\x0b' => some 'v'
  | '\x0c' => some 'f'
  | '\r' => some 'r'
  | '\x1b' => some 'e'
  | '"' | '\\' => some c
  | '\u0085' => some 'N'
  | '\u2028' => some 'L'
  | '\u2029' => some 'P'
  | _ => none

def upperHex (width n : Nat) : List Char := (Text.hexadecimal width n).map Char.toUpper

def doubleQuotedChar (c : Char) : List Char :=
  let n := c.toNat
  match escapeLetter? c with
  | some letter => ['\\', letter]
  | none =>
    if (0x20 ≤ n && n ≤ 0x7E) ||
        (((0xA0 ≤ n && n ≤ 0xD7FF) || (0xE000 ≤ n && n ≤ 0xFFFD)) && c != Text.byteOrderMark) then [c]
    else if n ≤ 0xFF then '\\' :: 'x' :: upperHex 2 n
    else if n ≤ 0xFFFF then '\\' :: 'u' :: upperHex 4 n
    else '\\' :: 'U' :: upperHex 8 n

def scalarText (depth : Nat) (text : String) : String :=
  let cs := text.toList
  if isPlain cs then text
  else if isSingleQuotable cs then
    String.ofList ('\'' :: singleQuotedBody (2 * depth + 2) false cs ++ ['\''])
  else String.ofList ('"' :: cs.flatMap doubleQuotedChar ++ ['"'])

/-- The longest text, less one, that is written as a key in front of its colon without a mark. -/
def keyLimit : Nat := 123

def isSimpleKey (key : String) : Bool :=
  !key.isEmpty && key.length < keyLimit && !isMultiline key.toList

/-- A pair of a mapping; a key that is not simple is marked. -/
def pairText (depth : Nat) (key value : String) : String :=
  let written := scalarText depth key
  if isSimpleKey key then written ++ ": " ++ value else "? " ++ written ++ " : " ++ value

mutual

def plainText (depth : Nat) : Plain → String
  | .text s => scalarText depth s
  | .list items => "[" ++ String.intercalate ", " (itemTexts (depth + 1) items) ++ "]"
  | .entries pairs =>
    "\x7b" ++ String.intercalate ", " (pairTexts (depth + 1) pairs) ++ "\x7d"

def itemTexts (depth : Nat) : List Plain → List String
  | [] => []
  | item :: rest => plainText depth item :: itemTexts depth rest

def pairTexts (depth : Nat) : List (String × Plain) → List String
  | [] => []
  | (key, value) :: rest => pairText depth key (plainText depth value) :: pairTexts depth rest

end

end Deduce.Flow

namespace Deduce.Tree

def flowText (tree : Tree) : String :=
  match tree.plain with
  | .text s => Text.quoted s
  | collection => Flow.plainText 0 collection

end Deduce.Tree
