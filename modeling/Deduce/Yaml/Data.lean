import Deduce.Text.Utf8
import Deduce.Yaml.Calendar
import Deduce.Yaml.Number

/-!
# Data

What a document holds: scalars of several kinds and collections of them, with their text and with the
rule that says when two of them are the same key.
-/

namespace Deduce.Yaml

-- one instance of powers, whatever else is imported
attribute [local instance (high)] instPowNat

inductive Data where
  | null
  | bool (b : Bool)
  | int (i : Int)
  | float (x : Binary64)
  /-- No number: the sign for it, or what the node with a number stands for. -/
  | nan (node : Option Nat)
  | string (s : String)
  | date (d : Date)
  | moment (m : Moment)
  | bytes (b : List UInt8)
  | list (items : List Data)
  /-- A list of pairs. -/
  | pairList (items : List (Data × Data))
  | set (items : List Data)
  | map (entries : List (Data × Data))

namespace Data

def isWhole (i : Int) : Binary64 → Bool
  | .finite negative m e =>
    let (n, d) := Binary64.ratio m e
    n == i.natAbs * d && (i == 0 || (decide (i < 0) == negative))
  | _ => false

/-- What a double is that the node with a number stands for. -/
def ofDouble (node : Nat) : Binary64 → Data
  | .nan => nan (some node)
  | x => float x

def sameDouble : Binary64 → Binary64 → Bool
  | .finite _ 0 _, .finite _ 0 _ => true
  | x, y => x == y

/-- The number that a truth value or an integer is. -/
def whole? : Data → Option Int
  | bool b => some (if b then 1 else 0)
  | int i => some i
  | _ => none

/-- Whether two data are the same key. Numbers are compared as such, truth values among them; what is
no number is only the same as itself. -/
def sameKey (a b : Data) : Bool :=
  match a, b with
  | null, null => true
  | string s, string t => s == t
  | date d, date e => d == e
  | moment m, moment n => m.same n
  | bytes s, bytes t => s == t
  | float x, float y => sameDouble x y
  | nan m, nan n => m == n
  | float x, b => b.whole?.any fun i => isWhole i x
  | a, float y => a.whole?.any fun i => isWhole i y
  | a, b =>
    match a.whole?, b.whole? with
    | some i, some j => i == j
    | _, _ => false

/-- Puts a value under a key: a key that is there keeps its form and its place. -/
def putKey {α : Type} (key : Data) (value : α) : List (Data × α) → List (Data × α)
  | [] => [(key, value)]
  | (k, v) :: rest => if k.sameKey key then (k, value) :: rest else (k, v) :: putKey key value rest

/-- The remainder by which a whole number finds its place among the members of a set: by eight if there
are four members at most, else by the least power of two that is more than twice their number. -/
def placeInSet (count : Nat) (i : Int) : Int :=
  let places := if count < 5 then 8 else 2 ^ ((2 * count).log2 + 1)
  Int.emod (if i = -1 then -2 else i) places

/-- The members of a set as they are shown: whole numbers by their places, all else as it comes. -/
def setOrder (items : List Data) : List Data :=
  match items.mapM whole? with
  | none => items
  | some _ =>
    let place (d : Data) : Int := placeInSet items.length (d.whole?.getD 0)
    items.mergeSort fun a b => decide (place a ≤ place b)

def byteShown (quote : Char) (b : UInt8) : List Char :=
  let c := Char.ofNat b.toNat
  if c == quote || c == '\\' then ['\\', c]
  else if c == '\n' then ['\\', 'n']
  else if c == '\r' then ['\\', 'r']
  else if c == '\t' then ['\\', 't']
  else if 0x20 ≤ b.toNat && b.toNat < 0x7F then [c]
  else '\\' :: 'x' :: Text.byteDigits b

def bytesShown (b : List UInt8) : String :=
  let quote := Text.quoteFor (b.map fun byte => Char.ofNat byte.toNat)
  String.ofList ('b' :: quote :: b.flatMap (byteShown quote) ++ [quote])

mutual

def shown : Data → String
  | null => "None"
  | bool b => Datum.boolText b
  | int i => intText i
  | float x => x.text
  | nan _ => Binary64.nan.text
  | string s => Text.quoted s
  | date d =>
    "datetime.date(" ++ String.intercalate ", " ([d.year, d.month, d.day].map fun (n : Nat) => intText n) ++ ")"
  | moment m => m.shown
  | bytes b => bytesShown b
  | list items => "[" ++ String.intercalate ", " (shownItems items) ++ "]"
  | pairList items => "[" ++ String.intercalate ", " (shownPairs "(" ", " ")" items) ++ "]"
  | set items =>
    match shownItems items with
    | [] => "set()"
    | texts => "\x7b" ++ String.intercalate ", " texts ++ "\x7d"
  | map entries => "\x7b" ++ String.intercalate ", " (shownPairs "" ": " "" entries) ++ "\x7d"

def shownItems : List Data → List String
  | [] => []
  | item :: rest => item.shown :: shownItems rest

/-- Pairs between two texts, with one in the middle. -/
def shownPairs (start middle stop : String) : List (Data × Data) → List String
  | [] => []
  | (key, value) :: rest =>
    (start ++ key.shown ++ middle ++ value.shown ++ stop) :: shownPairs start middle stop rest

end

def text : Data → String
  | string s => s
  | date d => d.text
  | moment m => m.text
  | data => data.shown

mutual

/-- Whether all integers in some data have few enough digits to be shown. -/
def isShowable : Data → Bool
  | int i => (Nat.toDigits 10 i.natAbs).length ≤ maxIntDigits
  | list items | set items => showableItems items
  | pairList items | map items => showablePairs items
  | _ => true

def showableItems : List Data → Bool
  | [] => true
  | item :: rest => item.isShowable && showableItems rest

def showablePairs : List (Data × Data) → Bool
  | [] => true
  | (key, value) :: rest => key.isShowable && value.isShowable && showablePairs rest

end

end Data

end Deduce.Yaml
