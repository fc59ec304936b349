import Deduce.Entries
import Deduce.Text.Quoted

/-!
# Trees of a rule document

Scalars as raw text, sequences and mappings. Typing a scalar is not the tree's business: only the
fact schema knows the type of a literal.
-/

namespace Deduce

inductive Tree where
  | scalar (text : String)
  | sequence (items : List Tree)
  | mapping (pairs : List (Tree × Tree))

/-- A tree whose mappings have texts as keys, each once. -/
inductive Plain where
  | text (s : String)
  | list (items : List Plain)
  | entries (pairs : List (String × Plain))

namespace Plain

mutual

/-- A plain tree on one line: texts in quotes, lists in brackets, entries in braces. -/
def shown : Plain → String
  | text s => Text.quoted s
  | list items => "[" ++ String.intercalate ", " (shownItems items) ++ "]"
  | entries pairs => "\x7b" ++ String.intercalate ", " (shownPairs pairs) ++ "\x7d"

def shownItems : List Plain → List String
  | [] => []
  | item :: rest => item.shown :: shownItems rest

def shownPairs : List (String × Plain) → List String
  | [] => []
  | (key, value) :: rest => (Text.quoted key ++ ": " ++ value.shown) :: shownPairs rest

end

/-- The text of a key: a scalar's own text, and a collection as it is shown. -/
def keyText : Plain → String
  | text s => s
  | collection => collection.shown

end Plain

namespace Tree

def items? : Tree → Option (List Tree)
  | sequence items => some items
  | _ => none

def pairs? : Tree → Option (List (Tree × Tree))
  | mapping pairs => some pairs
  | _ => none

/-- The text of a scalar that is not empty. -/
def text? : Tree → Option String
  | scalar text => if text.isEmpty then none else some text
  | _ => none

mutual

/-- The plain form: a repeated key keeps its first place and takes its last value. -/
def plain : Tree → Plain
  | scalar text => .text text
  | sequence items => .list (plainItems items)
  | mapping pairs => .entries (Entries.ofPairs (plainPairs pairs))

def plainItems : List Tree → List Plain
  | [] => []
  | item :: rest => item.plain :: plainItems rest

def plainPairs : List (Tree × Tree) → List (String × Plain)
  | [] => []
  | (key, value) :: rest => (key.plain.keyText, value.plain) :: plainPairs rest

end

end Tree

end Deduce
