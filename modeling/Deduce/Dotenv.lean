import Deduce.Entries
import Deduce.Text.Blank
import Deduce.Text.Utf8

/-!
# Variable files

Lines `NAME=value`, with an optional `export` in front and comments behind a number sign. Values may
stand in quotes and go over several lines then; a variable in braces behind a dollar sign is replaced.
A line that breaks the grammar is passed over, and a byte order mark in front of the first line too.
-/

namespace Deduce.Dotenv

def isLineEnd (c : Char) : Bool := c == '\n' || c == '\r'

/-- A blank that does not end the line. -/
def isInnerBlank (c : Char) : Bool := Text.isBlank c && !isLineEnd c

def skipInner (cs : List Char) : List Char := cs.dropWhile isInnerBlank

/-- What follows the word `export`, if blanks do. -/
def skipExport (cs : List Char) : List Char :=
  let word := "export".toList
  let rest := cs.drop word.length
  if cs.take word.length == word && rest.head?.any isInnerBlank then skipInner rest else cs

/-- The name at the start of a line, in single quotes or without. -/
def name? : List Char → Option (List Char × List Char)
  | '\'' :: rest =>
    let name := rest.takeWhile (· != '\'')
    match rest.dropWhile (· != '\'') with
    | _ :: rest => if name.isEmpty then none else some (name, rest)
    | [] => none
  | cs =>
    let isNameChar (c : Char) := !(c == '=' || c == '#' || Text.isBlank c)
    let name := cs.takeWhile isNameChar
    if name.isEmpty then none else some (name, cs.dropWhile isNameChar)

/-- What stands in front of the closing quote, and what follows it. A quote behind a backslash does
not close, unless no other quote does: then the last such quote closes. -/
def closeQuote? (quote : Char) (before : List Char) (last : Option (List Char × List Char)) :
    List Char → Option (List Char × List Char)
  | [] => last
  | '\\' :: c :: rest =>
    if c == quote then
      closeQuote? quote (c :: '\\' :: before) (some (('\\' :: before).reverse, rest)) rest
    else closeQuote? quote ('\\' :: before) last (c :: rest)
  | c :: rest =>
    if c == quote then some (before.reverse, rest) else closeQuote? quote (c :: before) last rest

/-- The character that an escape in quotes stands for. -/
def escape? (quote c : Char) : Option Char :=
  if c == '\\' || c == '\'' then some c
  else if quote == '\'' then none
  else
    match c with
    | '"' => some '"'
    | 'a' => some '\x07'
    | 'b' => some '\x08'
    | 'f' => some '\x0c'
    | 'n' => some '\n'
    | 'r' => some '\r'
    | 't' => some '\t'
    | 'v' => some '\x0b'
    | _ => none

def unescape (quote : Char) : List Char → List Char
  | '\\' :: c :: rest =>
    match escape? quote c with
    | some char => char :: unescape quote rest
    | none => '\\' :: unescape quote (c :: rest)
  | c :: rest => c :: unescape quote rest
  | [] => []

/-- A text up to the blanks in front of its first comment. -/
def dropComment : List Char → List Char
  | [] => []
  | c :: rest =>
    if Text.isBlank c && (rest.dropWhile Text.isBlank).head? == some '#' then []
    else c :: dropComment rest

/-- The value behind an equals sign: a text in quotes, or all of the line up to a comment, without the
blanks at its two ends. A number sign right behind the equals sign begins no comment. -/
def value? (cs : List Char) : Option (List Char × List Char) :=
  let bare := skipInner (Text.stripEnd (dropComment (cs.takeWhile (!isLineEnd ·))))
  match skipInner cs with
  | [] => some ([], [])
  | c :: rest =>
    if c == '\'' || c == '"' then
      (closeQuote? c [] none rest).map fun (text, rest) => (unescape c text, rest)
    else some (bare, cs.dropWhile (!isLineEnd ·))

def lineEnd? (cs : List Char) : Option (List Char) :=
  let cs := if (skipInner cs).head? == some '#' then cs.dropWhile (!isLineEnd ·) else cs
  match skipInner cs with
  | [] => some []
  | '\r' :: '\n' :: rest => some rest
  | c :: rest => if isLineEnd c then some rest else none

/-- The next line, whatever stands on this one. -/
def nextLine (cs : List Char) : List Char := (cs.dropWhile (!isLineEnd ·)).drop 1

/-- One line, and what follows it: a name with its value if there is one, or nothing. -/
def binding (cs : List Char) : Option (String × Option (List Char)) × List Char :=
  let cs := skipExport (cs.dropWhile Text.isBlank)
  let finish (bound : Option (String × Option (List Char))) (rest : List Char) :=
    match lineEnd? rest with
    | some rest => (bound, rest)
    | none => (none, nextLine (skipInner rest))
  match cs with
  | [] => (none, [])
  | '#' :: _ => finish none cs
  | _ =>
    match name? cs with
    | none => (none, nextLine cs)
    | some (name, rest) =>
      let name := String.ofList name
      match skipInner rest with
      | '=' :: rest =>
        match value? rest with
        | some (value, rest) => finish (some (name, some value)) rest
        | none => (none, nextLine rest)
      | rest => finish (some (name, none)) rest

/-- The bindings of a text; every line takes a character at least. -/
def bindings : Nat → List Char → List (String × Option (List Char))
  | 0, _ => []
  | _, [] => []
  | steps + 1, cs =>
    let (bound, rest) := binding cs
    bound.toList ++ bindings steps rest

/-- A variable in braces: its name and default, and what follows. -/
def reference? : List Char → Option (List Char × Option (List Char) × List Char)
  | '$' :: '\x7b' :: rest =>
    let isNameChar (c : Char) := c != '\x7d' && c != ':'
    let name := rest.takeWhile isNameChar
    match rest.dropWhile isNameChar with
    | '\x7d' :: rest => some (name, none, rest)
    | ':' :: '-' :: rest =>
      match rest.dropWhile (· != '\x7d') with
      | _ :: after => some (name, some (rest.takeWhile (· != '\x7d')), after)
      | [] => none
    | _ => none
  | _ => none

def replace (value : String → Option (Option String)) : Nat → List Char → List Char
  | 0, cs => cs
  | _, [] => []
  | steps + 1, c :: rest =>
    match reference? (c :: rest) with
    | some (name, default, after) =>
      let text :=
        match value (String.ofList name) with
        | some found => (found.getD "").toList
        | none => default.getD []
      text ++ replace value steps after
    | none => c :: replace value steps rest

/-- The variables of a file. Those of the lines in front and of the environment may be used in
values; a name without an equals sign has no value. -/
def read (environment : List (String × String)) (cs : List Char) : Entries (Option String) :=
  (bindings (cs.length + 1) (Text.dropMark cs)).foldl (fun known (name, value) =>
    let lookup (name : String) : Option (Option String) :=
      match known.get? name with
      | some found => some found
      | none => (environment.reverse.find? (·.1 == name)).map fun (_, text) => some text
    known.put name (value.map fun text => String.ofList (replace lookup (text.length + 1) text))) []

end Deduce.Dotenv
