import Deduce.Yaml.Cursor

/-!
# Tokens

The units of a document. Indentation is already turned into starts and ends of block collections, and
a mapping key is announced where it begins.
-/

namespace Deduce.Yaml

inductive Directive where
  | version (major minor : Nat)
  | tag (handle stem : String)
  | other (name : String)
  deriving DecidableEq

inductive Token where
  | directive (d : Directive)
  | documentStart
  | documentEnd
  | streamEnd
  | blockSequenceStart
  | blockMappingStart
  | blockEnd
  | flowSequenceStart
  | flowSequenceEnd
  | flowMappingStart
  | flowMappingEnd
  | blockEntry
  | flowEntry
  | key
  | value
  | alias (name : String)
  | anchor (name : String)
  | tag (handle : Option String) (suffix : String)
  | scalar (text : String) (plain : Bool)
  deriving DecidableEq

/-- ASCII letters, digits, hyphen and underscore. -/
def isWordChar (c : Char) : Bool := c.isAlphanum || c == '-' || c == '_'

namespace Reader

def word : Reader (List Char) := do
  let chars ← takeWhile isWordChar
  if chars.isEmpty then fail
  return chars

end Reader

end Deduce.Yaml
