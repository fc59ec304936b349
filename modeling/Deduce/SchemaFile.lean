import Deduce.Files
import Deduce.Journal
import Deduce.Schema
import Deduce.Yaml.Building

/-!
# Schema files

A fact schema as a document: a mapping of fact ids to the names of types. Keys and types may be data
of any kind and count by their text. The schema is called after its file unless it is given a name.
-/

namespace Deduce

namespace SchemaFile

/-- The names of a path without those that lead nowhere. -/
def names (path : String) : List String := (pathNames path).filter fun name => name != "" && name != "."

/-- The slashes at the start of a path: two are kept, any other number becomes one. -/
def root (path : String) : String :=
  match path.toList with
  | '/' :: '/' :: '/' :: _ => "/"
  | '/' :: '/' :: _ => "//"
  | '/' :: _ => "/"
  | _ => ""

/-- The shortest spelling of a path. -/
def normal (path : String) : String :=
  let text := root path ++ String.intercalate "/" (names path)
  if text.isEmpty then "." else text

/-- The last name of a path up to its last point, which neither begins nor ends the name. -/
def stem (path : String) : String :=
  let name := (names path).getLast?.getD ""
  let behind := name.toList.reverse.takeWhile (· != '.')
  let before := (name.toList.reverse.drop (behind.length + 1)).reverse
  if behind.isEmpty || before.isEmpty then name else String.ofList before

def blockSize : Nat := 8192

def declare (schema : Schema) (key value : Yaml.Data) : Except Failure Schema :=
  if key.isShowable && value.isShowable then
    (schema.declare key.text value.text).mapError .error
  else .error (.defect (.tooManyDigits none))

def ofData (path name : String) : Yaml.Data → Except Failure Schema
  | .map entries =>
    entries.foldlM (fun schema (key, value) => declare schema key value) (Schema.empty name)
  | _ => .error (.error (.schemaFileNotMapping path))

def read (files : Files) (file : String) (name : Option String) : Except Failure Schema :=
  let path := normal file
  let given := name.getD ""
  match files.bytesOf path with
  | .error .nullInName => .error (.defect .nullInName)
  | .error _ => .error (.error (.schemaFileUnreadable path))
  | .ok bytes =>
    let (chars, message) := Text.decodeStream blockSize bytes
    let fault := message.map fun m => Yaml.Fault.defect (.notUtf8 m)
    match Yaml.Data.ofStream (.ofFile (Text.unifyBreaks chars) fault) with
    | .error .malformed => .error (.error .schemaFileMalformed)
    | .error (.defect d) => .error (.defect d)
    | .ok data => ofData path (if given.isEmpty then stem path else given) data

end SchemaFile

/-- The schema of a file, with the entry that reports it. -/
def Schema.ofFile (files : Files) (file : String) (name : Option String) :
    Journal × Except Failure Schema :=
  match SchemaFile.read files file name with
  | .error failure => ([], .error failure)
  | .ok schema => ([.schemaLoaded schema.name schema.size], .ok schema)

end Deduce
