import Deduce.Error
import Deduce.Text.Utf8

/-!
# Files

The files below the current directory by their paths, and what comes of opening a name. Files are
UTF-8, and every line break in them is read as a line feed.
-/

namespace Deduce

/-- Paths, as the names on the way, with the bytes found there. -/
structure Files where
  entries : List (List String × List UInt8) := []

inductive OpenFault where
  | notFound
  | isDirectory
  | notDirectory
  | nameTooLong
  /-- There is a null character in the name. -/
  | nullInName
  deriving DecidableEq

def OpenFault.text : OpenFault → String
  | notFound => "[Errno 2] No such file or directory"
  | notDirectory => "[Errno 20] Not a directory"
  | isDirectory => "[Errno 21] Is a directory"
  | nameTooLong => "[Errno 36] File name too long"
  | nullInName => Defect.nullInName.message

inductive FilePlace where
  | directory (path : List String)
  /-- A directory above or beside the current one. -/
  | outside
  | file (bytes : List UInt8)

/-- How many bytes a name within a path and a whole path may have. -/
def nameLimit : Nat := 255

def pathLimit : Nat := 4095

def pathNames (path : String) : List String := (path.toList.splitOn '/').map String.ofList

namespace Files

def ofNames (files : List (String × List UInt8)) : Files :=
  ⟨files.map fun (name, bytes) => (pathNames name, bytes)⟩

/-- What a path inside the current directory is. -/
def lookup? (files : Files) (path : List String) : Option FilePlace :=
  match files.entries.find? (·.1 == path) with
  | some (_, bytes) => some (.file bytes)
  | none =>
    if files.entries.any fun (other, _) => path.isPrefixOf other then some (.directory path) else none

def enter (files : Files) (name : String) : FilePlace → Except OpenFault FilePlace
  | .file _ => .error .notDirectory
  | .outside =>
    if nameLimit < name.utf8ByteSize then .error .nameTooLong
    else if name == "" || name == "." || name == ".." then .ok .outside
    else .error .notFound
  | .directory path =>
    if nameLimit < name.utf8ByteSize then .error .nameTooLong
    else if name == "" || name == "." then .ok (.directory path)
    else if name == ".." then .ok (if path.isEmpty then .outside else .directory path.dropLast)
    else
      match files.lookup? (path ++ [name]) with
      | some place => .ok place
      | none => .error .notFound

def bytesOf (files : Files) (name : String) : Except OpenFault (List UInt8) := do
  if name.toList.contains '\x00' then throw .nullInName
  if name.isEmpty then throw .notFound
  if pathLimit < name.utf8ByteSize then throw .nameTooLong
  let start := if name.toList.head? == some '/' then FilePlace.outside else .directory []
  match ← (pathNames name).foldlM (fun place name => files.enter name place) start with
  | .file bytes => return bytes
  | .directory _ | .outside => throw .isDirectory

/-- The text of some bytes that are all at hand. -/
def textOf (bytes : List UInt8) : Except Failure String :=
  match Text.decode bytes with
  | .ok chars => .ok (String.ofList (Text.unifyBreaks chars))
  | .error message => .error (.defect (.notUtf8 message))

end Files

/-- The source of rules: the content if it is given, else the text of the named file. -/
def sourceText (files : Files) (filename content : Option String) : Except Failure String :=
  match content, filename with
  | some content, _ => .ok content
  | none, none => .error (.error .noSource)
  | none, some name =>
    match files.bytesOf name with
    | .ok bytes => Files.textOf bytes
    | .error .nullInName => .error (.defect .nullInName)
    | .error fault => .error (.error (.fileUnreadable name (fault.text ++ ": " ++ Text.quoted name)))

end Deduce
