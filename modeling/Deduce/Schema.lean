import Deduce.Entries
import Deduce.Error

/-!
# The fact schema

The closed set of fact ids with their types, in the order of declaration, which is also the order of
results. Supplied natives become typed values here, and typed values natives again.
-/

namespace Deduce

structure Schema where
  name : String
  types : Entries ScalarType
  distinct : types.keys.Nodup

namespace Schema

def empty (name : String) : Schema := ⟨name, [], List.nodup_nil⟩

def put (schema : Schema) (id : String) (type : ScalarType) : Schema :=
  ⟨schema.name, schema.types.put id type, Entries.nodup_put schema.distinct id type⟩

def declare (schema : Schema) (id typeName : String) : Except Error Schema :=
  match ScalarType.ofName? typeName with
  | none => .error (.unknownType id typeName)
  | some type => .ok (schema.put id type)

/-- The schema of ids with type names; a repeated id keeps its place and takes the last type. -/
def ofDeclarations (name : String) (declarations : List (String × String)) :
    Except Error Schema :=
  declarations.foldlM (fun schema (id, typeName) => schema.declare id typeName) (empty name)

def get? (schema : Schema) (id : String) : Option ScalarType := schema.types.get? id

def contains (schema : Schema) (id : String) : Bool := (schema.get? id).isSome

def ids (schema : Schema) : List String := schema.types.keys

def size (schema : Schema) : Nat := schema.types.length

def lookup (schema : Schema) (id : String) : Except Error ScalarType :=
  match schema.get? id with
  | some type => .ok type
  | none => .error (.unknownFact id schema.name)

def summary (schema : Schema) : String :=
  "FactSchema(name=" ++ Text.quoted schema.name ++ ", facts=" ++ intText schema.size ++ ")"

end Schema

/-- The datum of a native in a type, if it suits the type. The empty string is no datum. -/
def Native.datum? : ScalarType → Native → Option (Option Datum)
  | .string, .string s => some (if s.isEmpty then none else some (.string s))
  | .bool, .bool b => some (some (.bool b))
  | .int, .int i => some (some (.int i))
  | .decimal, .decimal d => if d.isFinite then some (some (.decimal d)) else none
  | .decimal, .int i => some (some (.decimal (Decimal.ofInt i)))
  | .decimal, .float x =>
    match Decimal.ofText? x.text with
    | some d => if d.isFinite then some (some (.decimal d)) else none
    | none => none
  | _, _ => none

/-- Whether a native becomes a fact of the type without being written out. A whole number is written to
become a decimal, and what does not suit the type to be quoted. -/
def Native.isTaken (native : Native) (type : ScalarType) : Bool :=
  match native with
  | .null | .value _ => true
  | .int _ => type == .int
  | native => (native.datum? type).isSome

def Value.ofNative (type : ScalarType) (native : Native) : Except Error Value :=
  match native.datum? type with
  | some data => .ok ⟨type, data⟩
  | none => .error (.unsuitableNative type native.kindName native.text)

def Value.set? (v : Value) : Option Value := if v.isUnset then none else some v

def Value.native (v : Value) : Native := Native.ofDatum? v.data

namespace Schema

/-- The typed value of a supplied native, or none when nothing was supplied, however many digits its
integers have. -/
def accept (schema : Schema) (id : String) (native : Native) : Except Error (Option Value) :=
  match schema.lookup id with
  | .error e => .error e
  | .ok type =>
    match native with
    | .null => .ok none
    | .value v =>
      if v.type = type then .ok v.set? else .error (.otherTypeSupplied id type v.type)
    | native =>
      match Value.ofNative type native with
      | .ok v => .ok v.set?
      | .error e => .error (e.within (.suppliedFact id))

/-- The typed value of a supplied native. There is none if an integer of too many digits would have to
be written out for it. -/
def coerce (schema : Schema) (id : String) (native : Native) : Except Failure (Option Value) :=
  if native.isWritable || (schema.get? id).all native.isTaken then
    (schema.accept id native).mapError .error
  else .error (.defect (.tooManyDigits none))

/-- The natives of known values, in the order of declaration. -/
def natives (schema : Schema) (known : String → Option Value) : Entries Native :=
  schema.ids.filterMap fun id => (known id).map fun v => (id, v.native)

end Schema

end Deduce
