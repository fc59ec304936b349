import Deduce.Run
import Deduce.SchemaFile
import Deduce.Settings

/-!
# The engine

A fact schema with the rules read against it, which can be run on any number of supplied facts.
-/

namespace Deduce

/-- What a caller supplies: natives by fact id, each id once. -/
abbrev Supplied := Entries Native

/-- The typed facts of what is supplied; what is absent is left out. -/
def Schema.knownFrom (schema : Schema) : Supplied → Except Failure Facts
  | [] => .ok []
  | (id, native) :: rest =>
    match schema.coerce id native with
    | .error failure => .error failure
    | .ok none => schema.knownFrom rest
    | .ok (some value) => (schema.knownFrom rest).map (⟨id, value⟩ :: ·)

/-- A native as an attribute of a record gives it: typed values are taken apart, also inside lists. -/
def Native.ofAttribute : Native → Native
  | value v => parts v
  | list items => list (items.map ofAttribute)
  | native => native

def Native.isNull : Native → Bool
  | null => true
  | _ => false

def Supplied.given (supplied : Supplied) : Supplied := supplied.filter (!·.2.isNull)

/-- What is supplied as the attributes of a record: nulls are left out before anything is checked. -/
def Supplied.ofRecord (attributes : Supplied) : Supplied :=
  attributes.given.map fun (id, native) => (id, native.ofAttribute)

/-- All actions of some rules, of one kind if one is asked for. -/
def RuleTable.actions (table : RuleTable) (kind : Option ActionKind) : List Action :=
  sortActions <| collect [] <|
    (table.flatMap Rule.triggered).filter fun a => kind.all (a.kind == ·)

structure Engine where
  schema : Schema
  rules : RuleTable

namespace Engine

def configuredSchema (files : Files) (settings : Settings) : Journal × Except Failure Schema :=
  match settings.schemaFile with
  | none => ([], .error (.error .noSchema))
  | some file =>
    if file.isEmpty then ([], .error (.error .noSchema))
    else Schema.ofFile files file (some settings.schemaName)

def readingRules : Failure → Failure
  | .error e => .error (.readingRules e)
  | .defect d => .defect d

def ofSchema (files : Files) (schema : Schema) (filename content : Option String) :
    Journal × Except Failure Engine :=
  match ((sourceText files filename content).bind (RuleTable.ofText schema)).mapError readingRules with
  | .error failure => ([], .error failure)
  | .ok rules => ([.rulesRead rules.length], .ok ⟨schema, rules⟩)

/-- The engine of a schema and a source of rules; what is not given is taken from the settings. -/
def create (files : Files) (settings : Settings) (schema : Option Schema)
    (filename content : Option String) : Journal × Except Failure Engine :=
  let found : Journal × Except Failure Schema :=
    match schema with
    | some schema => ([], .ok schema)
    | none => configuredSchema files settings
  match found with
  | (journal, .error failure) => (journal, .error failure)
  | (journal, .ok schema) =>
    let filename := if filename.isNone && content.isNone then some settings.rulesFile else filename
    let (more, engine) := ofSchema files schema filename content
    (journal ++ more, engine)

def runOn (engine : Engine) (supplied : Supplied) : Except Failure Run :=
  (engine.schema.knownFrom supplied).map engine.rules.run

def run (engine : Engine) (supplied : Option Supplied) : Journal × Except Failure Results :=
  match supplied with
  | none => ([], .error (.error .noFacts))
  | some supplied =>
    match engine.runOn supplied with
    | .error failure => ([], .error failure)
    | .ok run => (run.journal, run.outcome.map (Results.ofState engine.schema))

def possibleActions (engine : Engine) (kindName : Option String) : Except Error (List Action) :=
  match kindName with
  | none => .ok (engine.rules.actions none)
  | some name => (ActionKind.ofName name).map fun kind => engine.rules.actions (some kind)

end Engine

end Deduce
