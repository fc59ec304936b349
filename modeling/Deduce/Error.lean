import Deduce.Rule.Basic

/-!
# Errors

An error is a cause, with the places it was met in from the inside out. A defect is a breakdown that
no error stands for, and places leave it as it is. Wording is given here once: `Error.message`, `Error.details`, `Defect.message`.
-/

namespace Deduce

inductive Place where
  | readingRule (description : String)
  | conditionLine (text : String)
  | factLine (text : String)
  | actionLine (text : String)
  | suppliedFact (id : String)
  | condition (c : Condition)
  | rule (name : String)
  deriving DecidableEq

def Place.text : Place → String
  | readingRule description => "when reading rule: " ++ description
  | conditionLine text => "in condition: " ++ text
  | factLine text => "in fact: " ++ text
  | actionLine text => "in action: " ++ text
  | suppliedFact id => "for fact '" ++ id ++ "'"
  | condition c => "evaluating condition '" ++ c.text ++ "'"
  | rule name => "in rule '" ++ name ++ "'"

inductive Error where
  -- values
  | unsupportedOperation (type : ScalarType) (op : Operator)
  | typesDiffer (left right : Value)
  | unsetOperand (type : ScalarType)
  | unsuitableNative (type : ScalarType) (kind text : String)
  -- the fact schema
  | unknownType (id type : String)
  | unknownFact (id schema : String)
  | otherTypeSupplied (id : String) (declared supplied : ScalarType)
  | schemaFileUnreadable (path : String)
  | schemaFileMalformed
  | schemaFileNotMapping (path : String)
  -- the source of the rules
  | noSource
  | fileUnreadable (name reason : String)
  | malformedDocument
  | emptyDocument
  -- the rules
  | notRuleList
  | notRule (description : String)
  | unknownAttribute (name : Option String) (rule : String)
  | repeatedAttribute (name rule : String)
  | missingName (rule : String)
  | repeatedRule (name : String)
  | notConditionList
  | notConditionLine (description : String)
  | conditionFormat (text : String)
  | misplacedCombinator
  | contradictoryEqualities (id : String)
  | notFactList
  | notFactLine (description : String)
  | factFormat (text : String)
  | unreadableLiteral (type : ScalarType) (id literal : String)
  | repeatedFact (id : String)
  | notActionList
  | notActionLine (description : String)
  | actionFormat (text : String)
  | unknownActionKind (name : String)
  | repeatedAction (text : String)
  -- a run
  | noConditionValue (c : Condition)
  | establishedFact (known new : Fact)
  | notConverged (passes : Nat)
  | noFacts
  | noSchema
  -- context
  | within (inner : Error) (place : Place)
  | readingRules (inner : Error)
  deriving DecidableEq

namespace Error

def commaSeparated (names : List String) : String := String.intercalate ", " names

def message : Error → String
  | unsupportedOperation type op => "Unsupported " ++ type.name ++ " operation '" ++ op.name ++ "'"
  | typesDiffer left right =>
    "Cannot compare " ++ left.type.name ++ " value '" ++ left.text ++ "' with " ++
      right.type.name ++ " value '" ++ right.text ++ "'"
  | unsetOperand type => "Cannot compare unset " ++ type.name ++ " value"
  | unsuitableNative type kind text =>
    "Expected a " ++ type.name ++ " value but got " ++ kind ++ " '" ++ text ++ "'"
  | unknownType id type =>
    "Fact '" ++ id ++ "' has unknown type '" ++ type ++ "' (expected one of: " ++
      commaSeparated (ScalarType.all.map ScalarType.name) ++ ")"
  | unknownFact id schema =>
    "Fact '" ++ id ++ "' is not defined in the fact schema '" ++ schema ++ "'"
  | otherTypeSupplied id declared supplied =>
    "Fact '" ++ id ++ "' expects a " ++ declared.name ++ " value but got a " ++ supplied.name ++
      " value"
  | schemaFileUnreadable path => "Cannot read fact schema file " ++ path
  | schemaFileMalformed => "Failed to parse fact schema YAML"
  | schemaFileNotMapping path => "Expected a mapping of fact types in " ++ path
  | noSource => "Either a rules file or rules content must be supplied"
  | fileUnreadable name reason => "Cannot read file " ++ name ++ ": " ++ reason
  | malformedDocument => "Failed to parse YAML"
  | emptyDocument => "No rules found"
  | notRuleList => "Expected a list of rules but root does not contain a sequence"
  | notRule description => "Expected a rule object but found: " ++ description
  | unknownAttribute name rule =>
    "Unknown attribute '" ++ name.getD "None" ++ "' in rule: " ++ rule
  | repeatedAttribute name rule => "Duplicate attribute '" ++ name ++ "' in rule: " ++ rule
  | missingName rule => "Missing mandatory attribute 'name' in rule: " ++ rule
  | repeatedRule name => "Duplicate rule name '" ++ name ++ "'"
  | notConditionList => "Expected a list of conditions but conditions does not contain a sequence"
  | notConditionLine description => "Expected a condition (string) but found: " ++ description
  | conditionFormat text =>
    "Expected condition in format: 'AND', 'OR', '!id', 'id [==|!=|<|>|<=|>=] value' but found: " ++
      text
  | misplacedCombinator =>
    "Only the first condition can be 'and' / 'or' (break complex conditions into separate rules)"
  | contradictoryEqualities id =>
    "Found multiple 'AND ==' conditions for '" ++ id ++ "' (did you forget to add '- OR')"
  | notFactList => "Expected a list of facts but facts does not contain a sequence"
  | notFactLine description => "Expected a fact (string) but found: " ++ description
  | factFormat text => "Expected fact in format: 'id = value' but found: " ++ text
  | unreadableLiteral type _ _ => "Failed to parse " ++ type.name ++ " value"
  | repeatedFact id => "Duplicate fact '" ++ id ++ "'"
  | notActionList => "Expected a list of actions but actions does not contain a sequence"
  | notActionLine description => "Expected an action (string) but found: " ++ description
  | actionFormat text => "Expected action in format: 'type id' but found: " ++ text
  | unknownActionKind name =>
    "Action type '" ++ name ++ "' is not defined (expected one of: " ++
      commaSeparated (ActionKind.all.map ActionKind.name) ++ ")"
  | repeatedAction text => "Duplicate action '" ++ text ++ "'"
  | noConditionValue c => "Condition '" ++ c.text ++ "' has no value to compare"
  | establishedFact known new =>
    "Established fact '" ++ known.text ++ "' cannot be modified to '" ++ new.text ++ "'"
  | notConverged passes => "Rules did not converge within " ++ intText passes ++ " passes"
  | noFacts => "Initial facts must be supplied"
  | noSchema => "A fact schema must be supplied or configured"
  | within inner place => inner.message ++ " " ++ place.text
  | readingRules inner => "Cannot read YAML rules: " ++ inner.message

/-- Names of an error's parts with their texts; context adds none and takes none away. -/
def details : Error → List (String × String)
  | unsupportedOperation type op => [("type", type.name), ("operator", op.name)]
  | unsuitableNative type _ _ => [("type", type.name)]
  | unknownFact id schema => [("fact_id", id), ("schema", schema)]
  | unreadableLiteral _ id literal => [("fact_id", id), ("literal", literal)]
  | unknownActionKind name => [("action_type", name)]
  | establishedFact _ new => [("fact_id", new.id)]
  | within inner _ => inner.details
  | readingRules inner => inner.details
  | _ => []

end Error

/-- A part of a date or a time that lies outside its range. -/
inductive DatePart where
  | year (n : Nat)
  | month
  | day
  | hour
  | minute
  | second
  /-- An offset of a day or more from universal time. -/
  | offset (shown : String)
  deriving DecidableEq

def DatePart.message : DatePart → String
  | year n => "year " ++ intText n ++ " is out of range"
  | month => "month must be in 1..12"
  | day => "day is out of range for month"
  | hour => "hour must be in 0..23"
  | minute => "minute must be in 0..59"
  | second => "second must be in 0..59"
  | offset shown =>
    "offset must be a timedelta strictly between -timedelta(hours=24) and timedelta(hours=24), not " ++
      shown ++ "."

/-- Breakdowns of reading numbers, dates, characters and bytes, and of comparing data that do not
suit their type. -/
inductive Defect where
  /-- More digits than can be converted; their number is known when a text is read. -/
  | tooManyDigits (digits : Option Nat)
  /-- Two data of kinds that have no order. -/
  | unordered (symbol left right : String)
  /-- An order with something that is no number. -/
  | orderOfNan
  | notInteger (base : Nat) (text : String)
  | notFloat (text : String)
  | emptyNumber
  /-- A whole number beyond the largest double. -/
  | beyondDoubles
  | unknownWord (word : String)
  | notTimestamp
  /-- A timestamp that is no scalar. -/
  | timestampNotText
  | dateOutOfRange (part : DatePart)
  /-- An escaped code point beyond the last character. -/
  | noSuchCharacter
  /-- An escaped code point of more than 31 bits. -/
  | codePointTooLarge
  | notUtf8 (fault : String)
  /-- A file name with a null character in it. -/
  | nullInName
  /-- A format for log records that names no part of them. -/
  | formatWithoutPart (format : String)
  /-- A layout of log records in place of a level. -/
  | layoutIsNoLevel (layout : String)
  deriving DecidableEq

/-- How much of a quoted text that is no integer a message shows. -/
def shownOfInteger : Nat := 200

def Defect.message : Defect → String
  | tooManyDigits digits =>
    let count :=
      match digits with
      | none => ""
      | some n => ": value has " ++ intText n ++ " digits"
    "Exceeds the limit (" ++ intText maxIntDigits ++ " digits) for integer string conversion" ++
      count ++ "; use sys.set_int_max_str_digits() to increase the limit"
  | unordered symbol left right =>
    "'" ++ symbol ++ "' not supported between instances of '" ++ left ++ "' and '" ++ right ++ "'"
  | orderOfNan => "[<class 'decimal.InvalidOperation'>]"
  | notInteger base text =>
    "invalid literal for int() with base " ++ intText base ++ ": " ++
      String.ofList ((Text.quoted text).toList.take shownOfInteger)
  | notFloat text => "could not convert string to float: " ++ Text.quoted text
  | emptyNumber => "string index out of range"
  | beyondDoubles => "int too large to convert to float"
  | unknownWord word => Text.quoted word
  | notTimestamp => "'NoneType' object has no attribute 'groupdict'"
  | timestampNotText => "expected string or bytes-like object, got 'list'"
  | dateOutOfRange part => part.message
  | noSuchCharacter => "chr() arg not in range(0x110000)"
  | codePointTooLarge => "Python int too large to convert to C int"
  | notUtf8 fault => fault
  | nullInName => "embedded null byte"
  | formatWithoutPart format => "Invalid format '" ++ format ++ "' for '%' style"
  | layoutIsNoLevel layout => "Unknown level: " ++ Text.quoted layout

inductive Failure where
  | error (e : Error)
  | defect (d : Defect)
  deriving DecidableEq

namespace Failure

def within (place : Place) : Failure → Failure
  | error e => error (e.within place)
  | defect d => defect d

/-- The failure for an error that quotes some values. There is no error if one of them cannot be
written out. -/
def quoting (values : List Value) (e : Error) : Failure :=
  if values.all Value.isWritable then error e else defect (.tooManyDigits none)

def contradiction (established new : Fact) : Failure :=
  quoting [established.value, new.value] (.establishedFact established new)

/-- The failure with the condition added to an error that was met in its evaluation. -/
def evaluating (c : Condition) : Failure → Failure
  | error e => quoting c.value.toList (e.within (.condition c))
  | defect d => defect d

def message : Failure → String
  | error e => e.message
  | defect d => d.message

end Failure

def atPlace {α : Type} (place : Place) (result : Except Failure α) : Except Failure α :=
  result.mapError (Failure.within place)

end Deduce
