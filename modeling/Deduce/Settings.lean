import Deduce.Dotenv
import Deduce.Files

/-!
# Settings

Each setting is taken from the first source that has it: what is given, a variable of the
environment, a variable of the file `.env`, the default. Letter case does not count in the names of
variables, and of two variables for one setting the later counts, even if it has no value.
-/

namespace Deduce

structure Settings where
  logLevel : String := "INFO"
  rulesFile : String := "rules.yaml"
  schemaFile : Option String := none
  schemaName : String := "facts"
  deriving DecidableEq

/-- Settings that are given in place of those of the environment. -/
structure GivenSettings where
  logLevel : Option String := none
  rulesFile : Option String := none
  schemaFile : Option (Option String) := none
  schemaName : Option String := none

abbrev Environment := List (String × String)

/-- Variables by name, some of them without a value. -/
abbrev Variables := List (String × Option String)

namespace Settings

/-- What the names of all variables begin with. -/
def stem : String := "ruleflow_"

def lookup? (source : Variables) (setting : String) : Option String :=
  let wanted := (stem ++ setting).toList
  (source.reverse.find? fun (name, _) => name.toList.map Char.toLower == wanted).bind Prod.snd

/-- Settings from what is given and from sources of variables, the first of which counts most. -/
def ofSources (given : GivenSettings) (sources : List Variables) : Settings :=
  let found (setting : String) : Option String :=
    sources.findSome? fun source => lookup? source setting
  let usual : Settings := {}
  { logLevel := (given.logLevel <|> found "log_level").getD usual.logLevel
    rulesFile := (given.rulesFile <|> found "rules_file").getD usual.rulesFile
    schemaFile := (given.schemaFile <|> (found "schema_file").map some).getD usual.schemaFile
    schemaName := (given.schemaName <|> found "schema_name").getD usual.schemaName }

def variablesOf (environment : Environment) : Variables :=
  environment.map fun (name, value) => (name, some value)

/-- The variables of the file `.env`, if there is one. -/
def fileVariables (files : Files) (environment : Environment) : Except Failure Variables :=
  match files.bytesOf ".env" with
  | .error _ => .ok []
  | .ok bytes => (Files.textOf bytes).map fun text => Dotenv.read environment text.toList

def ofEnvironment (files : Files) (environment : Environment) : Except Failure Settings :=
  (fileVariables files environment).map fun source =>
    ofSources {} [variablesOf environment, source]

/-- The settings that are given, completed from the environment alone. -/
def ofGiven (given : GivenSettings) (environment : Environment) : Settings :=
  ofSources given [variablesOf environment]

end Settings

end Deduce
