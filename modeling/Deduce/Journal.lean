import Deduce.Outcome

/-!
# The journal

What is reported while rules are read and run, one line an entry.
-/

namespace Deduce

inductive Entry where
  | schemaLoaded (name : String) (facts : Nat)
  | rulesRead (rules : Nat)
  | ruleEvaluated (rule : String) (outcome : Outcome)
  | passEnded (number : Nat) (isFinal : Bool) (added actions remaining : Nat)
  | runFinished (passes facts actions : Nat)
  deriving DecidableEq

/-- Entries in the order in which they were made. -/
abbrev Journal := List Entry

namespace Entry

def count (n : Nat) : String := intText n

def level : Entry → String
  | schemaLoaded .. | rulesRead _ | runFinished .. => "INFO"
  | ruleEvaluated .. | passEnded .. => "DEBUG"

def text : Entry → String
  | schemaLoaded name facts =>
    "Loaded fact schema '" ++ name ++ "' with " ++ count facts ++ " facts"
  | rulesRead rules => "Parsed " ++ count rules ++ " rules"
  | ruleEvaluated rule outcome => "Rule '" ++ rule ++ "' evaluated to " ++ outcome.name
  | passEnded number isFinal added actions remaining =>
    "Pass " ++ count number ++ " (" ++ (if isFinal then "final" else "normal") ++ "): " ++
      count added ++ " new facts, " ++ count actions ++ " actions, " ++ count remaining ++
      " rules remaining"
  | runFinished passes facts actions =>
    "Run finished after " ++ count passes ++ " passes with " ++ count facts ++ " facts and " ++
      count actions ++ " actions"

def line (entry : Entry) : String := entry.level ++ " " ++ entry.text

end Entry

end Deduce
