import ScriptTags.Text.Quoted

/-!
# Issues

When a value does not fit a record, each misfit is an issue: the place of the offending value, and
the problem with it. A problem has a short code and a sentence for people.
-/

namespace ScriptTags.Record

/-- One step towards a value nested in a record. -/
inductive Step where
  | field (name : String)
  | index (i : Nat)
  deriving DecidableEq, Repr

inductive Problem where
  | missing
  | notString
  | emptyString
  | notInteger
  | unreadableInteger
  | fractional
  | notFinite
  | tooLarge
  | belowMinimum (least : Int)
  | notList
  | notAmong (choices : List String)
  | notRecord (model : String)
  | misplaced (address offset : String)
  | frozen
  deriving DecidableEq, Repr

namespace Problem

def code : Problem → String
  | .missing => "missing"
  | .notString => "string_type"
  | .emptyString => "string_too_short"
  | .notInteger => "int_type"
  | .unreadableInteger => "int_parsing"
  | .fractional => "int_from_float"
  | .notFinite => "finite_number"
  | .tooLarge => "int_parsing_size"
  | .belowMinimum _ => "greater_than_equal"
  | .notList => "list_type"
  | .notAmong _ => "literal_error"
  | .notRecord _ => "model_type"
  | .misplaced _ _ => "value_error"
  | .frozen => "frozen_instance"

/-- The choices in quotes, the last one set off by "or". -/
def alternatives : List String → String
  | [] => ""
  | [a] => Text.quoted a
  | [a, b] => Text.quoted a ++ " or " ++ Text.quoted b
  | a :: rest => Text.quoted a ++ ", " ++ alternatives rest

def message : Problem → String
  | .missing => "Field required"
  | .notString => "Input should be a valid string"
  | .emptyString => "String should have at least 1 character"
  | .notInteger => "Input should be a valid integer"
  | .unreadableInteger =>
    "Input should be a valid integer, unable to parse string as an integer"
  | .fractional => "Input should be a valid integer, got a number with a fractional part"
  | .notFinite => "Input should be a finite number"
  | .tooLarge => "Unable to parse input string as an integer, exceeded maximum size"
  | .belowMinimum least => s!"Input should be greater than or equal to {least}"
  | .notList => "Input should be a valid list"
  | .notAmong choices => "Input should be " ++ alternatives choices
  | .notRecord model => "Input should be a valid dictionary or instance of " ++ model
  | .misplaced address offset =>
    s!"Value error, address {Text.quoted address} does not start with line offset {Text.quoted offset}"
  | .frozen => "Instance is frozen"

end Problem

structure Issue where
  place : List Step
  problem : Problem
  deriving DecidableEq, Repr

/-- The same issue, seen from the value that holds the one it was found in. -/
def Issue.under (step : Step) (issue : Issue) : Issue :=
  { issue with place := step :: issue.place }

end ScriptTags.Record
