namespace Proofread

namespace Validation

inductive Step
  | member (name : String)
  | item (index : Int)
  deriving DecidableEq

inductive Subject
  | options
  | pair
  | pairs
  deriving DecidableEq

def Subject.name : Subject → String
  | options => "ReportLintConfig"
  | pair => "DictionaryPair"
  | pairs => "list[DictionaryPair]"

inductive Cause
  | missing
  | unknownMember
  | keyNotText
  | notObject (subject : Subject)
  | notList
  | notText
  | notPath
  | notInteger
  | hasFraction
  | notFinite
  | unreadableInteger
  | integerTooLarge
  | negative
  | notBool
  | unreadableBool
  deriving DecidableEq

namespace Cause

def code : Cause → String
  | missing => "missing"
  | unknownMember => "extra_forbidden"
  | keyNotText => "invalid_key"
  | notObject _ => "model_type"
  | notList => "list_type"
  | notText => "string_type"
  | notPath => "path_type"
  | notInteger => "int_type"
  | hasFraction => "int_from_float"
  | notFinite => "finite_number"
  | unreadableInteger => "int_parsing"
  | integerTooLarge => "int_parsing_size"
  | negative => "greater_than_equal"
  | notBool => "bool_type"
  | unreadableBool => "bool_parsing"

def message : Cause → String
  | missing => "Field required"
  | unknownMember => "Extra inputs are not permitted"
  | keyNotText => "Keys should be strings"
  | notObject subject => "Input should be a valid dictionary or instance of " ++ subject.name
  | notList => "Input should be a valid list"
  | notText => "Input should be a valid string"
  | notPath => "Input is not a valid path for <class 'pathlib.Path'>"
  | notInteger => "Input should be a valid integer"
  | hasFraction => "Input should be a valid integer, got a number with a fractional part"
  | notFinite => "Input should be a finite number"
  | unreadableInteger => "Input should be a valid integer, unable to parse string as an integer"
  | integerTooLarge => "Unable to parse input string as an integer, exceeded maximum size"
  | negative => "Input should be greater than or equal to 0"
  | notBool => "Input should be a valid boolean"
  | unreadableBool => "Input should be a valid boolean, unable to interpret input"

end Cause

structure Issue where
  cause : Cause
  place : List Step
  deriving DecidableEq

def Issue.under (step : Step) (issue : Issue) : Issue :=
  { issue with place := step :: issue.place }

-- The value if there is one, or all that is wrong with it.
abbrev Checked (α : Type) := Except (List Issue) α

namespace Checked

variable {α : Type}

def issues : Checked α → List Issue
  | .ok _ => []
  | .error issues => issues

def under (step : Step) : Checked α → Checked α
  | .ok value => .ok value
  | .error issues => .error (issues.map (·.under step))

end Checked

-- Checks every item, whether the ones before it pass or not.
def checkItems {α β : Type} (check : α → Checked β) (items : List α) : Checked (List β) :=
  go 0 items
where
  go (index : Nat) : List α → Checked (List β)
    | [] => .ok []
    | item :: rest =>
      match (check item).under (.item index), go (index + 1) rest with
      | .ok value, .ok values => .ok (value :: values)
      | first, others => .error (first.issues ++ others.issues)

end Validation

structure Invalid where
  subject : Validation.Subject
  issues : List Validation.Issue
  deriving DecidableEq

def Invalid.message (invalid : Invalid) : String :=
  let count := invalid.issues.length
  toString count ++ (if count = 1 then " validation error for " else " validation errors for ")
    ++ invalid.subject.name

end Proofread
