/-
# Validation issues

What is wrong with a payload: a list of complaints, each with the place it is about. A
complaint is a cause; its code and its message are functions of the cause.
-/

import Tenancy.Json.Display

namespace Tenancy.Validation

/-- One step on the way to a place in a payload. -/
inductive Step where
  /-- A field, or a branch of a choice, by its name. -/
  | name (s : String)
  /-- An element of an array. -/
  | index (n : Nat)
deriving DecidableEq, Repr

/-- The text of a step. -/
def Step.print : Step → String
  | .name s => s
  | .index n => toString n

/-- A step as JSON. -/
def Step.toJson : Step → Json
  | .name s => .text s
  | .index n => .count n

/-- A cause of complaint. -/
inductive Complaint where
  /-- A required field is absent. -/
  | missing
  /-- Not a string. -/
  | notText
  /-- A string shorter than the given length. -/
  | textTooShort (least : Nat)
  /-- Not an integer and not convertible to one. -/
  | notInt
  /-- A string that does not spell an integer. -/
  | unreadableInt
  /-- A string or number too long to be an integer. -/
  | oversizedInt
  /-- A number with a fractional part. -/
  | fractionalInt
  /-- An infinite or undefined number. -/
  | notFinite
  | notAbove (bound : Int)
  /-- Below a lower bound. -/
  | below (bound : Int)
  /-- Above an upper bound. -/
  | above (bound : Int)
  /-- Not a truth value and not convertible to one. -/
  | notBool
  /-- A value that does not spell a truth value. -/
  | unreadableBool
  | notNumber
  /-- A string that does not spell a number. -/
  | unreadableNumber
  /-- Not an array. -/
  | notList
  /-- An array shorter than the given length. -/
  | listTooShort (least actual : Nat)
  | notObject
  /-- Not an object where one of the named shape is wanted. -/
  | notShape (title : String)
  /-- Not an object where a command or a whole body is wanted. -/
  | notAttributes
  /-- A command without a kind. -/
  | noTag
  /-- A command of a kind that does not exist. -/
  | unknownTag (tag : String)
  /-- None of the words that are allowed. -/
  | notOneOf (words : List String)
  /-- None of the members of an enumeration. -/
  | notMember (words : List String)
  /-- A rule about the whole object is broken. -/
  | broken (rule : String)
  /-- Nested too deeply. -/
  | tooDeep
deriving DecidableEq, Repr

/-- Words in quotes, with commas between them and `or` before the last. -/
def alternatives : List String → String
  | [] => ""
  | [w] => "'" ++ w ++ "'"
  | [v, w] => "'" ++ v ++ "' or '" ++ w ++ "'"
  | w :: rest => "'" ++ w ++ "', " ++ alternatives rest

namespace Complaint

/-- The code of a complaint. -/
def code : Complaint → String
  | .missing => "missing"
  | .notText => "string_type"
  | .textTooShort _ => "string_too_short"
  | .notInt => "int_type"
  | .unreadableInt => "int_parsing"
  | .oversizedInt => "int_parsing_size"
  | .fractionalInt => "int_from_float"
  | .notFinite => "finite_number"
  | .notAbove _ => "greater_than"
  | .below _ => "greater_than_equal"
  | .above _ => "less_than_equal"
  | .notBool => "bool_type"
  | .unreadableBool => "bool_parsing"
  | .notNumber => "float_type"
  | .unreadableNumber => "float_parsing"
  | .notList => "list_type"
  | .listTooShort .. => "too_short"
  | .notObject => "dict_type"
  | .notShape _ => "model_type"
  | .notAttributes => "model_attributes_type"
  | .noTag => "union_tag_not_found"
  | .unknownTag _ => "union_tag_invalid"
  | .notOneOf _ => "literal_error"
  | .notMember _ => "enum"
  | .broken _ => "value_error"
  | .tooDeep => "recursion_depth_exceeded"

/-- A count with its noun. -/
def counted (n : Nat) (noun : String) : String :=
  toString n ++ " " ++ noun ++ (if n = 1 then "" else "s")

/-- The message of a complaint. -/
def message : Complaint → String
  | .missing => "Field required"
  | .notText => "Input should be a valid string"
  | .textTooShort n => "String should have at least " ++ counted n "character"
  | .notInt => "Input should be a valid integer"
  | .unreadableInt => "Input should be a valid integer, unable to parse string as an integer"
  | .oversizedInt => "Unable to parse input string as an integer, exceeded maximum size"
  | .fractionalInt => "Input should be a valid integer, got a number with a fractional part"
  | .notFinite => "Input should be a finite number"
  | .notAbove n => "Input should be greater than " ++ toString n
  | .below n => "Input should be greater than or equal to " ++ toString n
  | .above n => "Input should be less than or equal to " ++ toString n
  | .notBool => "Input should be a valid boolean"
  | .unreadableBool => "Input should be a valid boolean, unable to interpret input"
  | .notNumber => "Input should be a valid number"
  | .unreadableNumber => "Input should be a valid number, unable to parse string as a number"
  | .notList => "Input should be a valid list"
  | .listTooShort least actual =>
      "List should have at least " ++ counted least "item" ++ " after validation, not " ++ toString actual
  | .notObject => "Input should be a valid dictionary"
  | .notShape title => "Input should be a valid dictionary or instance of " ++ title
  | .notAttributes => "Input should be a valid dictionary or object to extract fields from"
  | .noTag => "Unable to extract tag using discriminator 'kind'"
  | .unknownTag tag =>
      "Input tag '" ++ tag ++ "' found using 'kind' does not match any of the expected tags: " ++
        "'query', 'mutate', 'batch'"
  | .notOneOf words | .notMember words => "Input should be " ++ alternatives words
  | .broken rule => "Value error, " ++ rule
  | .tooDeep => "Recursion error - maximum validation depth exceeded"

end Complaint

/-- A complaint about a place. -/
structure Issue where
  /-- The way to the place, from the outside in. -/
  path : List Step
  /-- What is wrong there. -/
  complaint : Complaint
deriving DecidableEq, Repr

namespace Issue

/-- A complaint about the value at hand. -/
def here (c : Complaint) : Issue := ⟨[], c⟩

/-- The same complaint seen from one step further out. -/
def under (s : Step) (i : Issue) : Issue := { i with path := s :: i.path }

/-- An issue in full. -/
def toJson (i : Issue) : Json :=
  .object [("type", .text i.complaint.code), ("loc", .list (i.path.map Step.toJson)),
    ("msg", .text i.complaint.message)]

end Issue

/-- All that is wrong with a payload of a kind. -/
structure Report where
  /-- The name of the kind of payload. -/
  title : String
  /-- The issues, in order. -/
  issues : List Issue
deriving Repr

namespace Report

/-- The lines about one issue. -/
def issueLines (i : Issue) : List String :=
  (if i.path.isEmpty then [] else [".".intercalate (i.path.map Step.print)]) ++
    ["  " ++ i.complaint.message ++ " [type=" ++ i.complaint.code ++ "]"]

/-- The report as one text. The validation library says more in its own text: behind the type of an
issue it tells the value and the type of the value that was given, and on a line of its own where to
read about it. Both are left out here. -/
def message (r : Report) : String :=
  let heading := Complaint.counted r.issues.length "validation error" ++ " for " ++ r.title
  "\n".intercalate (heading :: r.issues.flatMap issueLines)

end Report

end Tenancy.Validation
