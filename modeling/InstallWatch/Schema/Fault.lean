import InstallWatch.Data

/-!
What can be wrong with a piece of data, and where it stands.
-/

namespace InstallWatch.Schema

inductive Complaint where
  | missing
  | notText
  | notUtf8
  | notWhole
  | unreadableWhole
  | tooManyDigits
  | fractional
  | notFinite
  | notNumber
  | unreadableNumber
  | notAbove (bound : Nat)
  | below (bound : Nat)
  | notFlag
  | unreadableFlag
  | notMapping
  | notList
  | notRecord (title : String)
  | keyNotText
deriving DecidableEq

namespace Complaint

/-- A short name for the kind of complaint. -/
def code : Complaint → String
  | missing => "missing"
  | notText => "string_type"
  | notUtf8 => "string_unicode"
  | notWhole => "int_type"
  | unreadableWhole => "int_parsing"
  | tooManyDigits => "int_parsing_size"
  | fractional => "int_from_float"
  | notFinite => "finite_number"
  | notNumber => "float_type"
  | unreadableNumber => "float_parsing"
  | notAbove _ => "greater_than"
  | below _ => "greater_than_equal"
  | notFlag => "bool_type"
  | unreadableFlag => "bool_parsing"
  | notMapping => "dict_type"
  | notList => "list_type"
  | notRecord _ => "model_type"
  | keyNotText => "invalid_key"

def message : Complaint → String
  | missing => "Field required"
  | notText => "Input should be a valid string"
  | notUtf8 => "Input should be a valid string, unable to parse raw data as a unicode string"
  | notWhole => "Input should be a valid integer"
  | unreadableWhole => "Input should be a valid integer, unable to parse string as an integer"
  | tooManyDigits => "Unable to parse input string as an integer, exceeded maximum size"
  | fractional => "Input should be a valid integer, got a number with a fractional part"
  | notFinite => "Input should be a finite number"
  | notNumber => "Input should be a valid number"
  | unreadableNumber => "Input should be a valid number, unable to parse string as a number"
  | notAbove bound => "Input should be greater than " ++ toString bound
  | below bound => "Input should be greater than or equal to " ++ toString bound
  | notFlag => "Input should be a valid boolean"
  | unreadableFlag => "Input should be a valid boolean, unable to interpret input"
  | notMapping => "Input should be a valid dictionary"
  | notList => "Input should be a valid list"
  | notRecord title => "Input should be a valid dictionary or instance of " ++ title
  | keyNotText => "Keys should be strings"

end Complaint

structure Fault where
  /-- The keys and positions that lead to the place, from the outside in. -/
  path : List String
  complaint : Complaint
deriving DecidableEq

def Fault.under (step : String) (f : Fault) : Fault := { f with path := step :: f.path }

/-- How the refusal of a record is put into words, which is for those who check records to say. -/
class Wording where
  /-- What is said of a record by its title, the data it was to be read from, and the faults of these data. -/
  refusal : (title : String) → Data → List Fault → String

/-- The faults of a record in one phrase: how many there are, and the record's title. -/
def summary (title : String) (faults : List Fault) : String :=
  toString faults.length ++
    (if faults.length = 1 then " validation error for " else " validation errors for ") ++ title

/-- A refusal says no more than that there are faults, and how many. -/
@[reducible]
def Wording.brief : Wording := ⟨fun title _ faults => summary title faults⟩

end InstallWatch.Schema
