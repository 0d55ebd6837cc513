/-!
# Faults of client data

What can be wrong with a single value of a client's data, and where it stands.
-/

namespace SchoolRegistry

/-- What is wrong with a value. -/
inductive FaultCode where
  /-- A required field is absent. -/
  | missing
  /-- The value is not a text. -/
  | stringType
  /-- The value is no term of the vocabulary. -/
  | enumTerm
  /-- The text or number is neither yes nor no. -/
  | boolParsing
  /-- The value can be neither yes nor no. -/
  | boolType
  /-- The text is no whole number. -/
  | intParsing
  /-- The number has a fraction. -/
  | intFromFloat
  /-- The number is infinite. -/
  | finiteNumber
  /-- The value is no whole number. -/
  | intType
  /-- The value is no list. -/
  | listType
  /-- The value is no table. -/
  | dictType
  /-- The value is neither a table nor an instance of the model. -/
  | modelType
  /-- The value cannot be a day. -/
  | dateType
  /-- The day lies before the calendar. -/
  | dateParsing
  /-- The text or number names neither a day nor a moment. -/
  | dateFromDatetimeParsing
  /-- The moment is not the start of a day. -/
  | dateFromDatetimeInexact
  /-- The value cannot be a moment. -/
  | datetimeType
  /-- The moment lies outside the calendar. -/
  | datetimeParsing
  /-- The text names no moment. -/
  | datetimeFromDateParsing
  /-- The number is not above the bound. -/
  | greaterThan
  /-- The fields do not fit together. -/
  | valueError
  /-- There is no such attribute to assign. -/
  | noSuchAttribute
  /-- The instance cannot be changed. -/
  | frozenInstance
deriving DecidableEq

/-- The text by which clients know a fault. -/
def FaultCode.text : FaultCode → String
  | missing => "missing"
  | stringType => "string_type"
  | enumTerm => "enum"
  | boolParsing => "bool_parsing"
  | boolType => "bool_type"
  | intParsing => "int_parsing"
  | intFromFloat => "int_from_float"
  | finiteNumber => "finite_number"
  | intType => "int_type"
  | listType => "list_type"
  | dictType => "dict_type"
  | modelType => "model_type"
  | dateType => "date_type"
  | dateParsing => "date_parsing"
  | dateFromDatetimeParsing => "date_from_datetime_parsing"
  | dateFromDatetimeInexact => "date_from_datetime_inexact"
  | datetimeType => "datetime_type"
  | datetimeParsing => "datetime_parsing"
  | datetimeFromDateParsing => "datetime_from_date_parsing"
  | greaterThan => "greater_than"
  | valueError => "value_error"
  | noSuchAttribute => "no_such_attribute"
  | frozenInstance => "frozen_instance"

/-- A fault and the names that lead to it from the whole. -/
structure Fault where
  path : List String
  code : FaultCode
deriving DecidableEq

namespace Fault

/-- A fault of the value itself. -/
def here (code : FaultCode) : Fault := ⟨[], code⟩

/-- The fault seen from the value that holds the faulty one under a name. -/
def under (name : String) (f : Fault) : Fault := ⟨name :: f.path, f.code⟩

/-- The dotted path of the fault. -/
def location (f : Fault) : String := ".".intercalate f.path

end Fault

end SchoolRegistry
