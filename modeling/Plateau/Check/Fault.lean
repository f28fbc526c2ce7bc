namespace Plateau

inductive Expected where
  | object
  | instanceOf (name : String)
  deriving DecidableEq, Repr

inductive Problem where
  | missing
  | boolParsing
  | boolType
  | intParsing
  | intParsingSize
  | intType
  | intFromFloat
  | finiteNumber
  | stringType
  | listType
  | literal (expected : String)
  | belowMinimum (least : Int)
  | modelType (expected : Expected)
  | dictType
  | tagMissing (field : String)
  | tagUnknown (field tag : String) (known : List String)
  | extraForbidden
  | invalidJson
  deriving DecidableEq, Repr

namespace Problem

def code : Problem → String
  | missing => "missing"
  | boolParsing => "bool_parsing"
  | boolType => "bool_type"
  | intParsing => "int_parsing"
  | intParsingSize => "int_parsing_size"
  | intType => "int_type"
  | intFromFloat => "int_from_float"
  | finiteNumber => "finite_number"
  | stringType => "string_type"
  | listType => "list_type"
  | literal _ => "literal_error"
  | belowMinimum _ => "greater_than_equal"
  | modelType _ => "model_type"
  | dictType => "dict_type"
  | tagMissing _ => "union_tag_not_found"
  | tagUnknown .. => "union_tag_invalid"
  | extraForbidden => "extra_forbidden"
  | invalidJson => "json_invalid"

def message : Problem → String
  | missing => "Field required"
  | boolParsing => "Input should be a valid boolean, unable to interpret input"
  | boolType => "Input should be a valid boolean"
  | intParsing => "Input should be a valid integer, unable to parse string as an integer"
  | intParsingSize => "Unable to parse input string as an integer, exceeded maximum size"
  | intType => "Input should be a valid integer"
  | intFromFloat => "Input should be a valid integer, got a number with a fractional part"
  | finiteNumber => "Input should be a finite number"
  | stringType => "Input should be a valid string"
  | listType => "Input should be a valid array"
  | literal expected => s!"Input should be '{expected}'"
  | belowMinimum least => s!"Input should be greater than or equal to {least}"
  | modelType .object => "Input should be an object"
  | modelType (.instanceOf name) => s!"Input should be a valid dictionary or instance of {name}"
  | dictType => "Input should be an object"
  | tagMissing field => s!"Unable to extract tag using discriminator '{field}'"
  | tagUnknown field tag known =>
    s!"Input tag '{tag}' found using '{field}' does not match any of the expected tags: " ++
      ", ".intercalate (known.map fun k => s!"'{k}'")
  | extraForbidden => "Extra inputs are not permitted"
  | invalidJson => "Invalid JSON"

end Problem

structure Fault where
  place : List String
  problem : Problem
  deriving DecidableEq, Repr

namespace Fault

def within (step : String) (f : Fault) : Fault :=
  { f with place := step :: f.place }

/-- By place, then by kind of problem. -/
def before (f g : Fault) : Bool :=
  f.place < g.place || (f.place == g.place && f.problem.code ≤ g.problem.code)

end Fault

end Plateau
