/-!
What is wrong with the value of a named field, when a descriptor, a node or the settings are made from given values.
-/

namespace CommandTree

/-- Why a value does not do for a field. -/
inductive FieldProblem.Reason where
  | missing
  | unknownChoice
  | tooSmall
  | tooLarge
  | fractional
  | notFinite
  -- the floating-point number is beyond the integers that are made from such numbers
  | oversized
  -- the integer is beyond the floating-point numbers
  | notFloating
  | notBoolean
  -- the value is of a sort that stands for no truth value
  | notTruth
  | notText
  | notObject
  | unknownField
  | frozen
  | refused (message : String)
  deriving DecidableEq, Repr

/-- A field and what is wrong with its value. -/
structure FieldProblem where
  path : List String
  reason : FieldProblem.Reason
  deriving DecidableEq, Repr

/-- The wording of a problem, for the kinds that are reported in words. -/
def FieldProblem.Reason.message : FieldProblem.Reason → String
  | missing => "Field required"
  | unknownChoice => "Input should be one of the known choices"
  | tooSmall => "Input should be greater than or equal to the least value"
  | tooLarge => "Input should be less than or equal to the greatest value"
  | fractional => "Input should be a valid integer, got a number with a fractional part"
  | notFinite => "Input should be a finite number"
  | oversized => "Unable to parse input string as an integer, exceeded maximum size"
  | notFloating => "Input should be a valid number"
  | notBoolean => "Input should be a valid boolean, unable to interpret input"
  | notTruth => "Input should be a valid boolean"
  | notText => "Input should be a valid string"
  | notObject => "Input should be a valid dictionary or instance of OpenTelemetrySettings"
  | unknownField => "Extra inputs are not permitted"
  | frozen => "Instance is frozen"
  | refused message => "Value error, " ++ message

end CommandTree
