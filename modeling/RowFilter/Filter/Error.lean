/-! What may be wrong with a filter. -/

namespace RowFilter

/-- The most bytes that the text of a filter may have. -/
def maxFilterBytes : Nat := 65536

/-- The most clauses that a filter may have. -/
def maxFilterClauses : Nat := 50

/-- What is wrong with a filter. -/
inductive FilterError where
  | invalidClause (found : String)
  | invalidValue (field reason : String)
  | invalidOperand (field operator reason : String)
  | invalidSearch (reason : String)
  | tooLarge (limit : Nat)
  | tooManyClauses (limit : Nat)
  | json (reason : String)
deriving DecidableEq

/-- The name of what is wrong. -/
def FilterError.name : FilterError → String
  -- The names leave out where the error is, which only the wording tells.
  | .invalidClause _ => "InvalidClause"
  | .invalidValue _ _ => "InvalidValue"
  | .invalidOperand _ _ _ => "InvalidOperand"
  | .invalidSearch _ => "InvalidSearch"
  | .tooLarge _ => "TooLarge"
  | .tooManyClauses _ => "TooManyClauses"
  | .json _ => "Json"

/-- The wording of a filter error. -/
def FilterError.message : FilterError → String
  -- A message names the field and the operator as the filter spells them.
  | .invalidClause found => s!"Filter clause must be a JSON object, got {found}"
  | .invalidValue field reason => s!"Invalid value for field '{field}': {reason}"
  | .invalidOperand field operator reason =>
    s!"Invalid operand for {operator} on field '{field}': {reason}"
  | .invalidSearch reason => s!"Invalid $q search: {reason}"
  | .tooLarge limit => s!"Filter JSON exceeds maximum size of {limit} bytes"
  | .tooManyClauses limit => s!"Maximum {limit} filter clauses allowed"
  | .json reason => s!"Invalid filter JSON: {reason}"

/-- The reason given for a value that cannot be searched in chosen fields. -/
def Search.notSearchable : String := "value must be a string or number"

end RowFilter
