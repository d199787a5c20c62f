import RowFilter.Filter.Error
import RowFilter.Filter.Expression
import RowFilter.Json.Reader

/-! Reading filters from JSON: the shape of every value is decided here, once. -/

namespace RowFilter

/-- The text for a value that is no projection. -/
def noProjection : String := "data did not match any variant of untagged enum Raw"

/-- The text of a string document. -/
def Json.text? : Json → Option String
  -- Nothing but a string is taken for a name.
  | .string text => some text
  | _ => none

/-- A name, or a list of names. -/
def Projection.ofJson? : Json → Option Projection
  -- One item that is no name spoils the list.
  | .string name => some (.ofName name)
  | .array items => (items.mapM Json.text?).map .ofNames
  | _ => none

namespace Operand

/-- The literals of a list. -/
def scalars (fault : FilterError) (items : List Json) : Except FilterError (List Scalar) :=
  -- One fault serves for all items, since it does not tell which of them is wrong.
  items.mapM fun item =>
    match Scalar.ofJson? item with
    | some value => .ok value
    | none => .error fault

/-- The operand of an operator on a field, in the shape that the operator takes. -/
def ofJson (field : String) (operator : Operator) (value : Json) : Except FilterError Operand :=
  let invalid (reason : String) := FilterError.invalidOperand field operator.symbol reason
  -- The shape decides what is expected, and the fault tells what that would have been.
  match operator.shape, value with
  | .scalar, value =>
    match Scalar.ofJson? value with
    | some literal => .ok (.scalar literal)
    | none => .error (invalid "expected a scalar value")
  | .pattern, .string text => .ok (.scalar (.text text))
  -- A whole number is a literal whatever its size.
  | .pattern, .integer number => .ok (.scalar ((Scalar.ofJson? (.integer number)).getD .null))
  | .pattern, .float number => .ok (.scalar (.float number))
  | .pattern, _ => .error (invalid "expected a string or number pattern")
  | .flag, .bool value => .ok (.flag value)
  | .flag, _ => .error (invalid "expected a boolean")
  | .list, .array items => do
    let values ← scalars (invalid "expected scalar items") items
    return .list values
  | .list, _ => .error (invalid "expected an array")
  -- A range has exactly two bounds, of which each may be null.
  | .range, .array [low, high] =>
    match Scalar.ofJson? low, Scalar.ofJson? high with
    | some low, some high => .ok (.range low high)
    | _, _ => .error (invalid "range bounds must be scalars")
  | .range, _ => .error (invalid "expected a [low, high] pair")

/-- The JSON spelling of an operand. -/
def toJson : Operand → Json
  -- The shape of the operator tells lists and ranges apart, so that they may be spelled alike.
  | .scalar value => value.toJson
  | .list items => .array (items.map Scalar.toJson)
  | .range low high => .array [low.toJson, high.toJson]
  | .flag value => .bool value

end Operand

namespace Condition

/-- The operators of an object; unknown keys and null operands are passed over. -/
def operatorsOf (field : String) : Members → Except FilterError (List (Operator × Operand))
  -- A key that is no operator is no error.
  | [] => .ok []
  | (key, value) :: rest =>
    match Operator.ofSymbol? key with
    | none => operatorsOf field rest
    | some operator =>
      -- Null leaves the operator out, instead of comparing with null.
      if value = .null then operatorsOf field rest
      else do
        let operand ← Operand.ofJson field operator value
        let others ← operatorsOf field rest
        return (operator, operand) :: others

/-- An object with a known operator holds operators, any other object nothing. -/
def ofJson (field : String) : Json → Except FilterError Condition
  -- Without this look at the keys, an empty list of operators would be read.
  | .object members =>
    if members.any fun (key, _) => (Operator.ofSymbol? key).isSome then do
      let entries ← operatorsOf field members
      return .operators entries
    else .ok .unconstrained
  | .array _ => .error (.invalidValue field "arrays are only valid as operator operands")
  | value => .ok (.equals ((Scalar.ofJson? value).getD .null))

/-- The JSON spelling of a condition. -/
def toJson : Condition → Json
  | .equals value => value.toJson
  | .operators entries =>
    -- An operator that is there twice is written once, with its last operand.
    .object (Members.collect (entries.map fun (operator, operand) =>
      (operator.symbol, operand.toJson)))
  | .unconstrained => .object []

end Condition

namespace Search

/-- A number or a text, which chosen fields can be searched for. -/
def valueOf? : Json → Option Scalar
  -- There is nothing to look for in null or in a truth value.
  | .string text => some (.text text)
  | .integer number => Scalar.ofJson? (.integer number)
  | .float number => some (.float number)
  | _ => none

/-- A literal searches everywhere, and an object names its fields and its value. -/
def ofJson : Json → Except FilterError Search
  | .object members => do
    -- The fields are looked at before the value, and other keys are passed over.
    let fields ←
      match Members.get? members "selectedFields" with
      | some value => pure value
      | none => throw (.invalidSearch "missing selectedFields")
    let fields ←
      match Projection.ofJson? fields with
      | some projection => pure projection
      | none => throw (.invalidSearch noProjection)
    match (Members.get? members "value").bind valueOf? with
    | some value => return .within fields value
    | none => throw (.invalidSearch notSearchable)
  | .array _ => .error (.invalidSearch "expected a scalar or \x7bselectedFields, value\x7d")
  | value => .ok (.everywhere ((Scalar.ofJson? value).getD .null))

/-- The JSON spelling of a search. -/
def toJson : Search → Json
  -- A search everywhere is spelled by its literal alone.
  | .everywhere value => value.toJson
  | .within fields value =>
    .object [("selectedFields", fields.toJson), ("value", value.toJson)]

end Search

namespace Clause

/-- The entry of one key. -/
def entryOf (key : String) (value : Json) : Except FilterError Entry :=
  -- The key of searches is taken even if the table has a field of that name.
  if key = searchKey then (Search.ofJson value).map .search
  else (Condition.ofJson key value).map (.field key)

/-- The clause of an object. -/
def ofJson : Json → Except FilterError Clause
  -- The entries are in the order of the object, and the first fault counts.
  | .object members => members.mapM fun (key, value) => entryOf key value
  | other => .error (.invalidClause other.typeName)

/-- The key and the JSON spelling of an entry. -/
def memberOf : Entry → String × Json
  -- Two entries on one field have the same key.
  | .field name condition => (name, condition.toJson)
  | .search term => (searchKey, term.toJson)

/-- The JSON spelling of a clause. -/
def toJson (clause : Clause) : Json := .object (Members.collect (clause.map memberOf))

end Clause

namespace Filter

/-- An array is a choice between clauses, and an object is one clause. -/
def ofJson : Json → Except FilterError Filter
  -- A document that is neither is reported as a clause that is no object.
  | .array items => (items.mapM Clause.ofJson).map .anyOf
  | other => (Clause.ofJson other).map .clause

/-- The JSON spelling of a filter. -/
def toJson : Filter → Json
  -- One clause is spelled without an array around it.
  | .clause entries => Clause.toJson entries
  | .anyOf clauses => .array (clauses.map Clause.toJson)

/-- Whether a document has more clauses than a filter may have. -/
def hasTooManyClauses : Json → Bool
  -- An object has one clause, whatever its size.
  | .array items => maxFilterClauses < items.length
  | _ => false

/-- Reads the text of a filter: its size is checked first, then its JSON, then its clauses. -/
def parse (text : String) : Except FilterError Filter :=
  -- The size is known without reading, and no broken JSON is told of a text that is too large.
  if maxFilterBytes < text.utf8ByteSize then .error (.tooLarge maxFilterBytes)
  else
    match Json.read text with
    | .error fault => .error (.json fault.message)
    | .ok document =>
      if hasTooManyClauses document then .error (.tooManyClauses maxFilterClauses)
      else ofJson document

end Filter

end RowFilter
