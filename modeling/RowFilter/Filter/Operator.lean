import RowFilter.Table

/-! The closed set of filter operators, the operands they take and the kinds they suit. -/

namespace RowFilter

/-- A filter operator. -/
inductive Operator where
  | equal
  | notEqual
  | less
  | lessEqual
  | greater
  | greaterEqual
  | oneOf
  | noneOf
  | between
  | notBetween
  | like
  | notLike
  | isNull
deriving DecidableEq

/-- What an operator takes. -/
inductive Shape where
  | scalar
  /-- A text, or a number that is written out. -/
  | pattern
  | list
  /-- A low and a high bound. -/
  | range
  | flag
deriving DecidableEq

namespace Shape

/-- The name of a shape. -/
def name : Shape → String
  | .scalar => "scalar"
  | .pattern => "pattern"
  | .list => "list"
  | .range => "range"
  | .flag => "flag"

/-- The name of a shape as messages write it. -/
def title : Shape → String
  | .scalar => "Scalar"
  | .pattern => "Pattern"
  | .list => "List"
  | .range => "Range"
  | .flag => "Flag"

end Shape

namespace Operator

/-- All operators, in the order in which they are listed. -/
def all : List Operator :=
  -- An operator and its opposite stand next to each other, and so do those of one shape.
  [.equal, .notEqual, .less, .lessEqual, .greater, .greaterEqual, .oneOf, .noneOf, .between,
    .notBetween, .like, .notLike, .isNull]

/-- The key of an operator in filters. -/
def symbol : Operator → String
  | .equal => "$eq"
  | .notEqual => "$neq"
  | .less => "$lt"
  | .lessEqual => "$lte"
  | .greater => "$gt"
  | .greaterEqual => "$gte"
  | .oneOf => "$in"
  | .noneOf => "$nin"
  | .between => "$between"
  | .notBetween => "$nbetween"
  | .like => "$like"
  | .notLike => "$nlike"
  | .isNull => "$isNull"

/-- Finds an operator by its key. -/
def ofSymbol? (text : String) : Option Operator := all.find? (·.symbol == text)

/-- What an operator takes. -/
def shape : Operator → Shape
  -- An operator and its opposite take the same.
  | .equal | .notEqual | .less | .lessEqual | .greater | .greaterEqual => .scalar
  | .oneOf | .noneOf => .list
  | .between | .notBetween => .range
  | .like | .notLike => .pattern
  | .isNull => .flag

/-- Whether fields of a kind can be listed and searched. -/
def isListable : Kind → Bool
  -- Truth values have too few values for a list, and documents no order or text.
  | .string | .number | .date => true
  | .boolean | .json => false

/-- Whether fields of a kind can be ordered. -/
def isOrderable : Kind → Bool
  -- Texts are not ordered by operators.
  | .number | .date => true
  | .string | .boolean | .json => false

/-- Whether an operator is meaningful for fields of a kind. -/
def appliesTo (kind : Kind) : Operator → Bool
  -- Whether a value is there can be asked of every field.
  | .equal | .notEqual | .isNull => true
  | .oneOf | .noneOf | .like | .notLike => isListable kind
  | .less | .lessEqual | .greater | .greaterEqual | .between | .notBetween => isOrderable kind

/-- The operators that are meaningful for a kind. -/
def forKind (kind : Kind) : List Operator := all.filter (·.appliesTo kind)

end Operator

end RowFilter
