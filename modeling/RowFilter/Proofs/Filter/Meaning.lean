import RowFilter.Filter.Compile
import RowFilter.Predicate.Truth

/-! What a filter says about a row, told without the conditions it compiles to. -/

namespace RowFilter

/-- What a database makes of values that are present: any equality, order and pattern test. -/
structure Interpretation (Value : Type) where
  /-- The value of a parameter, which may be read as a point in time. -/
  bound : Parameter → Bool → Value
  equal : Value → Value → Bool
  less : Value → Value → Bool
  /-- Whether a value, once it is presented as asked for, fits a pattern. -/
  like : Cast → Value → String → Bool

namespace Interpretation

variable {Value : Type} (interpretation : Interpretation Value)

/-- The comparisons, all of which come from equality and order. -/
def relates : Comparison → Value → Value → Bool
  -- Only the two relations are given, and the others are spelled in them.
  | .equal, left, right => interpretation.equal left right
  | .notEqual, left, right => !interpretation.equal left right
  | .greater, left, right => interpretation.less right left
  | .greaterEqual, left, right => interpretation.less right left || interpretation.equal left right
  | .less, left, right => interpretation.less left right
  | .lessEqual, left, right => interpretation.less left right || interpretation.equal left right

/-- What the tests of single columns yield on a row; a test of a missing value is unknown. -/
def tests (row : String → Option Value) : RowTests where
  -- A missing value is unknown to every test but that for null.
  compare column comparison parameter temporal :=
    match row column with
    | some value =>
      .ofBool (interpretation.relates comparison value (interpretation.bound parameter temporal))
    | none => .unknown
  isNull column := (row column).isNone
  like column cast pattern :=
    match row column with
    | some value => .ofBool (interpretation.like cast value pattern)
    | none => .unknown

/-- Whether a value stands in a relation to a literal, which takes both of them to be present. -/
def meets (comparison : Comparison) (temporal : Bool) (value : Option Value) (literal : Scalar) :
    Bool :=
  -- Null on either side meets nothing, not even null.
  match value, literal.toParameter? with
  | some present, some parameter =>
    interpretation.relates comparison present (interpretation.bound parameter temporal)
  | _, _ => false

/-- Whether a value lies between two literals, both of them included. -/
def isWithin (temporal : Bool) (value : Option Value) (low high : Scalar) : Bool :=
  -- Both ends have to be met, so that null at either of them excludes every value.
  interpretation.meets .greaterEqual temporal value low
    && interpretation.meets .lessEqual temporal value high

/-- Whether a value is equal to one of several literals. -/
def isAmong (temporal : Bool) (value : Option Value) (items : List Scalar) : Bool :=
  -- No item at all makes this false, as no value is among none.
  items.any (interpretation.meets .equal temporal value)

end Interpretation

/-- How a column is presented when it is searched for a text, and what is then looked for: dates are
searched in their canonical form, and what is declared to be no text is turned into text. -/
def searchForm : Option Kind → String → Cast × String
  -- The kind decides, and where there is none the text itself does.
  | some .string, text => (.none, text)
  | some .date, text => (.dateText, (DateText.canonical? text).getD text)
  | some .number, text | some .boolean, text | some .json, text => (.text, text)
  | none, text =>
    match DateText.canonical? text with
    | some canonical => (.dateText, canonical)
    | none => (.none, text)

variable {Value : Type}

/-- Whether a text is found in a value of a column of a kind. -/
def Interpretation.finds (interpretation : Interpretation Value) (kind : Option Kind)
    (value : Option Value) (text : String) : Bool :=
  -- The pattern is fixed by what is looked for, and a missing value is never found.
  let (cast, needle) := searchForm kind text
  value.any fun present => interpretation.like cast present (containsPattern needle)

/-- What an operator says about the value of a column of a kind, if it says anything. -/
def Operator.meaning? (interpretation : Interpretation Value) (kind : Option Kind)
    (value : Option Value) : Operator → Operand → Option Bool
  | .equal, .scalar .null => some value.isNone
  | .notEqual, .scalar .null => some value.isSome
  | .equal, .scalar literal =>
    some (interpretation.meets .equal (literal.isTemporal kind) value literal)
  | .notEqual, .scalar literal =>
    some (interpretation.meets .notEqual (literal.isTemporal kind) value literal)
  | .less, .scalar literal =>
    some (interpretation.meets .less (literal.isTemporal kind) value literal)
  | .lessEqual, .scalar literal =>
    some (interpretation.meets .lessEqual (literal.isTemporal kind) value literal)
  | .greater, .scalar literal =>
    some (interpretation.meets .greater (literal.isTemporal kind) value literal)
  | .greaterEqual, .scalar literal =>
    some (interpretation.meets .greaterEqual (literal.isTemporal kind) value literal)
  -- One item that is a point in time has all of them read as such.
  | .oneOf, .list items =>
    some (interpretation.isAmong (items.any (·.isTemporal kind)) value items)
  | .noneOf, .list items =>
    if items.all (· = .null) then none
    else
      some (value.isSome && !interpretation.isAmong (items.any (·.isTemporal kind)) value items)
  | .between, .range low high =>
    some (interpretation.isWithin (low.isTemporal kind || high.isTemporal kind) value low high)
  | .notBetween, .range low high =>
    some (value.isSome && low != .null && high != .null
      && !interpretation.isWithin (low.isTemporal kind || high.isTemporal kind) value low high)
  | .like, .scalar literal => literal.patternText?.map (interpretation.finds kind value)
  | .notLike, .scalar literal =>
    literal.patternText?.map fun text => value.isSome && !interpretation.finds kind value text
  | .isNull, .flag wanted => some (value.isNone == wanted)
  | _, _ => none

/-- All that a condition says about the value of a column of a kind. -/
def Condition.meanings (interpretation : Interpretation Value) (kind : Option Kind)
    (value : Option Value) : Condition → List Bool
  -- A literal says what the operator for equality would say.
  | .equals literal => (Operator.meaning? interpretation kind value .equal (.scalar literal)).toList
  | .operators entries =>
    entries.filterMap fun (operator, operand) => operator.meaning? interpretation kind value operand
  | .unconstrained => []

/-- What a search says about a row, if it looks for anything. -/
def Search.meaning? (interpretation : Interpretation Value) (table : Table)
    (row : String → Option Value) : Search → Option Bool
  -- Only a search that looks for something has a meaning.
  | .everywhere literal =>
    if literal.isTruthy then
      some (table.fields.any fun field =>
        interpretation.finds (some field.kind) (row field.name) (textOf literal))
    else none
  | .within _ (.text "") => none
  | .within fields (.text text) =>
    some ((fields.resolve table).any fun column =>
      interpretation.finds (table.kindOf? column) (row column) text)
  | .within fields literal =>
    some ((fields.resolve table).any fun column =>
      interpretation.meets .equal false (row column) literal)

/-- All that one entry of a clause says about a row. -/
def Entry.meanings (interpretation : Interpretation Value) (table : Table)
    (row : String → Option Value) : Entry → List Bool
  -- Several operators of one field each say something of their own.
  | .field name condition => condition.meanings interpretation (table.kindOf? name) (row name)
  | .search term => (term.meaning? interpretation table row).toList

/-- All that a clause says about a row. -/
def Clause.meanings (interpretation : Interpretation Value) (table : Table)
    (row : String → Option Value) (clause : Clause) : List Bool :=
  -- All of what its entries say is held against the row.
  clause.flatMap (Entry.meanings interpretation table row)

/-- Whether no search of a clause looks in an empty choice of fields. -/
def Clause.NamesFields (clause : Clause) : Prop :=
  -- Such a search has nowhere to look, and is left out of what holds here.
  ∀ literal, .search (.within (.columns []) literal) ∉ clause

namespace Filter

/-- Whether a filter holds on a row: a choice goes by the clauses that say anything at all. -/
def holds (interpretation : Interpretation Value) (table : Table) (row : String → Option Value) :
    Filter → Bool
  -- A clause that says nothing is no branch of a choice, and a choice of no branches holds.
  | .clause entries => (Clause.meanings interpretation table row entries).all id
  | .anyOf clauses =>
    let telling := (clauses.map (Clause.meanings interpretation table row)).filter (!·.isEmpty)
    telling.isEmpty || telling.any (·.all id)

/-- The clauses of a filter. -/
def clauses : Filter → List Clause
  -- A single clause is read as a choice with one branch.
  | .clause entries => [entries]
  | .anyOf clauses => clauses

/-- Whether no search of a filter looks in an empty choice of fields. -/
def NamesFields (filter : Filter) : Prop := ∀ clause ∈ filter.clauses, Clause.NamesFields clause

end Filter

/-- Exactly the literals that are not null bind a value. -/
@[simp] theorem Scalar.isSome_toParameter? (literal : Scalar) :
    literal.toParameter?.isSome = (literal != .null) := by
  -- By the kinds of literals, only one of which is not bound.
  cases literal <;> rfl

/-- The literals that bind no value are those that are null. -/
theorem Scalar.isEmpty_filterMap (items : List Scalar) :
    (items.filterMap Scalar.toParameter?).isEmpty = items.all (· = .null) := by
  -- Each item is kept exactly if it is not null.
  induction items with
  | nil => rfl
  | cons item rest ih => cases item <;> simp [List.filterMap_cons, toParameter?, ih]

namespace Interpretation

variable (interpretation : Interpretation Value)

/-- A missing value meets no literal. -/
@[simp] theorem meets_missing (comparison : Comparison) (temporal : Bool) (literal : Scalar) :
    interpretation.meets comparison temporal none literal = false := rfl

/-- No value meets null. -/
@[simp] theorem meets_null (comparison : Comparison) (temporal : Bool) (value : Option Value) :
    interpretation.meets comparison temporal value .null = false := by
  -- The literal is missing, and it does not matter whether the value is.
  cases value <;> rfl

/-- What lies within a range is present, and so are the bounds. -/
theorem isWithin_eq (temporal : Bool) (value : Option Value) (low high : Scalar) :
    interpretation.isWithin temporal value low high
      = (value.isSome && low != .null && high != .null
        && interpretation.isWithin temporal value low high) := by
  -- Each of the two comparisons needs the value and its bound.
  cases value with
  | none => simp [isWithin]
  | some present =>
    by_cases first : low = .null <;> by_cases last : high = .null <;>
      simp [isWithin, first, last]

/-- What is among literals is present. -/
theorem isAmong_eq (temporal : Bool) (value : Option Value) (items : List Scalar) :
    interpretation.isAmong temporal value items
      = (value.isSome && interpretation.isAmong temporal value items) := by
  -- Without a value, no item is met.
  cases value <;> simp [isAmong]

/-- What is found in a value is found in one that is present. -/
theorem finds_eq (kind : Option Kind) (value : Option Value) (text : String) :
    interpretation.finds kind value text
      = (value.isSome && interpretation.finds kind value text) := by
  -- Without a value there is nothing to look in.
  cases value <;> simp [finds]

/-- A value that is present is among literals exactly if it is equal to one that binds a value. -/
theorem isAmong_present (temporal : Bool) (present : Value) (items : List Scalar) :
    interpretation.isAmong temporal (some present) items
      = (items.filterMap Scalar.toParameter?).any fun parameter =>
          interpretation.equal present (interpretation.bound parameter temporal) := by
  -- An item that is null equals nothing, and so it may be dropped.
  induction items with
  | nil => rfl
  | cons item rest ih =>
    have others : rest.any (interpretation.meets .equal temporal (some present)) = _ := ih
    cases bound : item.toParameter? <;>
      simp [isAmong, meets, relates, bound, others]

end Interpretation

end RowFilter
