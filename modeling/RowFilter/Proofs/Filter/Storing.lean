import RowFilter.Filter.Compile
import RowFilter.Proofs.Filter.Reading
import RowFilter.Proofs.Statement.Clause

/-! A literal that a filter compares a column with is bound as it would be if it were stored. -/

namespace RowFilter

open Sql Sql.Fragment

namespace Sql.Fragment

variable {backend : Backend}

/-- Of two fragments the second one is rendered behind what the first one has bound. -/
theorem renderAfter_append (bound : Array Parameter) (first second : Fragment) :
    renderAfter backend bound (first ++ second)
      = ⟨(renderAfter backend bound first).text
            ++ (renderAfter backend (renderAfter backend bound first).bound second).text,
          (renderAfter backend (renderAfter backend bound first).bound second).bound⟩ := by
  -- The index moves on by the number of values that the first fragment binds.
  have counted :
      bound.size + (values first).length + 1 = bound.size + 1 + (values first).length := by
    omega
  simp [renderAfter_eq, chars_append, String.ofList_append, counted]

/-- The rendering of a column, the mark behind it and a piece. -/
theorem renderAfter_equal (bound : Array Parameter) (column : String) (piece : Piece) :
    renderAfter backend bound [.name column, .blank, .mark .equal, .blank, piece]
      = ⟨Statement.quotedText backend column ++ " = " ++ (renderAfter backend bound [piece]).text,
          (renderAfter backend bound [piece]).bound⟩ := by
  -- The column and the mark bind nothing, so that only the piece goes on from what is bound.
  have opened : renderAfter backend bound [.name column, .blank, .mark .equal, .blank]
      = ⟨Statement.quotedText backend column ++ " = ", bound⟩ := by
    simp [renderAfter_eq, chars, values, Piece.chars, Piece.value?, Statement.quotedText,
      String.ofList_append, Mark.spelling]
  have parts := @renderAfter_append backend bound [.name column, .blank, .mark .equal, .blank]
    [piece]
  rw [opened] at parts
  exact parts

end Sql.Fragment

namespace Statement

variable (table : Table)

/-- What stands in a row of an insertion in front of a value. -/
def rowOpening (before : List (String × Json)) : Fragment :=
  -- Each value has a comma behind it, as the one in question still follows.
  .mark .opening :: before.flatMap fun (column, value) =>
    storedPiece table column value :: commaBlank

/-- What stands in a row of an insertion behind a value. -/
def rowClosing (after : List (String × Json)) : Fragment :=
  -- Each value has a comma in front, as the one in question came before.
  (after.flatMap fun (column, value) => commaBlank ++ [storedPiece table column value])
    ++ [.mark .closing]

/-- A row of an insertion opens, has one of its values, and closes. -/
theorem rowFragment_split {columns : List String} {row : List Json}
    {before after : List (String × Json)} {column : String} {value : Json}
    (split : columns.zip row = before ++ (column, value) :: after) :
    rowFragment table columns row
      = rowOpening table before ++ [storedPiece table column value] ++ rowClosing table after := by
  -- Each value in front has its comma behind it, and each value behind has its comma in front.
  have joined : ∀ before : List (String × Json),
      join commaBlank ((before ++ (column, value) :: after).map fun (column, value) =>
          [storedPiece table column value])
        = before.flatMap (fun (column, value) => storedPiece table column value :: commaBlank)
          ++ storedPiece table column value
            :: after.flatMap fun (column, value) =>
              commaBlank ++ [storedPiece table column value] := by
    intro before
    induction before with
    | nil => simp [join, List.flatMap_map]
    | cons first rest ih =>
      cases rest <;> simp_all [join, List.flatMap_map]
  rw [rowFragment, split, tuple, joined]
  simp [rowOpening, rowClosing]

end Statement

open Statement

/-- Whether a value that is stored in a column behind bound values is written and bound as a
rendering says, by an assignment and at each place of a row. -/
structure Table.Stores (table : Table) (column : String) (value : Json) (backend : Backend)
    (bound : Array Parameter) (place : Rendering) : Prop where
  assigned : renderAfter backend bound (assignmentFragment table (column, value))
    = ⟨quotedText backend column ++ " = " ++ place.text, place.bound⟩
  inserted : ∀ columns row before after, columns.zip row = before ++ (column, value) :: after →
    ∀ start, (renderAfter backend start (rowOpening table before)).bound = bound →
      renderAfter backend start (rowFragment table columns row)
        = ⟨(renderAfter backend start (rowOpening table before)).text ++ place.text
            ++ (renderAfter backend place.bound (rowClosing table after)).text,
          (renderAfter backend place.bound (rowClosing table after)).bound⟩

/-- A value is stored as its piece is rendered. -/
theorem Table.stores_piece (table : Table) (column : String) (value : Json) (backend : Backend)
    (bound : Array Parameter) :
    table.Stores column value backend bound
      (renderAfter backend bound [storedPiece table column value]) where
  -- Both ways to store go through the piece, with more text around it in a row.
  assigned := renderAfter_equal bound column (storedPiece table column value)
  inserted columns row before after split start opened := by
    rw [rowFragment_split table split, renderAfter_append, renderAfter_append, opened]

namespace Scalar

variable {value : Json} {literal : Scalar}

/-- A literal binds what its document binds. -/
theorem toParameter?_ofJson? (read : ofJson? value = some literal) :
    literal.toParameter? = Parameter.ofJson? value := by
  -- By the form of the document, as both go by it.
  cases value with
  | integer number =>
    -- A number beyond signed words is a float for both.
    cases word : number.toInt64? <;> simp only [ofJson?, word] at read <;> cases read <;>
      simp [toParameter?, Parameter.ofJson?, word]
  | array items => cases read
  | object members => cases read
  | _ => cases read; rfl

/-- A literal is a point in time for a described column exactly if its document is stored as one. -/
theorem isTemporal_ofJson? {table : Table} {column : String} {kind : Kind}
    (described : table.kindOf? column = some kind) (read : ofJson? value = some literal) :
    literal.isTemporal (some kind) = Statement.isTemporal table column value := by
  -- The kind of the column and the form of the document are all that either of them asks for.
  cases value with
  | integer number =>
    cases word : number.toInt64? <;> simp only [ofJson?, word] at read <;> cases read <;> rfl
  | string text =>
    cases read
    cases kind <;> simp [Scalar.isTemporal, Statement.isTemporal, described]
  | array items => cases read
  | object members => cases read
  | _ => cases read; rfl

end Scalar

namespace Filter

variable {table : Table} {column : String} {value : Json} {backend : Backend}

/-- A literal under a name other than that of a search is read as equality with it. -/
theorem ofJson_literal (named : column ≠ searchKey) (scalar : value.isScalar = true) :
    ofJson (.object [(column, value)])
      = .ok (.clause [.field column (.equals ((Scalar.ofJson? value).getD .null))]) := by
  -- The one member is an entry for a field, since its name is not that of a search.
  have entry : Clause.entryOf column value
      = .ok (.field column (.equals ((Scalar.ofJson? value).getD .null))) := by
    rw [Clause.entryOf, if_neg named]
    cases value with
    | array items => cases scalar
    | object members => cases scalar
    | _ => rfl
  simp only [ofJson, Clause.ofJson, List.mapM_cons, entry, List.mapM_nil]
  rfl

/-- Equality with a literal is one test of its column. -/
theorem compile_equals (table : Table) (column : String) (literal : Scalar) :
    compile table (.clause [.field column (.equals literal)])
      = .ok (.all [Operator.applyScalar .equal column literal (table.kindOf? column)]) := rfl

/-- A conjunction of one test is written as the test. -/
theorem fragment?_single {predicate : Predicate} {condition : Fragment}
    (written : predicate.fragment? backend = some condition) :
    (Predicate.all [predicate]).fragment? backend = some condition := by
  -- No word and no brackets are written around a single part.
  simp [Predicate.fragment?, Predicate.fragments, written, Predicate.groupFragment?]

/-- A literal that is not null is compared as it is stored. -/
theorem fragment?_applyScalar {kind : Kind} (described : table.kindOf? column = some kind)
    (scalar : value.isScalar = true) (present : value ≠ .null) :
    ∃ parameter, Parameter.ofJson? value = some parameter ∧
      (Operator.applyScalar .equal column ((Scalar.ofJson? value).getD .null)
          (some kind)).fragment? backend
        = some [.name column, .blank, .mark .equal, .blank, storedPiece table column value] := by
  -- The literal is named first, so that its kinds can be told apart.
  have read := Scalar.ofJson?_getD scalar
  have bound := Scalar.toParameter?_ofJson? read
  have temporal := Scalar.isTemporal_ofJson? described read
  generalize (Scalar.ofJson? value).getD .null = literal at read bound temporal
  -- Only null binds nothing, and null is what only null is read as.
  obtain ⟨parameter, taken⟩ : ∃ parameter, literal.toParameter? = some parameter := by
    cases literal with
    | null =>
      cases value with
      | null => exact absurd rfl present
      | integer number => cases word : number.toInt64? <;> simp [Scalar.ofJson?, word] at read
      | _ => cases read
    | _ => exact ⟨_, rfl⟩
  have piece : storedPiece table column value
      = .value parameter (isTemporal table column value) := by
    rw [storedPiece, ← bound, taken]
  refine ⟨parameter, bound ▸ taken, ?_⟩
  have compared : Operator.applyScalar .equal column literal (some kind)
      = .compare column .equal parameter (isTemporal table column value) := by
    cases literal with
    | null => cases taken
    | _ =>
      simp only [Operator.applyScalar, Predicate.comparing, taken, temporal]
      rfl
  rw [compared, piece]
  rfl

/-- The mark of a place behind bound values: it is read as a point in time if its value is a text
for a column of dates. -/
def placeMark (table : Table) (column : String) (backend : Backend) (bound : Array Parameter)
    (parameter : Parameter) : String :=
  -- The number is that of the next value, which is one more than are bound.
  String.ofList <|
    if table.kindOf? column = some .date ∧ parameter.isText then
      backend.timePlaceholder (bound.size + 1)
    else backend.placeholder (bound.size + 1)

/-- A value that is bound is written as the mark of its place. -/
theorem renderAfter_storedPiece {kind : Kind} (described : table.kindOf? column = some kind)
    (bound : Array Parameter) {parameter : Parameter}
    (taken : Parameter.ofJson? value = some parameter) :
    renderAfter backend bound [storedPiece table column value]
      = ⟨placeMark table column backend bound parameter, bound.push parameter⟩ := by
  -- Of all documents only a string is bound as a text.
  have temporal : (isTemporal table column value && parameter.isText)
      = decide (table.kindOf? column = some .date ∧ parameter.isText) := by
    cases value with
    | string text =>
      cases taken
      cases kind <;> simp [isTemporal, described, Parameter.isText]
    | integer number =>
      cases word : number.toInt64? <;> simp only [Parameter.ofJson?, word] at taken <;>
        cases taken <;> simp [isTemporal, Parameter.isText]
    | null => cases taken
    | _ => cases taken; simp [isTemporal, Parameter.isText]
  rw [storedPiece, taken, renderAfter_eq, placeMark]
  simp [chars, Fragment.values, Piece.chars, Piece.value?, temporal]

/-- A literal under the name of a declared field is compared as it is stored in the column of the
field: behind whatever is bound, the filter, an assignment and a row of an insertion write the same
mark and bind the same value. Null is bound by none of them. -/
theorem equals_as_stored (table : Table) {column : String}
    (declared : table.hasField column = true) (named : column ≠ searchKey) {value : Json}
    (scalar : value.isScalar = true) :
    ∃ filter predicate, ofJson (.object [(column, value)]) = .ok filter ∧
      filter.compile table = .ok predicate ∧
      ∀ backend (bound : Array Parameter), ∃ condition,
        predicate.fragment? backend = some condition ∧
        (value = .null →
          renderAfter backend bound condition = ⟨quotedText backend column ++ " IS NULL", bound⟩ ∧
          table.Stores column value backend bound ⟨"NULL", bound⟩) ∧
        (value ≠ .null → ∃ parameter, Parameter.ofJson? value = some parameter ∧
          renderAfter backend bound condition
            = ⟨quotedText backend column ++ " = " ++ placeMark table column backend bound parameter,
                bound.push parameter⟩ ∧
          table.Stores column value backend bound
            ⟨placeMark table column backend bound parameter, bound.push parameter⟩) := by
  -- The kind of the field decides how the value is bound, whichever statement it is for.
  obtain ⟨kind, described⟩ := Option.isSome_iff_exists.mp declared
  refine ⟨_, _, ofJson_literal named scalar, compile_equals table column _, ?_⟩
  intro backend bound
  have stored := table.stores_piece column value backend bound
  by_cases missing : value = .null
  · -- The test for a missing value is written in full, and so is a missing value that is stored.
    subst missing
    refine ⟨_, fragment?_single rfl, fun _ => ⟨?_, stored⟩, fun present => absurd rfl present⟩
    simp [renderAfter_eq, chars, Fragment.values, Piece.chars, Piece.value?, Word.spelling,
      negation, quotedText, String.ofList_append]
  · obtain ⟨parameter, taken, written⟩ :=
      @fragment?_applyScalar table column value backend kind described scalar missing
    rw [described]
    rw [renderAfter_storedPiece described bound taken] at stored
    refine ⟨_, fragment?_single written, fun null => absurd null missing, fun _ => ?_⟩
    refine ⟨parameter, taken, ?_, stored⟩
    rw [renderAfter_equal, renderAfter_storedPiece described bound taken]

/-- A day under the name of a date is compared and stored as a point in time, in the second place if
one value is bound already. -/
theorem equals_as_stored_events :
    let table : Table := ⟨"events", [⟨"at", .date⟩], ["at"], by decide, by decide, by decide,
      by decide⟩
    let value : Json := .string "2024-01-02"
    let bound : Array Parameter := #[.int 7, .text "2024-01-02"]
    table.hasField "at" = true ∧ "at" ≠ searchKey ∧ value.isScalar = true ∧
    ∃ filter predicate condition, ofJson (.object [("at", value)]) = .ok filter ∧
      filter.compile table = .ok predicate ∧ predicate.fragment? .postgres = some condition ∧
      renderAfter .postgres #[.int 7] condition = ⟨"\"at\" = $2::TIMESTAMPTZ", bound⟩ ∧
      table.Stores "at" value .postgres #[.int 7] ⟨"$2::TIMESTAMPTZ", bound⟩ := by
  -- The table, the value and what is bound already are fixed, and the rest is computed.
  intro table value bound
  have declared : table.hasField "at" = true := by decide
  obtain ⟨filter, predicate, read, compiled, alike⟩ :=
    @equals_as_stored table "at" declared (by decide) value rfl
  obtain ⟨condition, written, -, present⟩ := alike .postgres #[.int 7]
  obtain ⟨parameter, taken, compared, stored⟩ := present (by decide)
  cases taken
  exact ⟨declared, by decide, rfl, filter, predicate, condition, read, compiled, written, compared,
    stored⟩

end Filter

end RowFilter
