import RowFilter.Proofs.Statement.Text

/-! Names stay between their quotes: nothing a statement is given is read as anything else. -/

namespace RowFilter

open Sql

namespace Predicate

mutual

/-- The numerals of a condition: those of its tests that fail on every row. -/
def numerals : Predicate → List Nat
  -- A list without values fails as well, unless it is negated.
  | .all parts => allNumerals parts
  | .any parts => allNumerals parts
  | .oneOf _ [] false _ => [1, 0]
  | .never => [1, 0]
  | _ => []

/-- The numerals of the parts of a group, in order. -/
def allNumerals : List Predicate → List Nat
  -- The recursion goes through the parts from left to right.
  | [] => []
  | part :: rest => part.numerals ++ allNumerals rest

end

/-- The numerals of a group are those of its parts. -/
theorem allNumerals_eq (parts : List Predicate) : allNumerals parts = parts.flatMap numerals := by
  -- The walk over the parts keeps their order.
  induction parts with
  | nil => rfl
  | cons part rest ih => simp [allNumerals, ih]

/-- What is read off the sites of each part of a group is read off the sites of the group. -/
theorem filterMap_allSites {α : Type} {read : Site → Option α} {own : Predicate → List α}
    {parts : List Predicate} (held : ∀ part ∈ parts, part.sites.filterMap read = own part) :
    (allSites parts).filterMap read = parts.flatMap own := by
  -- The sites of a group are those of its parts, one part after the other.
  rw [allSites_eq, List.filterMap_flatMap]
  exact List.flatMap_congr held

/-- The names at the sites of a condition are the columns it tests. -/
theorem names_sites (predicate : Predicate) :
    predicate.sites.filterMap Site.name? = predicate.columns := by
  -- A list without values has no site at all, and so it tests no column.
  induction predicate with
  | all parts ih => rw [sites, columns, filterMap_allSites ih, allColumns_eq]
  | any parts ih => rw [sites, columns, filterMap_allSites ih, allColumns_eq]
  | oneOf column values negated temporal =>
    cases values with
    | nil => cases negated <;> rfl
    | cons first rest => simp [sites, columns, Site.name?, List.filterMap_cons]
  | _ => rfl

/-- The numbers at the sites of a condition are its numerals. -/
theorem numerals_sites (predicate : Predicate) :
    predicate.sites.filterMap Site.numeral? = predicate.numerals := by
  -- Only tests that fail on every row have numbers in them.
  induction predicate with
  | all parts ih => rw [sites, numerals, filterMap_allSites ih, allNumerals_eq]
  | any parts ih => rw [sites, numerals, filterMap_allSites ih, allNumerals_eq]
  | oneOf column values negated temporal =>
    cases values with
    | nil => cases negated <;> rfl
    | cons first rest => simp [sites, numerals, Site.numeral?, List.filterMap_cons]
  | _ => rfl

end Predicate

namespace Statement

/-- The names that a choice of columns gives. -/
def projectedNames : Projection → List String
  -- The star is a mark and no name.
  | .all => []
  | .columns names => names

/-- The names a statement was given, in the order in which its text uses them. -/
def names (statement : Statement) : List String :=
  -- Which of the parts are written, and in which order, is up to the action.
  let table := statement.table.name
  let projected := projectedNames statement.projection
  match statement.action with
  | .select => projected ++ table :: statement.filter.columns ++ statement.order.map SortKey.column
  | .count => "count" :: table :: statement.filter.columns
  | .insert columns _ => table :: columns ++ projected
  | .update assignments =>
    table :: assignments.map Prod.fst ++ statement.filter.columns ++ projected
  | .delete => table :: statement.filter.columns ++ projected

/-- The numerals of a statement: those of its failing tests, and the cut of a query. -/
def numerals (statement : Statement) : List Nat :=
  -- Only a query can be cut, and an insertion has no condition.
  match statement.action with
  | .select =>
    statement.filter.numerals ++
      match statement.page with
      | none => []
      | some page => [page.limit.toNat, page.offset.toNat]
  | .insert _ _ => []
  | .count | .update _ | .delete => statement.filter.numerals

/-- The names at the sites of a choice of columns. -/
@[simp] theorem names_projectionSites (projection : Projection) :
    (projectionSites projection).filterMap Site.name? = projectedNames projection := by
  -- A name is given for each column, and none for the star.
  cases projection with
  | all => rfl
  | columns names => simp [projectionSites, projectedNames, Site.name?, List.filterMap_map,
      Function.comp_def]

/-- A stored value makes no name. -/
@[simp] theorem name?_storedSite (table : Table) (column : String) (value : Json) :
    (storedSite table column value).name? = none := by
  -- The value is bound, or it is the word for a missing one.
  cases bound : Parameter.ofJson? value <;> simp [storedSite, bound, Site.name?]

/-- A choice of columns makes no numeral. -/
@[simp] theorem numerals_projectionSites (projection : Projection) :
    (projectionSites projection).filterMap Site.numeral? = [] := by
  -- Columns are named, and the star is a mark.
  cases projection <;> simp [projectionSites, Site.numeral?]

/-- A stored value makes no numeral. -/
@[simp] theorem numeral?_storedSite (table : Table) (column : String) (value : Json) :
    (storedSite table column value).numeral? = none := by
  -- The value is bound, or it is the word for a missing one.
  cases bound : Parameter.ofJson? value <;> simp [storedSite, bound, Site.numeral?]

/-- What stored values do not show is not read off the rows of an insertion. -/
theorem filterMap_rows {α : Type} {read : Site → Option α} {table : Table}
    (blind : ∀ column value, read (storedSite table column value) = none) (columns : List String)
    (rows : List (List Json)) :
    (rows.flatMap fun row => (columns.zip row).map fun (column, value) =>
      storedSite table column value).filterMap read = [] := by
  -- Every site of a row is that of a stored value.
  rw [List.filterMap_eq_nil_iff]
  intro site member
  obtain ⟨row, -, listed⟩ := List.mem_flatMap.mp member
  obtain ⟨pair, -, rfl⟩ := List.mem_map.mp listed
  exact blind pair.1 pair.2

/-- What stored values do not show is read off the columns of assignments alone. -/
theorem filterMap_assignments {α : Type} {read : Site → Option α} {table : Table}
    (blind : ∀ column value, read (storedSite table column value) = none)
    (assignments : List (String × Json)) :
    (assignments.flatMap fun (column, value) =>
        [.name column, storedSite table column value]).filterMap read
      = assignments.filterMap fun assignment => read (.name assignment.1) := by
  -- Each assignment has two sites, and the second one shows nothing.
  induction assignments with
  | nil => rfl
  | cons assignment rest ih =>
    rw [List.flatMap_cons, List.filterMap_append, ih]
    cases own : read (.name assignment.1) <;> simp [blind, own]

/-- The names at the sites of a statement are those it was given. -/
theorem names_sites (statement : Statement) :
    statement.sites.filterMap Site.name? = statement.names := by
  -- Stored values drop out, so the names are those of the table, its columns and the condition.
  obtain ⟨table, action, projection, filter, order, page⟩ := statement
  have tested := filter.names_sites
  cases action with
  | select =>
    cases page <;> simp [sites, pageSites, names, tested, Site.name?, List.filterMap_cons,
      List.filterMap_map, Function.comp_def]
  | count => simp [sites, names, tested, Site.name?]
  | insert columns rows =>
    have rows := filterMap_rows (name?_storedSite table) columns rows
    simp only [sites, names, List.filterMap_append, rows]
    simp [Site.name?, List.filterMap_map, Function.comp_def]
  | update assignments =>
    have assigned := filterMap_assignments (name?_storedSite table) assignments
    simp only [sites, names, List.filterMap_append, List.filterMap_cons, assigned, tested]
    simp [Site.name?]
  | delete => simp [sites, names, tested, Site.name?]

/-- The numbers at the sites of a statement are its numerals. -/
theorem numerals_sites (statement : Statement) :
    statement.sites.filterMap Site.numeral? = statement.numerals := by
  -- Outside of the condition only the cut of a query has numbers.
  obtain ⟨table, action, projection, filter, order, page⟩ := statement
  have tested := filter.numerals_sites
  cases action with
  | select =>
    cases page <;> simp [sites, pageSites, numerals, tested, Site.numeral?, List.filterMap_cons]
  | count => simp [sites, numerals, tested, Site.numeral?, List.filterMap_cons]
  | insert columns rows =>
    have rows := filterMap_rows (numeral?_storedSite table) columns rows
    simp only [sites, numerals, List.filterMap_append, rows]
    simp [Site.numeral?, List.filterMap_cons]
  | update assignments =>
    have assigned := filterMap_assignments (numeral?_storedSite table) assignments
    simp only [sites, numerals, List.filterMap_append, List.filterMap_cons, assigned, tested]
    simp [Site.numeral?]
  | delete => simp [sites, numerals, tested, Site.numeral?, List.filterMap_cons]

/-- The text of a statement reads back with every quote closed, and nothing that it was given is
read as anything but a name: what stands outside of names and the fixed literals are keywords,
marks, bound places and the numerals of failing tests and of the cut. -/
theorem render_confines_names (backend : Backend) (statement : Statement) :
    ∃ tokens, tokens? backend (statement.render backend).text = some tokens ∧
      tokens.filterMap Token.name? = statement.names ∧
      tokens.filterMap Token.numeral? = statement.numerals.map toString ∧
      (∀ content, .literal content ∈ tokens → content ∈ fixedLiterals) ∧
      ∀ text, .word text ∈ tokens → text ∈ keywords := by
  -- The text has the tokens of the fragment, and these are decided by the sites of the statement.
  have read := Fragment.tokens?_renderAfter backend (statement.spaced_fragment backend) #[]
  refine ⟨_, read, ?_, ?_, ?_, ?_⟩
  · rw [Fragment.names_numbered, sites_fragment, names_sites]
  · rw [Fragment.numerals_numbered, sites_fragment, numerals_sites]
  · exact Fragment.literals_numbered _ _
  · exact Fragment.words_numbered _ _

/-- A name that tries to end its quotes stays one name. -/
example : tokens? .postgres "SELECT \"id\"\" FROM x; --\" FROM \"events\""
    = some [.word "SELECT", .name "id\" FROM x; --", .word "FROM", .name "events"] := by
  -- The text is read by computation.
  decide +kernel

end Statement

end RowFilter
