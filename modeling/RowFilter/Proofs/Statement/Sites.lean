import RowFilter.Proofs.Sql.Spacing

/-! The names, numbers and values of a statement, in the order in which its text has them. -/

namespace RowFilter

open Sql

/-- What a statement puts into its text besides fixed words and marks. -/
inductive Site where
  | name (name : String)
  | numeral (number : Nat)
  | value (value : Parameter) (temporal : Bool)
  /-- A missing value, which is written out and not bound. -/
  | null

namespace Site

/-- The token that stands at a site. -/
def token : Site → Token Parameter
  -- A missing value is written out, and so its word stands for the site.
  | .name identifier => .name identifier
  | .numeral number => .numeral (toString number)
  | .value bound _ => .place bound
  | .null => .word "NULL"

/-- The name at a site. -/
def name? : Site → Option String
  -- Only columns and tables are named.
  | .name identifier => some identifier
  | _ => none

/-- The number at a site. -/
def numeral? : Site → Option Nat
  -- Only the constants of a test and of a cut are numbers in the text.
  | .numeral number => some number
  | _ => none

/-- The value bound at a site, and whether it is bound as a point in time. -/
def value? : Site → Option (Parameter × Bool)
  -- A missing value is not bound.
  | .value bound temporal => some (bound, temporal)
  | _ => none

end Site

namespace Predicate

/-- The sites of a test that fails on every row. -/
def neverSites : List Site := [.numeral 1, .numeral 0]

mutual

/-- The sites of a condition: each column is followed by the values it is tested against. -/
def sites : Predicate → List Site
  -- An empty list is a constant, which has numerals in the place of a column, or is not written.
  | .all parts => allSites parts
  | .any parts => allSites parts
  | .compare column _ value temporal => [.name column, .value value temporal]
  | .isNull column _ => [.name column, .null]
  | .oneOf _ [] negated _ => if negated then [] else neverSites
  | .oneOf column values _ temporal => .name column :: values.map (.value · temporal)
  | .between column low high _ temporal =>
    [.name column, .value low temporal, .value high temporal]
  | .like column pattern _ _ => [.name column, .value (.text pattern) false]
  | .never => neverSites

/-- The sites of the parts of a group, in order. -/
def allSites : List Predicate → List Site
  -- The recursion goes through the parts from left to right.
  | [] => []
  | part :: rest => part.sites ++ allSites rest

end

/-- The sites of a group are those of its parts. -/
theorem allSites_eq (parts : List Predicate) : allSites parts = parts.flatMap sites := by
  -- The walk over the parts keeps their order.
  induction parts with
  | nil => rfl
  | cons part rest ih => simp [allSites, ih]

end Predicate

namespace Statement

/-- The site of a stored value. -/
def storedSite (table : Table) (column : String) (value : Json) : Site :=
  -- What cannot be bound is written out.
  match Parameter.ofJson? value with
  | some parameter => .value parameter (isTemporal table column value)
  | none => .null

/-- The sites of a choice of columns. -/
def projectionSites : Projection → List Site
  -- The star is a mark, at which there is nothing to be told.
  | .all => []
  | .columns names => names.map .name

/-- The sites of the order and the cut of the rows. -/
def pageSites (statement : Statement) : List Site :=
  -- The directions of the order are words, which are fixed.
  statement.order.map (.name ·.column) ++
    match statement.page with
    | none => []
    | some page => [.numeral page.limit.toNat, .numeral page.offset.toNat]

/-- The sites of a statement. -/
def sites (statement : Statement) : List Site :=
  -- The action decides which parts are written, and in which order.
  let table := statement.table
  match statement.action with
  | .select =>
    projectionSites statement.projection ++ .name table.name :: statement.filter.sites
      ++ statement.pageSites
  | .count => .name "count" :: .name table.name :: statement.filter.sites
  | .insert columns rows =>
    .name table.name :: columns.map .name
      ++ rows.flatMap (fun row =>
        (columns.zip row).map fun (column, value) => storedSite table column value)
      ++ projectionSites statement.projection
  | .update assignments =>
    .name table.name
      :: assignments.flatMap (fun (column, value) => [.name column, storedSite table column value])
      ++ statement.filter.sites ++ projectionSites statement.projection
  | .delete => .name table.name :: statement.filter.sites ++ projectionSites statement.projection

end Statement

namespace Sql

/-- The site that a piece makes, if it is no fixed word, mark or literal. -/
def Piece.site? : Piece → Option Site
  -- This is the same distinction for pieces, before they are written.
  | .name identifier => some (.name identifier)
  | .numeral number => some (.numeral number)
  | .value bound temporal => some (.value bound temporal)
  | .word .null => some .null
  | _ => none

namespace Fragment

/-- The sites of a fragment. -/
def sites (fragment : Fragment) : List Site := fragment.filterMap Piece.site?

/-- An empty fragment has no sites. -/
@[simp] theorem sites_nil : sites [] = [] := rfl

/-- The sites of a fragment come before those of what follows it. -/
@[simp] theorem sites_append (first second : Fragment) :
    sites (first ++ second) = sites first ++ sites second := by
  -- Sites come from pieces, one by one.
  simp [sites]

/-- The sites of a fragment, piece by piece. -/
@[simp] theorem sites_cons (piece : Piece) (rest : Fragment) :
    sites (piece :: rest) = piece.site?.toList ++ sites rest := by
  -- The piece makes one site or none.
  cases site : piece.site? <;> simp [sites, site]

/-- Fixed separators leave nothing between the items of a list. -/
theorem sites_join {separator : Fragment} (fixed : sites separator = [])
    (items : List Fragment) : sites (join separator items) = items.flatMap sites := by
  -- The first item stands alone, and each other one behind a separator.
  cases items with
  | nil => rfl
  | cons first rest =>
    have others : sites (rest.flatMap (separator ++ ·)) = rest.flatMap sites := by
      induction rest with
      | nil => rfl
      | cons item rest ih => simp [fixed, ih]
    simp [join, others]

/-- Commas and blanks leave nothing between the items of a list. -/
@[simp] theorem sites_list (items : List Fragment) :
    sites (join commaBlank items) = items.flatMap sites :=
  -- Neither the comma nor the blank makes a site.
  sites_join rfl items

/-- Parentheses leave nothing around the items of a list. -/
@[simp] theorem sites_tuple (items : List Fragment) :
    sites (tuple items) = items.flatMap sites := by
  -- Neither bracket makes a site.
  simp [tuple, Piece.site?]

end Fragment

end Sql

namespace Predicate

/-- A group puts nothing between its parts and around them. -/
theorem sites_groupFragment? {joiner : Word} (fixed : joiner ≠ .null) (parts : List Fragment) :
    Fragment.sites ((groupFragment? joiner parts).getD []) = parts.flatMap Fragment.sites := by
  -- Neither the word between the parts nor the parentheses are sites.
  have separator : Fragment.sites [.blank, .word joiner, .blank] = [] := by
    cases joiner <;> first | rfl | exact absurd rfl fixed
  match parts with
  | [] => rfl
  | [part] => simp [groupFragment?]
  | first :: second :: rest =>
    simp [groupFragment?, Fragment.sites_join separator, Piece.site?]

/-- The SQL of a condition has its sites, and no sites at all if there is no SQL. -/
theorem sites_fragment? (backend : Backend) (predicate : Predicate) :
    Fragment.sites ((predicate.fragment? backend).getD []) = predicate.sites := by
  -- Parts without SQL have no sites, so a group may skip them.
  have skipped : ∀ parts : List Predicate, (∀ part ∈ parts,
      Fragment.sites ((part.fragment? backend).getD []) = part.sites) →
      (parts.filterMap (fragment? backend)).flatMap Fragment.sites = parts.flatMap sites := by
    intro parts held
    induction parts with
    | nil => rfl
    | cons part rest ih =>
      have own := held part (by simp)
      have others := ih fun other member => held other (by simp [member])
      -- A part without SQL drops out, and its sites are none.
      cases written : part.fragment? backend <;> simp_all
  induction predicate with
  | all parts ih =>
    rw [fragment?, fragments_eq, sites_groupFragment? (by decide), skipped parts ih, sites,
      allSites_eq]
  | any parts ih =>
    rw [fragment?, fragments_eq, sites_groupFragment? (by decide), skipped parts ih, sites,
      allSites_eq]
  | compare column comparison value temporal => rfl
  | isNull column negated => cases negated <;> rfl
  | oneOf column values negated temporal =>
    cases values with
    | nil => cases negated <;> rfl
    | cons first rest =>
      cases negated <;>
        simp [fragment?, sites, Piece.site?, negation, List.flatMap_map, ← List.map_eq_flatMap]
  | between column low high negated temporal => cases negated <;> rfl
  | like column pattern negated cast =>
    cases negated <;> cases cast <;> cases backend <;> rfl
  | never => rfl

end Predicate

namespace Statement

/-- A choice of columns has the names it chooses. -/
@[simp] theorem sites_projection (projection : Projection) :
    Fragment.sites projection.fragment = projectionSites projection := by
  -- The star is no site, whether it was asked for or stands for an empty choice.
  match projection with
  | .all => rfl
  | .columns [] => rfl
  | .columns (first :: rest) =>
    show Fragment.sites (.join .commaBlank ((first :: rest).map fun name => [.name name])) = _
    simp [projectionSites, Piece.site?, List.flatMap_map, ← List.map_eq_flatMap]

/-- A stored value stands at its site, bound or written out. -/
@[simp] theorem site?_storedPiece (table : Table) (column : String) (value : Json) :
    (storedPiece table column value).site? = some (storedSite table column value) := by
  -- Null binds nothing, and everything else is bound.
  cases bound : Parameter.ofJson? value <;>
    simp [storedPiece, storedSite, bound, Piece.site?]

/-- The order of the rows names the columns it goes by. -/
theorem sites_order (keys : List SortKey) :
    Fragment.sites (orderFragment keys) = keys.map fun key => .name key.column := by
  -- The direction of a key is a fixed word.
  cases keys with
  | nil => rfl
  | cons key rest =>
    show Fragment.sites ([.blank, .word .order, .blank, .word .ordering, .blank]
      ++ Fragment.join Fragment.commaBlank ((key :: rest).map SortKey.fragment)) = _
    have own : ∀ key : SortKey, Fragment.sites key.fragment = [.name key.column] := by
      rintro ⟨column, direction⟩
      cases direction <;> rfl
    simp [Piece.site?, own, List.flatMap_map, ← List.map_eq_flatMap]

/-- The condition of a statement has its sites, except in an insertion. -/
theorem sites_where (backend : Backend) (statement : Statement)
    (filtered : ∀ columns rows, statement.action ≠ .insert columns rows) :
    Fragment.sites (statement.whereFragment backend) = statement.filter.sites := by
  -- A condition without SQL has no sites, so it may be left out.
  have condition := statement.filter.sites_fragment? backend
  unfold whereFragment
  split
  · rename_i columns rows inserted
    exact absurd inserted (filtered columns rows)
  · rename_i written _
    simpa [written, Piece.site?] using condition
  · rename_i written _
    simpa [written] using condition

/-- A row of an insertion has its values in the order of the columns. -/
theorem sites_row (table : Table) (columns : List String) (row : List Json) :
    Fragment.sites (rowFragment table columns row)
      = (columns.zip row).map fun (column, value) => storedSite table column value := by
  -- Each value is one piece between commas.
  simp [rowFragment, List.flatMap_map, ← List.map_eq_flatMap]

/-- An assignment has its column and then its value. -/
theorem sites_assignment (table : Table) (assignment : String × Json) :
    Fragment.sites (assignmentFragment table assignment)
      = [.name assignment.1, storedSite table assignment.1 assignment.2] := by
  -- The mark and the blanks between the two make no sites.
  simp only [assignmentFragment, Fragment.sites_cons, site?_storedPiece]
  rfl

/-- The SQL of a statement has its sites. -/
theorem sites_fragment (backend : Backend) (statement : Statement) :
    Fragment.sites (statement.fragment backend) = statement.sites := by
  -- Each kind of statement is read from its beginning over its condition to its end.
  obtain ⟨table, action, projection, filter, order, page⟩ := statement
  rw [fragment, Fragment.sites_append, Fragment.sites_append]
  cases action with
  | select =>
    rw [sites_where backend _ (by simp)]
    cases page <;>
      simp [head, tail, sites, pageSites, cutFragment, pageFragment, sites_order, Piece.site?]
  | count =>
    rw [sites_where backend _ (by simp)]
    simp [head, tail, sites, Piece.site?]
  | insert columns rows =>
    cases columns with
    | nil => simp [head, whereFragment, tail, sites, Piece.site?]
    | cons first rest =>
      simp [head, whereFragment, tail, sites, sites_row, Piece.site?, List.flatMap_map,
        ← List.map_eq_flatMap]
  | update assignments =>
    rw [sites_where backend _ (by simp)]
    simp [head, tail, sites, sites_assignment, Piece.site?, List.flatMap_map]
  | delete =>
    rw [sites_where backend _ (by simp)]
    simp [head, tail, sites, Piece.site?]

end Statement

end RowFilter
