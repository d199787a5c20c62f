import RowFilter.Proofs.Statement.Text

/-! Bound places line up with the values that a statement binds. -/

namespace RowFilter

open Sql

namespace Statement

/-- The values of a statement in the order of their places, each with whether it is bound as a point
in time. -/
def values (statement : Statement) : List (Parameter × Bool) :=
  -- The sites are in the order of the text, and this is also that of the places.
  statement.sites.filterMap Site.value?

end Statement

end RowFilter
