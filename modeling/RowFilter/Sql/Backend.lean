import RowFilter.Text.Basic

/-! The database systems that statements are written for. -/

namespace RowFilter

/-- A database system. -/
inductive Backend where
  | sqlite
  | postgres
deriving DecidableEq

namespace Backend

/-- The name of a backend. -/
def name : Backend → String
  -- These are the names of the drivers.
  | .sqlite => "sqlite"
  | .postgres => "postgres"

/-- A name that no backend has. -/
structure UnknownName where
  name : String
deriving DecidableEq

/-- The wording for an unknown backend. -/
def UnknownName.message (unknown : UnknownName) : String := s!"unknown backend '{unknown.name}'"

/-- Finds a backend by its name, where blanks around it and the case of letters do not count. -/
def parse (text : String) : Except UnknownName Backend :=
  -- The second backend has two names.
  let name := (String.ofList (Text.trim text.toList)).map Char.toLower
  if name = "sqlite" then .ok .sqlite
  else if name = "postgres" ∨ name = "postgresql" then .ok .postgres
  else .error ⟨name⟩

/-- How many values one statement may bind. -/
def maxParameters : Backend → Nat
  -- These are the limits of the engines themselves.
  | .sqlite => 32766
  | .postgres => 65535

/-- The quote around identifiers. -/
def identifierQuote : Backend → Char
  -- Between double quotes the first backend takes a name that is missing for a text.
  | .sqlite => '`'
  | .postgres => '"'

/-- An identifier between its quotes, with each quote inside written twice. -/
def quoted (backend : Backend) (name : String) : List Char :=
  -- Both backends read a doubled quote as one quote of the name.
  let quote := backend.identifierQuote
  quote :: (name.toList.flatMap (fun c => if c = quote then [c, c] else [c]) ++ [quote])

/-- The mark that stands for a bound value, counted from one. -/
def placeholder (backend : Backend) (index : Nat) : List Char :=
  -- Only the second backend numbers its places.
  match backend with
  | .sqlite => ['?']
  | .postgres => '$' :: Nat.toDigits 10 index

/-- The mark that stands for a bound text that is read as a point in time. -/
def timePlaceholder (backend : Backend) (index : Nat) : List Char :=
  -- Only the second backend has a type for points in time, which the text is cast to.
  match backend with
  | .sqlite => backend.placeholder index
  | .postgres => backend.placeholder index ++ "::TIMESTAMPTZ".toList

end Backend

end RowFilter
