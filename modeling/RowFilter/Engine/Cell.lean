import RowFilter.Engine.Number
import RowFilter.Json.Writer
import RowFilter.Sql.Parameter
import RowFilter.Text.Bytes

/-! The values of database cells: each value brings its own storage class. -/

namespace RowFilter.Engine

/-- A value in a cell. -/
inductive Cell where
  | null
  | int (value : Int64)
  | real (value : Float)
  | text (value : String)
  /-- Text whose bytes are no characters. -/
  | garbled (bytes : List UInt8)
  | blob (bytes : List UInt8)
deriving DecidableEq, Inhabited

namespace Cell

/-- Bytes that are declared to be text. -/
def ofTextBytes (bytes : List UInt8) : Cell :=
  -- Bytes that are not UTF-8 are kept, since a column may hold them.
  match Utf8.decode bytes with
  | .ok content => .text content
  | .error _ => .garbled bytes

/-- What a float is in a cell: not-a-number is stored as null. -/
def ofFloat (value : Float) : Cell := if value.isNaN then .null else .real value

/-- What a bound value is in a cell: truth values are numbers, and documents are text. -/
def ofParameter : Parameter → Cell
  -- There is no storage class for truth values or documents.
  | .bool value => .int (if value then 1 else 0)
  | .int value => .int value
  | .float value => ofFloat value
  | .text value => .text value
  | .json value => .text value.write

/-- A cell turned into text. -/
def castText : Cell → Cell
  -- Only null stays null, and bytes are declared to be text as they are.
  | .null => .null
  | .int value => .text (toString value.toInt)
  | .real value => .text (realText value)
  | .text value => .text value
  | .garbled bytes => .garbled bytes
  | .blob bytes => ofTextBytes bytes

/-- The characters of a cell, or none for null. -/
def chars? (cell : Cell) : Option (List Char) :=
  -- What is no text yet is turned into text first.
  match cell.castText with
  | .text value => some value.toList
  | .garbled bytes => some (Utf8.decodeLeniently bytes)
  | _ => none

/-- The bytes of a text or a blob. -/
def bytes : Cell → List UInt8
  -- Numbers have no bytes to compare by.
  | .text value => value.toUTF8.toList
  | .garbled bytes | .blob bytes => bytes
  | _ => []

/-- The place of a storage class in the order of all values. -/
def rank : Cell → Nat
  -- Numbers share a place, whether they are whole or not.
  | .null => 0
  | .int _ | .real _ => 1
  | .text _ | .garbled _ => 2
  | .blob _ => 3

/-- Order of floats none of which is not-a-number. -/
def orderFloats (left right : Float) : Ordering :=
  -- Every cell that would hold not-a-number is null.
  if left < right then .lt else if right < left then .gt else .eq

/-- Order of cells: by storage class, numbers by value, and the others by their bytes. -/
def order (left right : Cell) : Ordering :=
  -- A whole number and a float are compared exactly, without turning one into the other.
  match left, right with
  | .int a, .int b => compare a.toInt b.toInt
  | .int a, .real b => Decimal.compareWhole a.toInt b
  | .real a, .int b => (Decimal.compareWhole b.toInt a).swap
  | .real a, .real b => orderFloats a b
  | .text a, .text b => if a < b then .lt else if a = b then .eq else .gt
  | _, _ =>
    match compare left.rank right.rank with
    | .eq => compareOfLessAndEq left.bytes right.bytes
    | other => other

end Cell

/-- The preferred storage class of a column. -/
inductive Affinity where
  | integer
  | real
  | text
  | blob
deriving DecidableEq

namespace Affinity

/-- A text as the number it spells, if it spells one; other cells stay as they are. -/
def numberOf : Cell → Cell
  -- A text that spells a whole number beyond the words is a float.
  | .text content =>
    match Spelling.read? content.toList with
    | none => .text content
    | some spelling =>
      match spelling.toInt64? with
      | some word => .int word
      | none => .real spelling.toFloat
  | cell => cell

/-- A float without fraction as a whole number. -/
def wholeOf : Cell → Cell
  -- A float with a fraction, or out of range, stays a float.
  | .real value =>
    match wholeWord? value with
    | some word => .int word
    | none => .real value
  | cell => cell

/-- A number as a float. -/
def realOf : Cell → Cell
  -- Only whole numbers are changed, and they are rounded where a float is coarser.
  | .int value => .real value.toFloat
  | cell => cell

/-- A number as text. -/
def textOf : Cell → Cell
  -- Texts and bytes are texts enough.
  | .int value => (Cell.int value).castText
  | .real value => (Cell.real value).castText
  | cell => cell

/-- A cell as a column stores it and gives it back. -/
def store (affinity : Affinity) (cell : Cell) : Cell :=
  -- A float that is whole is stored as a whole number, and given back as a float.
  match affinity with
  | .integer => wholeOf (numberOf cell)
  | .real => realOf (wholeOf (numberOf cell))
  | .text => textOf cell
  | .blob => cell

/-- A bound value as it is compared with a column. -/
def present (affinity : Affinity) (cell : Cell) : Cell :=
  -- Unlike in storing, a float is not turned into a whole number here.
  match affinity with
  | .integer | .real => numberOf cell
  | .text => textOf cell
  | .blob => cell

end Affinity

end RowFilter.Engine
