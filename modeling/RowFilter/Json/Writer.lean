import RowFilter.Decimal.Layout
import RowFilter.Json.Basic
import RowFilter.Json.Quoted

/-! Writing JSON text without blanks. -/

namespace RowFilter.Json

/-- The digits of a whole number behind its sign. -/
def integerChars (value : Int) : List Char :=
  -- The sign stands in front of the digits of the size.
  if value < 0 then '-' :: Nat.toDigits 10 value.natAbs else Nat.toDigits 10 value.natAbs

/-- A finite float has the fewest digits that read back, and any other float becomes null. -/
def floatChars (value : Float) : List Char :=
  -- There is no spelling for infinity or not-a-number.
  if value.isFinite then (Decimal.json.text value).toList else ['n', 'u', 'l', 'l']

mutual

/-- The characters of a document. -/
def chars : Json → List Char
  -- Nothing is written between the parts.
  | .null => ['n', 'u', 'l', 'l']
  | .bool true => ['t', 'r', 'u', 'e']
  | .bool false => ['f', 'a', 'l', 's', 'e']
  | .integer value => integerChars value.value
  | .float value => floatChars value
  | .string value => Quoted.write value
  | .array items => '[' :: (itemChars items ++ [']'])
  | .object members => '{' :: (memberChars members ++ ['}'])

/-- Items with commas between them. -/
def itemChars : List Json → List Char
  -- There is no comma behind the last item.
  | [] => []
  | [item] => chars item
  | item :: rest => chars item ++ ',' :: itemChars rest

/-- Members with commas between them. -/
def memberChars : List (String × Json) → List Char
  -- There is no comma behind the last member.
  | [] => []
  | [(key, value)] => Quoted.write key ++ ':' :: chars value
  | (key, value) :: rest => Quoted.write key ++ ':' :: (chars value ++ ',' :: memberChars rest)

end

/-- The compact text of a document. -/
def write (document : Json) : String := String.ofList document.chars

end RowFilter.Json
