import RowFilter.Json.Quoted
import RowFilter.Text.Bytes

/-! Percent escapes in addresses, and the pairs of a query. -/

namespace RowFilter.Percent

/-- The bytes of a text, where a percent sign with two hexadecimal digits stands for one byte. -/
def bytes : List Char → List UInt8
  -- A percent sign without digits stands for itself.
  | [] => []
  | '%' :: a :: b :: rest =>
    match Quoted.hexDigit? a, Quoted.hexDigit? b with
    | some high, some low => UInt8.ofNat (high * 16 + low) :: bytes rest
    | _, _ => '%'.toUInt8 :: bytes (a :: b :: rest)
  | c :: rest => (String.singleton c).toUTF8.toList ++ bytes rest

/-- The text that escapes stand for. -/
def decode (text : List Char) : Except Utf8.Fault String := Utf8.decode (bytes text)

/-- The text that escapes stand for, whatever their bytes are. -/
def decodeLeniently (text : List Char) : String :=
  -- Wrong bytes are replaced only where they may be.
  match decode text with
  | .ok content => content
  | .error _ => String.ofList (Utf8.decodeLeniently (bytes text))

/-- The text before the first occurrence of a mark, and the text after it if there is one. -/
def cutAt (mark : Char) (text : List Char) : List Char × Option (List Char) :=
  -- The mark itself belongs to neither part.
  let before := text.takeWhile (· ≠ mark)
  (before, if before.length < text.length then some (text.drop (before.length + 1)) else none)

/-- The text of a name or value in a query, where a plus stands for a blank. -/
def queryText (text : List Char) : String :=
  -- The plus is read before the escapes, so that an escaped plus stays one.
  decodeLeniently (text.map fun c => if c = '+' then ' ' else c)

/-- The names and values of a query. -/
def queryPairs (query : String) : List (String × String) :=
  -- Empty parts are passed over, and a name without value has an empty one.
  ((query.splitOn "&").filter (· ≠ "")).map fun part =>
    let (name, value) := cutAt '=' part.toList
    (queryText name, queryText (value.getD []))

end RowFilter.Percent
