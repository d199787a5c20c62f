import RowFilter.Json.Draft
import RowFilter.Json.Numeral
import RowFilter.Json.Quoted

/-! Reading JSON text: blanks may stand between tokens, and nesting stops at 128 levels. -/

namespace RowFilter.Draft

/-- Whether a character may stand between tokens. -/
def isGap (c : Char) : Bool := c = ' ' || c = '\n' || c = '\t' || c = '\r'

/-- Passes over the blanks between tokens. -/
def skipGap (text : List Char) : List Char := text.dropWhile isGap

/-- How many levels of arrays and objects a document may open, less one that may not be used. -/
def maxDepth : Nat := 128

/-- A draft and the text after it, where a broken draft leaves no text to go on with. -/
abbrev Reading := Draft × Option (List Char)

/-- Nothing is read beyond a fault. -/
def stop (fault : Fault) : Reading := (.broken fault, none)

/-- The draft that a reading of a token leads to. -/
def ofToken {α : Type} (make : α → Draft) : Except Fault (α × List Char) → Reading
  -- A token that fails ends the whole reading.
  | .ok (value, rest) => (make value, some rest)
  | .error fault => stop fault

/-- Checks the remaining letters of a fixed word. -/
def readWord (value : Draft) : List Char → List Char → Reading
  -- The word is told as wrong at the first letter that differs.
  | [], text => (value, some text)
  | _ :: _, [] => stop (.before .endInValue [])
  | expected :: letters, c :: rest =>
    if c = expected then readWord value letters rest
    else stop (.on .expectedIdent (c :: rest))

mutual

/-- Reads a value; `room` counts the levels that may still be opened, and one is never used. -/
def readValue : Nat → Nat → List Char → Reading
  -- The first character decides what is read.
  | 0, _, text => stop (.before .expectedValue text)
  | fuel + 1, room, text =>
    match skipGap text with
    | [] => stop (.before .endInValue [])
    | c :: rest =>
      if c = 'n' then readWord .null ['u', 'l', 'l'] rest
      else if c = 't' then readWord (.bool true) ['r', 'u', 'e'] rest
      else if c = 'f' then readWord (.bool false) ['a', 'l', 's', 'e'] rest
      else if c = '"' then ofToken .string (Quoted.read rest)
      else if c = '-' || c.isDigit then ofToken id (Numeral.read (c :: rest))
      else if c = '[' then
        -- The level is refused before anything inside of it is read.
        if room ≤ 1 then stop (.on .tooDeep (c :: rest))
        else readItems fuel (room - 1) true [] rest
      else if c = '{' then
        if room ≤ 1 then stop (.on .tooDeep (c :: rest))
        else readMembers fuel (room - 1) true [] rest
      else stop (.on .expectedValue (c :: rest))

/-- Reads the items of an array up to its bracket, with the earlier items in reverse. -/
def readItems : Nat → Nat → Bool → List Draft → List Char → Reading
  -- The items before a fault are kept, since they may have faults that come first.
  | 0, _, _, items, text => (.array items.reverse (some (.before .endInList text)), none)
  | fuel + 1, room, first, items, text =>
    match skipGap text with
    | [] => (.array items.reverse (some (.before .endInList [])), none)
    | c :: rest =>
      if c = ']' then (.array items.reverse none, some rest)
      else if first then readItem fuel room items (c :: rest)
      -- A comma has to be followed by an item.
      else if c = ',' then
        match skipGap rest with
        | [] => (.array items.reverse (some (.before .endInValue [])), none)
        | next :: others =>
          if next = ']' then
            (.array items.reverse (some (.on .trailingComma (next :: others))), none)
          else readItem fuel room items (next :: others)
      else (.array items.reverse (some (.on .expectedItemEnd (c :: rest))), none)

/-- Reads one item and goes on with the array. -/
def readItem : Nat → Nat → List Draft → List Char → Reading
  -- An item that stops the reading is the last one of its array.
  | 0, _, items, text => (.array items.reverse (some (.before .endInList text)), none)
  | fuel + 1, room, items, text =>
    match readValue fuel room text with
    | (item, some rest) => readItems fuel room false (item :: items) rest
    | (item, none) => (.array (item :: items).reverse none, none)

/-- Reads the members of an object up to its brace, with the earlier members in reverse. -/
def readMembers : Nat → Nat → Bool → List (String × Draft) → List Char → Reading
  -- As in arrays, the members before a fault are kept.
  | 0, _, _, members, text => (.object members.reverse (some (.before .endInObject text)), none)
  | fuel + 1, room, first, members, text =>
    match skipGap text with
    | [] => (.object members.reverse (some (.before .endInObject [])), none)
    | c :: rest =>
      if c = '}' then (.object members.reverse none, some rest)
      else if first then readMember fuel room members (c :: rest)
      else if c = ',' then
        match skipGap rest with
        | [] => (.object members.reverse (some (.before .endInValue [])), none)
        | next :: others =>
          if next = '}' then
            (.object members.reverse (some (.on .trailingComma (next :: others))), none)
          else readMember fuel room members (next :: others)
      else (.object members.reverse (some (.on .expectedMemberEnd (c :: rest))), none)

/-- Reads one key with its value and goes on with the object. -/
def readMember : Nat → Nat → List (String × Draft) → List Char → Reading
  | 0, _, members, text => (.object members.reverse (some (.before .endInObject text)), none)
  | fuel + 1, room, members, text =>
    -- A key is a string, and a colon has to follow.
    match text with
    | '"' :: rest =>
      match Quoted.read rest with
      | .error fault => (.object members.reverse (some fault), none)
      | .ok (key, rest) =>
        match skipGap rest with
        | ':' :: rest =>
          match readValue fuel room rest with
          | (value, some rest) => readMembers fuel room false ((key, value) :: members) rest
          | (value, none) => (.object ((key, value) :: members).reverse none, none)
        | [] =>
          -- Without a value the member is broken, but its key was read.
          let member := (key, Draft.broken (.before .endInObject []))
          (.object (member :: members).reverse none, none)
        | c :: rest =>
          let member := (key, Draft.broken (.on .expectedColon (c :: rest)))
          (.object (member :: members).reverse none, none)
    | text => (.object members.reverse (some (.on .keyNotString text)), none)

end

end RowFilter.Draft

namespace RowFilter

/-- Reads a whole text. -/
def Sheet.read (text : String) : Sheet :=
  -- Each character opens at most one level, which takes three steps.
  let characters := text.toList
  match Draft.readValue (3 * characters.length + 3) Draft.maxDepth characters with
  | (root, none) => ⟨root, none⟩
  -- Only blanks may follow the value.
  | (root, some rest) =>
    match Draft.skipGap rest with
    | [] => ⟨root, none⟩
    | c :: others => ⟨root, some (.on .trailingCharacters (c :: others))⟩

/-- The document that a sheet spells, or its first fault. -/
def Sheet.toJson (sheet : Sheet) : Except Fault Json := do
  -- Faults in the value come before what follows it.
  let value ← sheet.root.toJson
  Fault.raise? sheet.excess
  return value

/-- Reads a text as one document. -/
def Json.read (text : String) : Except SyntaxError Json :=
  -- Faults are told by line and column, which only the whole text gives.
  (Sheet.read text).toJson.mapError (·.inText text)

end RowFilter
