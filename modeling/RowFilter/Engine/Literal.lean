import RowFilter.Engine.Cell
import RowFilter.Json.Quoted

/-! Literals of SQL, in which the fixed values of columns are given. -/

namespace RowFilter.Engine.Literal

/-- The bytes of pairs of hexadecimal digits. -/
def hexBytes? : List Char → Option (List UInt8)
  -- A single digit at the end spells no byte.
  | [] => some []
  | a :: b :: rest => do
    let high ← Quoted.hexDigit? a
    let low ← Quoted.hexDigit? b
    let others ← hexBytes? rest
    return UInt8.ofNat (high * 16 + low) :: others
  | [_] => none

/-- Reads the inside of a text in quotes, where a quote is written twice. -/
def readQuoted : List Char → Option (List Char × List Char)
  -- A doubled quote is looked for before a single one, which ends the text.
  | '\x27' :: '\x27' :: rest => (readQuoted rest).map fun (text, rest) => ('\x27' :: text, rest)
  | '\x27' :: rest => some ([], rest)
  | c :: rest => (readQuoted rest).map fun (text, rest) => (c :: text, rest)
  | [] => none

/-- Drops blanks. -/
def skipGaps (text : List Char) : List Char := text.dropWhile isGap

/-- Takes a word off a text, whatever the case of its letters. -/
def readWord? : List Char → List Char → Option (List Char)
  -- The word is given in capital letters.
  | [], text => some text
  | _ :: _, [] => none
  | expected :: word, c :: text => if c.toUpper = expected then readWord? word text else none

/-- Whether a character belongs to a number. -/
def isNumeral (c : Char) : Bool := c.isDigit || c = '.' || c = '+' || c = '-' || c = 'e' || c = 'E'

/-- The cells that words stand for. -/
def words : List (String × Cell) := [("NULL", .null), ("TRUE", .int 1), ("FALSE", .int 0)]

/-- The affinities that casts name. -/
def casts : List (String × (Cell → Cell)) := [("TEXT", Cell.castText), ("BLOB", fun cell =>
  match cell.castText with
  -- A cast to bytes goes through text, and leaves null as it is.
  | .null => .null
  | other => .blob other.bytes)]

/-- The first word of a list with which a text begins. -/
def readAny? {α : Type} (known : List (String × α)) (text : List Char) :
    Option (α × List Char) :=
  -- No word begins with another one, so that their order does not matter.
  known.findSome? fun (word, value) => (readWord? word.toList text).map (value, ·)

/-- Reads a literal with at most a number of parentheses around it. -/
def read? : Nat → List Char → Option (Cell × List Char)
  -- The depth bounds the parentheses, each of which takes a character of the text.
  | 0, _ => none
  | depth + 1, text =>
    match skipGaps text with
    | '(' :: rest => do
      let (cell, rest) ← read? depth rest
      match skipGaps rest with
      | ')' :: rest => return (cell, rest)
      | _ => none
    | '\x27' :: rest => (readQuoted rest).map fun (content, rest) =>
      (.text (String.ofList content), rest)
    | c :: rest =>
      if (c = 'x' ∨ c = 'X') ∧ rest.head? = some '\x27' then do
        let (digits, rest) ← readQuoted (rest.drop 1)
        return (.blob (← hexBytes? digits), rest)
      else
        match readWord? "CAST".toList (c :: rest) with
        | some rest => do
          let inner ← readWord? ['('] (skipGaps rest)
          let (cell, rest) ← read? depth inner
          let rest ← readWord? "AS".toList (skipGaps rest)
          let (cast, rest) ← readAny? casts (skipGaps rest)
          let rest ← readWord? [')'] (skipGaps rest)
          return (cast cell, rest)
        | none =>
          match readAny? words (c :: rest) with
          | some found => some found
          | none =>
            -- What is no word is a number, or nothing.
            let numeral := (c :: rest).takeWhile isNumeral
            match Affinity.numberOf (.text (String.ofList numeral)) with
            | .text _ => none
            | number => some (number, (c :: rest).dropWhile isNumeral)
    | [] => none

/-- The cell that a whole text spells. -/
def parse? (text : String) : Option Cell :=
  -- A text has fewer parentheses than characters, so that the depth suffices.
  match read? (text.length + 1) text.toList with
  | some (cell, rest) => if rest.all isGap then some cell else none
  | none => none

end RowFilter.Engine.Literal
