import RowFilter.Json.Fault

/-! Strings in JSON text: escapes on the way in and on the way out. -/

namespace RowFilter.Quoted

/-- The value of a hexadecimal digit. -/
def hexDigit? (c : Char) : Option Nat :=
  -- Both cases of letters are read, and only the lower one is written.
  if c.isDigit then some (c.toNat - '0'.toNat)
  else if 'a' ≤ c ∧ c ≤ 'f' then some (c.toNat - 'a'.toNat + 10)
  else if 'A' ≤ c ∧ c ≤ 'F' then some (c.toNat - 'A'.toNat + 10)
  else none

/-- The number that four hexadecimal digits spell. -/
def hexWord? (a b c d : Char) : Option Nat := do
  -- One character that is no digit spoils all four.
  return (((← hexDigit? a) * 16 + (← hexDigit? b)) * 16 + (← hexDigit? c)) * 16 + (← hexDigit? d)

/-- Reads the four digits of a hexadecimal escape, which are looked for in the next four bytes. -/
def readHex (text : List Char) : Except Fault (Nat × List Char) :=
  -- A text of less than four bytes ends inside the escape.
  if Text.byteLength text < 4 then .error (.before .endInString [])
  else
    match text with
    | a :: b :: c :: d :: rest =>
      match hexWord? a b c d with
      | some word => .ok (word, rest)
      -- The place of the fault is behind the four bytes, whatever they are.
      | none => .error ⟨.invalidEscape, Text.byteLength text - 4⟩
    | _ => .error ⟨.invalidEscape, Text.byteLength text - 4⟩

/-- Whether a word is the first half of a surrogate pair. -/
def isLeading (word : Nat) : Bool := 0xD800 ≤ word && word ≤ 0xDBFF

/-- Whether a word is the second half of a surrogate pair. -/
def isTrailing (word : Nat) : Bool := 0xDC00 ≤ word && word ≤ 0xDFFF

/-- The character beyond the basic plane that a surrogate pair stands for. -/
def joinPair (leading trailing : Nat) : Char :=
  -- Each half carries ten bits, above the first plane.
  Char.ofNat ((leading - 0xD800) * 0x400 + (trailing - 0xDC00) + 0x10000)

/-- Reads the second half of a surrogate pair. -/
def readTrailing (leading : Nat) : List Char → Except Fault (Char × List Char)
  -- The first half has to be followed by an escape with the second one.
  | [] => .error (.before .endInString [])
  | '\\' :: [] => .error (.before .endInString [])
  | '\\' :: 'u' :: rest => do
    let (word, rest) ← readHex rest
    if isTrailing word then return (joinPair leading word, rest)
    else throw (.before .loneSurrogate rest)
  | '\\' :: rest => .error (.on .brokenSurrogatePair rest)
  | rest => .error (.on .brokenSurrogatePair rest)

/-- Reads a hexadecimal escape after its letter. -/
def readUnicode (text : List Char) : Except Fault (Char × List Char) := do
  -- A second half may not come first.
  let (word, rest) ← readHex text
  if isTrailing word then throw (.before .loneSurrogate rest)
  else if isLeading word then readTrailing word rest
  else return (Char.ofNat word, rest)

/-- Reads an escape after its backslash. -/
def readEscape : List Char → Except Fault (Char × List Char)
  -- There are eight escapes of one letter, and any other letter is a fault.
  | [] => .error (.before .endInString [])
  | '"' :: rest => .ok ('"', rest)
  | '\\' :: rest => .ok ('\\', rest)
  | '/' :: rest => .ok ('/', rest)
  | 'b' :: rest => .ok ('\x08', rest)
  | 'f' :: rest => .ok ('\x0c', rest)
  | 'n' :: rest => .ok ('\n', rest)
  | 'r' :: rest => .ok ('\r', rest)
  | 't' :: rest => .ok ('\t', rest)
  | 'u' :: rest => readUnicode rest
  | rest => .error (.on .invalidEscape rest)

/-- Reads the rest of a string after its opening quote, with what was read so far in reverse. -/
def readFrom : Nat → List Char → List Char → Except Fault (String × List Char)
  -- The fuel is never used up, since each step takes a character.
  | 0, _, rest => .error (.before .endInString rest)
  | _ + 1, _, [] => .error (.before .endInString [])
  | fuel + 1, taken, c :: rest =>
    if c = '"' then .ok (String.ofList taken.reverse, rest)
    else if c = '\\' then do
      let (escaped, rest) ← readEscape rest
      readFrom fuel (escaped :: taken) rest
    -- Controls have to be escaped.
    else if c.toNat < 0x20 then .error (.before .controlCharacter rest)
    else readFrom fuel (c :: taken) rest

/-- Reads a string after its opening quote. -/
def read (text : List Char) : Except Fault (String × List Char) :=
  -- One step more than there are characters is enough.
  readFrom (text.length + 1) [] text

/-- A lower case hexadecimal digit. -/
def hexChar (value : Nat) : Char :=
  -- The letters follow the digits.
  if value < 10 then Char.ofNat ('0'.toNat + value) else Char.ofNat ('a'.toNat + (value - 10))

/-- The written form of one character: quotes, backslashes and controls are escaped. -/
def escape (c : Char) : List Char :=
  -- A slash and characters beyond ASCII stand for themselves.
  if c = '"' then ['\\', '"']
  else if c = '\\' then ['\\', '\\']
  else if c = '\x08' then ['\\', 'b']
  else if c = '\x0c' then ['\\', 'f']
  else if c = '\n' then ['\\', 'n']
  else if c = '\r' then ['\\', 'r']
  else if c = '\t' then ['\\', 't']
  else if c.toNat < 0x20 then
    ['\\', 'u', '0', '0', hexChar (c.toNat / 16), hexChar (c.toNat % 16)]
  else [c]

/-- The written form of a string with its quotes. -/
def write (text : String) : List Char :=
  -- Only the quotes at both ends are not escaped.
  '"' :: (text.toList.flatMap escape ++ ['"'])

end RowFilter.Quoted
